namespace ComponentCatalog.Text

-- Capitals that are ASCII letters. Some letters of other scripts, and ligatures, have such capitals
-- too.
def capitals : List (Char × String) := [
  ('ß', "SS"), ('ı', "I"), ('ſ', "S"), ('ﬀ', "FF"), ('ﬁ', "FI"), ('ﬂ', "FL"), ('ﬃ', "FFI"),
  ('ﬄ', "FFL"), ('ﬅ', "ST"), ('ﬆ', "ST")]

def capital (c : Char) : List Char :=
  match capitals.lookup c with
  | some s => s.toList
  | none   => [c.toUpper]

def capitalize (s : List Char) : List Char :=
  s.flatMap capital

end ComponentCatalog.Text
