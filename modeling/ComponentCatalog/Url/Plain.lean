namespace ComponentCatalog.Url

def visible (c : Char) : Bool :=
  0x20 ≤ c.toNat && c.toNat < 0x7F

-- Characters that end a part or mark something in it do not stand for themselves, so each part has
-- its own.
def plainBut (reserved : String) (c : Char) : Bool :=
  visible c && !reserved.toList.contains c

def inFragment : Char → Bool := plainBut " \"<>\x60"

def inQuery (special : Bool) : Char → Bool :=
  plainBut (if special then " \"#<>'" else " \"#<>")

def inPath : Char → Bool := plainBut " \"<>\x60#?\x7b\x7d"

def inUser : Char → Bool := plainBut " \"<>\x60#?\x7b\x7d/:;=@[\\]^|"

end ComponentCatalog.Url
