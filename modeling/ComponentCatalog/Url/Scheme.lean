namespace ComponentCatalog.Url

-- Special schemes, with the ports that need not be given.
def defaultPorts : List (String × Nat) :=
  [("ftp", 21), ("http", 80), ("https", 443), ("ws", 80), ("wss", 443)]

def isFile (scheme : List Char) : Bool :=
  scheme == "file".toList

-- Whether the scheme is followed by a host. Files have one that may be empty.
def isSpecial (scheme : List Char) : Bool :=
  (defaultPorts.lookup (String.ofList scheme)).isSome

def isSchemeChar (c : Char) : Bool :=
  c.isAlphanum || c == '+' || c == '-' || c == '.'

def scheme? (s : List Char) : Option (List Char × List Char) := do
  guard (s.head?.any Char.isAlpha)
  match s.dropWhile isSchemeChar with
  | ':' :: rest => some ((s.takeWhile isSchemeChar).map Char.toLower, rest)
  | _           => none

end ComponentCatalog.Url
