namespace ComponentCatalog.Text

-- LF, CRLF and a lone CR all read as LF.
def unifyNewlines : List Char → List Char
  | []                => []
  | '\r' :: '\n' :: r => '\n' :: unifyNewlines r
  | '\r' :: r         => '\n' :: unifyNewlines r
  | c :: r            => c :: unifyNewlines r

end ComponentCatalog.Text
