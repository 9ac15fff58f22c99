namespace ComponentCatalog.Text

-- The pieces between the occurrences of `sep`, one more than there are occurrences.
def splitOn (sep : Char) : List Char → List (List Char)
  | []     => [[]]
  | c :: r =>
    if c == sep then [] :: splitOn sep r
    else
      match splitOn sep r with
      | p :: ps => (c :: p) :: ps
      | []      => [[c]]

-- What follows the leading `t`.
def after? : List Char → List Char → Option (List Char)
  | [], s          => some s
  | _ :: _, []     => none
  | a :: t, c :: s => if a == c then after? t s else none

theorem after?_eq_some_iff {t s r : List Char} : after? t s = some r ↔ s = t ++ r := by
  fun_induction after? t s
  case case1 => simp [eq_comm]
  case case2 => simp
  case case3 h ih => simp_all
  case case4 h => simp; rintro rfl; simp at h

theorem after?_length_le {t s r : List Char} (h : after? t s = some r) : r.length ≤ s.length := by
  simp [after?_eq_some_iff.mp h]

def occurs (t : List Char) : List Char → Bool
  | []     => t.isEmpty
  | c :: s => t.isPrefixOf (c :: s) || occurs t s

-- The text before the last `sep` and the text after it.
def cutLast? (sep : Char) : List Char → Option (List Char × List Char)
  | []     => none
  | c :: s =>
    match cutLast? sep s with
    | some (a, b) => some (c :: a, b)
    | none        => if c == sep then some ([], s) else none

end ComponentCatalog.Text
