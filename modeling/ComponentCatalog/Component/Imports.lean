import ComponentCatalog.Text.Blank
import ComponentCatalog.Text.Split

namespace ComponentCatalog.Imports

open Text

def isQuote (c : Char) : Bool :=
  c == '\'' || c == '"'

-- Blanks, `from`, blanks and the quoted name, and what follows them.
def origin? (s : List Char) : Option (List Char × List Char) := do
  guard ((s.takeWhile isBlank).length ≠ 0)
  let s ← after? "from".toList (s.dropWhile isBlank)
  guard ((s.takeWhile isBlank).length ≠ 0)
  match s.dropWhile isBlank with
  | q :: s =>
    guard (isQuote q)
    let name := s.takeWhile (!isQuote ·)
    guard (name ≠ [])
    match s.dropWhile (!isQuote ·) with
    | _ :: rest => some (name, rest)
    | []        => none
  | [] => none

-- The last origin that the rest of the line leads to.
def clause? : List Char → Option (List Char × List Char)
  | []     => none
  | c :: s => (if c == '\n' then none else clause? s) <|> origin? (c :: s)

-- At least one blank, and as many as leave a statement.
def blanks? : List Char → Option (List Char × List Char)
  | []     => none
  | c :: s => if isBlank c then blanks? s <|> clause? s else none

-- The word `import`, blanks, a clause on one line, and then `from` and a module name in quotes. The
-- clause is as long as it can be, and the blanks and the quotes need not stand on that line.
def statement? (s : List Char) : Option (List Char × List Char) :=
  (after? "import".toList s).bind blanks?

theorem dropWhile_length (p : Char → Bool) (s : List Char) : (s.dropWhile p).length ≤ s.length :=
  (s.dropWhile_sublist p).length_le

theorem origin?_length {s : List Char} (h : origin? s = some r) : r.2.length ≤ s.length := by
  unfold origin? at h
  obtain ⟨-, -, h⟩ := Option.bind_eq_some_iff.mp h
  obtain ⟨s₁, h₁, h⟩ := Option.bind_eq_some_iff.mp h
  obtain ⟨-, -, h⟩ := Option.bind_eq_some_iff.mp h
  have l₁ := after?_length_le h₁
  have l₂ := dropWhile_length isBlank s
  have l₃ := dropWhile_length isBlank s₁
  cases e : s₁.dropWhile isBlank
  case nil => rw [e] at h; cases h
  case cons q s₂ =>
    rw [e] at h l₃
    obtain ⟨-, -, h⟩ := Option.bind_eq_some_iff.mp h
    obtain ⟨-, -, h⟩ := Option.bind_eq_some_iff.mp h
    have l₄ := dropWhile_length (!isQuote ·) s₂
    cases e' : s₂.dropWhile (!isQuote ·)
    case nil => rw [e'] at h; cases h
    case cons _ rest =>
      rw [e'] at h l₄
      cases h
      rw [List.length_cons] at l₃ l₄
      show rest.length ≤ s.length
      omega

theorem clause?_length {s : List Char} (h : clause? s = some r) : r.2.length ≤ s.length := by
  fun_induction clause? s
  case case1 => simp at h
  case case2 c s ih =>
    simp only [Option.orElse_eq_orElse, Option.orElse_eq_or, Option.or_eq_some_iff] at h
    rcases h with h | ⟨-, h⟩
    case inl =>
      split at h
      case isTrue => simp at h
      case isFalse => exact Nat.le_succ_of_le (ih h)
    case inr => exact origin?_length h

theorem blanks?_length {s : List Char} (h : blanks? s = some r) : r.2.length ≤ s.length := by
  fun_induction blanks? s
  case case1 => simp at h
  case case2 c s _ ih =>
    simp only [Option.orElse_eq_orElse, Option.orElse_eq_or, Option.or_eq_some_iff] at h
    rcases h with h | ⟨-, h⟩
    case inl => exact Nat.le_succ_of_le (ih h)
    case inr => exact Nat.le_succ_of_le (clause?_length h)
  case case3 => simp at h

theorem statement?_length {s : List Char} (h : statement? s = some r) :
    r.2.length < s.length := by
  obtain ⟨s₁, h₁, h₂⟩ := Option.bind_eq_some_iff.mp h
  have l₁ := congrArg List.length (after?_eq_some_iff.mp h₁)
  have l₂ := blanks?_length h₂
  simp at l₁
  omega

-- The names in the order of their statements. Statements do not overlap.
def imports : List Char → List (List Char)
  | []     => []
  | c :: s =>
    match _ : statement? (c :: s) with
    | some (name, rest) => name :: imports rest
    | none              => imports s
termination_by s => s.length
decreasing_by
  case _ => exact statement?_length ‹_›
  case _ => exact Nat.lt_succ_self _

end ComponentCatalog.Imports
