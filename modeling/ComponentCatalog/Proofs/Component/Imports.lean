import ComponentCatalog.Component.Imports
import ComponentCatalog.Proofs.Text.Blank
import ComponentCatalog.Proofs.Text.Split
import Mathlib.Data.Option.Basic

namespace ComponentCatalog.Imports

open Text

-- A line is a statement, or it holds neither of the words that make one.
inductive Line
  | statement (clause : List Char) (quote : Char) (name : List Char)
  | other (text : List Char)

namespace Line

def text : Line → List Char
  | .statement clause quote name =>
    "import".toList ++ ' ' :: (clause ++ ' ' ::
      ("from".toList ++ ' ' :: quote :: (name ++ [quote, ';'])))
  | .other text                  => text

def name? : Line → Option (List Char)
  | .statement _ _ name => some name
  | .other _            => none

-- A clause may hold anything, the words and quotes of other statements too.
def Proper : Line → Prop
  | .statement clause quote name =>
    '\n' ∉ clause ∧ isQuote quote ∧ name ≠ [] ∧ ∀ c ∈ name, isQuote c = false ∧ isBlank c = false
  | .other text                  =>
    '\n' ∉ text ∧ ¬"import".toList <:+: text ∧ ¬"from".toList <:+: text

instance : DecidablePred Proper
  | .statement _ _ name =>
    have : Decidable (∀ c ∈ name, isQuote c = false ∧ isBlank c = false) :=
      List.decidableBAll _ name
    inferInstanceAs (Decidable (_ ∧ _ ∧ _ ∧ _))
  | .other _            => inferInstanceAs (Decidable (_ ∧ _ ∧ _))

theorem text_other {t : List Char} : (other t).text = t := rfl

theorem text_statement {clause name : List Char} {quote : Char} :
    (statement clause quote name).text =
      "import".toList ++ ' ' :: (clause ++ ' ' ::
        ("from".toList ++ ' ' :: quote :: (name ++ [quote, ';']))) := rfl

end Line

def layout (lines : List Line) : List Char :=
  ['\n'].intercalate (lines.map Line.text)

variable {s t rest clause name text : List Char} {lines : List Line} {quote c : Char}
  {l : Line}

section Origin

theorem origin?_of_not_blank (h : isBlank c = false) : origin? (c :: s) = none := by
  rw [origin?, List.takeWhile_cons_of_neg (by simp [h])]
  rfl

theorem origin?_of_not_prefix (h : ¬"from".toList <+: s.dropWhile isBlank) : origin? s = none := by
  rw [origin?, after?_eq_none_iff.mpr h]
  simp

theorem clause?_cons_of_not_blank (h : isBlank c = false) : clause? (c :: s) = clause? s := by
  have hc : (c == '\n') = false := beq_false_of_ne (by rintro rfl; exact absurd h (by decide))
  rw [clause?, hc, origin?_of_not_blank h]
  simp

theorem clause?_append_of_not_blank (h : ∀ c ∈ t, isBlank c = false) :
    clause? (t ++ s) = clause? s := by
  induction t
  case nil         => rfl
  case cons c t hi =>
    have ⟨hc, ht⟩ := List.forall_mem_cons.mp h
    rw [List.cons_append, clause?_cons_of_not_blank hc, hi ht]

theorem blanks?_of_not_blank (h : isBlank c = false) : blanks? (c :: s) = none := by
  rw [blanks?, if_neg (by simp [h])]

theorem isBlank_of_isQuote (h : isQuote quote) : isBlank quote = false := by
  simp only [isQuote, Bool.or_eq_true, beq_iff_eq] at h
  cases h <;> simp_all <;> decide

end Origin

-- What stands behind a clause and the blank that ends it.
def source (quote : Char) (name : List Char) : List Char :=
  "from".toList ++ ' ' :: quote :: (name ++ [quote])

theorem source_append :
    source quote name ++ rest = "from".toList ++ ' ' :: quote :: (name ++ quote :: rest) := by
  unfold source
  generalize "from".toList = f
  simp

theorem text_append : (Line.statement clause quote name).text ++ rest =
    "import".toList ++ ' ' :: (clause ++ ' ' :: (source quote name ++ ';' :: rest)) := by
  unfold source
  rw [Line.text_statement]
  generalize "import".toList = i
  generalize "from".toList = f
  simp

section Statement

variable (hq : isQuote quote) (hn : name ≠ [])
  (hw : ∀ c ∈ name, isQuote c = false ∧ isBlank c = false)

include hq hw

-- The last `from` of the line is the one in front of the name.
theorem clause?_source (hr : clause? rest = none) : clause? (source quote name ++ rest) = none := by
  have hquote : isBlank quote = false := isBlank_of_isQuote hq
  have hfrom : ∀ c ∈ "from".toList, isBlank c = false := fun c hc =>
    eq_false_of_ne_true (List.any_eq_false.mp (by decide) c hc)
  have horigin : origin? (' ' :: quote :: (name ++ quote :: rest)) = none := by
    apply origin?_of_not_prefix
    rw [List.dropWhile_cons_of_pos (by decide), List.dropWhile_cons_of_neg (by simp [hquote])]
    intro h
    have he : 'f' = quote := (List.cons_prefix_cons.mp h).left
    exact absurd (he ▸ hq) (by decide)
  rw [source_append, clause?_append_of_not_blank hfrom, clause?, clause?_cons_of_not_blank hquote,
    clause?_append_of_not_blank fun c hc => (hw c hc).right, clause?_cons_of_not_blank hquote, hr,
    horigin]
  rfl

include hn

theorem origin?_source : origin? (' ' :: (source quote name ++ rest)) = some (name, rest) := by
  have hspace : isBlank ' ' := by decide
  have hquote : isBlank quote = false := isBlank_of_isQuote hq
  have hname : ∀ c ∈ name, (!isQuote c) := fun c hc => by simp [(hw c hc).left]
  have hend : ∀ c ∈ (quote :: rest).head?, (!isQuote c) = false := by
    intro c hc; cases hc; simp [hq]
  have hread : after? "from".toList (source quote name ++ rest) =
      some (' ' :: quote :: (name ++ quote :: rest)) := after?_eq_some_iff.mpr source_append
  have hdrop : (' ' :: (source quote name ++ rest)).dropWhile isBlank =
      source quote name ++ rest := by
    rw [List.dropWhile_cons_of_pos hspace]
    exact List.dropWhile_cons_of_neg (by decide)
  have htake := takeWhile_boundary hname hend
  have hrest := dropWhile_boundary hname hend
  rw [origin?, hdrop, hread]
  simp [-List.takeWhile_eq_nil_iff, hspace, hquote, hq, hn, htake, hrest, guard]

theorem clause?_append (hc : '\n' ∉ clause) (hr : clause? rest = none) :
    clause? (clause ++ ' ' :: (source quote name ++ rest)) = some (name, rest) := by
  induction clause
  case nil =>
    rw [List.nil_append, clause?, clause?_source hq hw hr, origin?_source hq hn hw]
    rfl
  case cons c clause hi =>
    have ⟨hl, hc⟩ := List.ne_and_not_mem_of_not_mem_cons hc
    rw [List.cons_append, clause?, hi hc, beq_false_of_ne hl.symm]
    rfl

-- However many blanks stand before the clause, the same name is found, or none.
theorem blanks?_append (hc : '\n' ∉ clause) (hr : clause? rest = none) :
    blanks? (clause ++ ' ' :: (source quote name ++ rest)) = none ∨
      blanks? (clause ++ ' ' :: (source quote name ++ rest)) = some (name, rest) := by
  induction clause
  case nil =>
    have hstart : blanks? (source quote name ++ rest) = none := blanks?_of_not_blank (by decide)
    rw [List.nil_append, blanks?, hstart, clause?_source hq hw hr]
    exact .inl rfl
  case cons c clause hi =>
    have ⟨_, hc⟩ := List.ne_and_not_mem_of_not_mem_cons hc
    rw [List.cons_append, blanks?, clause?_append hq hn hw hc hr]
    split
    case isFalse => exact .inl rfl
    case isTrue  =>
      right
      cases hi hc
      all_goals simp_all

theorem statement?_text (hc : '\n' ∉ clause) (hr : clause? rest = none) :
    statement? ((Line.statement clause quote name).text ++ rest) = some (name, ';' :: rest) := by
  have hend : clause? (';' :: rest) = none := by rw [clause?_cons_of_not_blank (by decide), hr]
  have hread : after? "import".toList ((Line.statement clause quote name).text ++ rest) =
      some (' ' :: (clause ++ ' ' :: (source quote name ++ ';' :: rest))) :=
    after?_eq_some_iff.mpr text_append
  have hspace : isBlank ' ' := by decide
  rw [statement?, hread, Option.bind_some, blanks?, if_pos hspace, clause?_append hq hn hw hc hend]
  cases blanks?_append hq hn hw hc hend
  case inl h => rw [h]; rfl
  case inr h => rw [h]; rfl

end Statement

-- What stands behind a line.
def behind : List Line → List Char
  | []    => []
  | lines => '\n' :: layout lines

theorem layout_cons : layout (l :: lines) = l.text ++ behind lines := by
  cases lines
  case nil  => simp [layout, behind]
  case cons => simp [layout, behind, List.intercalate_cons_of_ne_nil]

-- No word goes on behind its line.
theorem after?_append_behind (h : '\n' ∉ t) :
    after? t (s ++ behind lines) = (after? t s).map (· ++ behind lines) := by
  cases lines
  case nil  => simp [behind]
  case cons => exact after?_append_cons h

theorem after?_of_not_infix (h : ¬t <:+: text) (hs : s <:+ text) : after? t s = none :=
  after?_eq_none_iff.mpr fun hp => h (hp.isInfix.trans hs.isInfix)

theorem after?_from_import :
    after? "from".toList (("import".toList ++ t ++ s).dropWhile isBlank) = none := by
  have himport : "import".toList = ['i', 'm', 'p', 'o', 'r', 't'] := by decide
  have hfrom : "from".toList = ['f', 'r', 'o', 'm'] := by decide
  rw [himport, hfrom]
  rfl

-- What is looked for behind a clause is not found on the lines that follow.
theorem after?_from_layout (h : ∀ l ∈ lines, l.Proper) :
    after? "from".toList ((layout lines).dropWhile isBlank) = none := by
  have hfrom : '\n' ∉ "from".toList := by decide
  induction lines
  case nil             => decide
  case cons l lines hi =>
    have ⟨hl, hlines⟩ := List.forall_mem_cons.mp h
    rw [layout_cons]
    cases l
    case statement  => rw [Line.text_statement]; exact after?_from_import
    case other text =>
      have ⟨_, _, hf⟩ := hl
      rw [Line.text_other, List.dropWhile_append]
      split
      case isFalse =>
        rw [after?_append_behind hfrom, after?_of_not_infix hf (List.dropWhile_suffix _)]
        rfl
      case isTrue =>
        cases lines
        case nil  => decide
        case cons => exact hi hlines

theorem clause?_behind (h : ∀ l ∈ lines, l.Proper) : clause? (behind lines) = none := by
  cases lines
  case nil          => rfl
  case cons l lines =>
    have ho : origin? ('\n' :: layout (l :: lines)) = none := by
      rw [origin?, List.dropWhile_cons_of_pos (by decide), after?_from_layout h]
      simp
    rw [behind, clause?, ho]
    · rfl
    · simp

theorem imports_of_some (h : statement? s = some (name, rest)) :
    imports s = name :: imports rest := by
  cases s
  case nil  => cases h
  case cons =>
    rw [imports]
    split <;> simp_all

theorem imports_of_none (h : statement? (c :: s) = none) : imports (c :: s) = imports s := by
  rw [imports]
  split <;> simp_all

theorem statement?_of_ne (h : c ≠ 'i') : statement? (c :: s) = none := by
  have himport : "import".toList = 'i' :: "mport".toList := by decide
  rw [statement?, himport, after?, if_neg (by simpa using h.symm)]
  rfl

theorem statement?_of_after? (h : after? "import".toList s = none) : statement? s = none := by
  rw [statement?, h]
  rfl

theorem imports_other_append (h : ¬"import".toList <:+: text) :
    imports (text ++ behind lines) = imports (behind lines) := by
  have himport : '\n' ∉ "import".toList := by decide
  have hnone : ∀ s, s <:+ text → statement? (s ++ behind lines) = none := by
    intro s hs
    apply statement?_of_after?
    rw [after?_append_behind himport, after?_of_not_infix h hs]
    rfl
  induction text
  case nil            => rfl
  case cons c text hi =>
    have hc : statement? (c :: (text ++ behind lines)) = none := hnone _ List.suffix_rfl
    rw [List.cons_append, imports_of_none hc]
    apply hi
    · exact fun ht => h (ht.trans (List.suffix_cons c text).isInfix)
    · exact fun s hs => hnone s (hs.trans (List.suffix_cons c text))

theorem imports_behind : imports (behind lines) = imports (layout lines) := by
  cases lines
  case nil  => rfl
  case cons => exact imports_of_none (statement?_of_ne (by decide))

theorem imports_layout (h : ∀ l ∈ lines, l.Proper) :
    imports (layout lines) = lines.filterMap Line.name? := by
  induction lines
  case nil             => rw [layout, List.map_nil, List.intercalate_nil, imports]; rfl
  case cons l lines hi =>
    obtain ⟨hl, hlines⟩ := List.forall_mem_cons.mp h
    rw [layout_cons]
    cases l
    case statement clause quote name =>
      obtain ⟨hc, hq, hn, hw⟩ := hl
      have hs := statement?_text hq hn hw hc (clause?_behind hlines)
      have hend : statement? (';' :: behind lines) = none := statement?_of_ne (by decide)
      rw [imports_of_some hs, imports_of_none hend, imports_behind, hi hlines]
      rfl
    case other text =>
      obtain ⟨_, himport, _⟩ := hl
      rw [Line.text_other, imports_other_append himport, imports_behind, hi hlines]
      rfl

theorem imports_layout_nested :
    imports (layout [.statement "React, \x7b from \x7d".toList '\'' "react".toList,
        .other "export const width = 4;".toList, .statement [] '"' "./grid.css".toList, .other [],
        .statement "a from 'b'; import c".toList '"' "../d".toList]) =
      ["react".toList, "./grid.css".toList, "../d".toList] :=
  imports_layout (by decide +kernel)

end ComponentCatalog.Imports
