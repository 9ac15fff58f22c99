import ComponentCatalog.Text.Newline
import Mathlib.Data.List.Basic

namespace ComponentCatalog.Text

-- The ways to end a line.
inductive Ending
  | lf
  | crlf
  | cr
deriving DecidableEq, Repr

def Ending.text : Ending → List Char
  | .lf   => ['\n']
  | .crlf => ['\r', '\n']
  | .cr   => ['\r']

-- A text, and the same text with an ending of its own for each newline. What follows a lone CR must
-- not begin with an LF, for the two would be one ending.
inductive Respelled : List Char → List Char → Prop
  | nil : Respelled [] []
  | other {c : Char} {t s : List Char} (hc : c ≠ '\n') (h : Respelled t s) :
    Respelled (c :: t) (c :: s)
  | newline {t s : List Char} (e : Ending) (apart : e = .cr → s.head? ≠ some '\n')
    (h : Respelled t s) : Respelled ('\n' :: t) (e.text ++ s)

-- All newlines with the same ending.
def spell (e : Ending) (t : List Char) : List Char :=
  t.flatMap fun c => if c = '\n' then e.text else [c]

variable {c : Char} {e : Ending} {s t : List Char}

theorem unifyNewlines_cons (hc : c ≠ '\r') : unifyNewlines (c :: s) = c :: unifyNewlines s := by
  rw [unifyNewlines]
  all_goals simp_all

theorem unifyNewlines_ending (apart : e = .cr → s.head? ≠ some '\n') :
    unifyNewlines (e.text ++ s) = '\n' :: unifyNewlines s := by
  cases e
  case lf   => exact unifyNewlines_cons (by decide)
  case crlf => rfl
  case cr   =>
    cases s
    case nil      => rfl
    case cons d s =>
      have hd : d ≠ '\n' := fun he => apart rfl (congrArg some he)
      rw [Ending.text, List.singleton_append, unifyNewlines]
      rintro r ⟨⟩
      exact hd rfl

theorem Respelled.unifyNewlines_eq (h : Respelled t s) (hr : '\r' ∉ t) : unifyNewlines s = t := by
  induction h
  case nil => rfl
  case other hc _ hi =>
    have ⟨hne, ht⟩ := List.ne_and_not_mem_of_not_mem_cons hr
    rw [unifyNewlines_cons hne.symm, hi ht]
  case newline apart _ hi =>
    rw [unifyNewlines_ending apart, hi (List.not_mem_of_not_mem_cons hr)]

theorem return_not_mem_unifyNewlines : '\r' ∉ unifyNewlines s := by
  fun_induction unifyNewlines s <;> simp_all [eq_comm]

-- Each CR of the text is part of the ending that it is read as.
theorem respelled_unifyNewlines (s : List Char) : Respelled (unifyNewlines s) s := by
  fun_induction unifyNewlines s
  case case1          => exact .nil
  case case2 r hi     => exact .newline .crlf nofun hi
  case case3 r hr hi  =>
    refine .newline .cr (fun _ hh => ?_) hi
    obtain ⟨s, rfl⟩ := List.head?_eq_some_iff.mp hh
    exact hr s rfl
  case case4 c r _ hc hi =>
    by_cases hn : c = '\n'
    case pos => exact hn ▸ .newline .lf nofun hi
    case neg => exact .other hn hi

theorem unifyNewlines_eq_iff : unifyNewlines s = t ↔ '\r' ∉ t ∧ Respelled t s := by
  constructor
  case mp  =>
    rintro rfl
    exact ⟨return_not_mem_unifyNewlines, respelled_unifyNewlines s⟩
  case mpr => exact fun ⟨hr, h⟩ => h.unifyNewlines_eq hr

theorem newline_not_mem_spell_cr : '\n' ∉ spell .cr t := by
  intro hm
  have ⟨c, _, hc⟩ := List.mem_flatMap.mp hm
  split at hc
  case isTrue     => exact absurd hc (by decide)
  case isFalse hn => exact hn (List.mem_singleton.mp hc).symm

theorem respelled_spell (e : Ending) (t : List Char) : Respelled t (spell e t) := by
  induction t
  case nil         => exact .nil
  case cons c t hi =>
    rw [spell, List.flatMap_cons]
    by_cases hn : c = '\n'
    case neg =>
      rw [if_neg hn]
      exact .other hn hi
    case pos =>
      subst hn
      rw [if_pos rfl]
      refine .newline e ?_ hi
      rintro rfl hh
      exact newline_not_mem_spell_cr (List.mem_of_head? hh)

end ComponentCatalog.Text
