import ComponentCatalog.Text.Split
import Mathlib.Data.List.Basic

namespace ComponentCatalog.Text

variable {sep sep' c : Char} {s t piece rest : List Char} {pieces : List (List Char)}
  {p : Char → Bool}

theorem splitOn_eq : splitOn sep s = s.splitOn sep := by
  induction s
  case nil         => rfl
  case cons c s hi =>
    have ⟨p, ps, hs⟩ := List.exists_cons_of_ne_nil (List.splitOn_ne_nil sep s)
    rw [splitOn, List.splitOn_cons_eq_if_modifyHead, hi, hs]
    rfl

theorem splitOn_append_cons (h : sep ∉ s) :
    splitOn sep (s ++ sep :: rest) = s :: splitOn sep rest := by
  rw [splitOn_eq, splitOn_eq, List.splitOn_append_cons_self_of_not_mem h]

theorem splitOn_append_sep :
    splitOn sep (s ++ sep :: rest) = splitOn sep s ++ splitOn sep rest := by
  rw [splitOn_eq, splitOn_eq, splitOn_eq, List.splitOn_append_cons_self]

theorem splitOn_intercalate (h : ∀ p ∈ pieces, sep ∉ p) (hn : pieces ≠ []) :
    splitOn sep ([sep].intercalate pieces) = pieces := by
  rw [splitOn_eq, List.splitOn_intercalate sep h hn]

-- Another separator takes the place of the first.
def exchange (sep sep' c : Char) : Char :=
  if c = sep then sep' else c

theorem splitOn_exchange (h : sep' ∉ s) :
    splitOn sep' (s.map (exchange sep sep')) = splitOn sep s := by
  induction s
  case nil         => rfl
  case cons c s hi =>
    have ⟨hc, hs⟩ := List.ne_and_not_mem_of_not_mem_cons h
    have he : (exchange sep sep' c == sep') = (c == sep) := by
      rw [exchange]
      split <;> simp_all [eq_comm]
    rw [List.map_cons, splitOn, splitOn, he, hi hs]
    split
    case isTrue     => rfl
    case isFalse hn => rw [exchange, if_neg (by simpa using hn)]

-- The pieces are then cut once more, at the separator that was there before.
theorem splitOn_exchange_intercalate (h : ∀ p ∈ pieces, sep' ∉ p) (hn : pieces ≠ []) :
    splitOn sep' (([sep'].intercalate pieces).map (exchange sep sep')) =
      pieces.flatMap (splitOn sep) := by
  induction pieces
  case nil => contradiction
  case cons p ps hi =>
    have ⟨hp, hps⟩ := List.forall_mem_cons.mp h
    by_cases he : ps = []
    case pos =>
      rw [he, List.intercalate_singleton, splitOn_exchange hp, List.flatMap_singleton]
    case neg =>
      have hs : exchange sep sep' sep' = sep' := ite_self _
      rw [List.intercalate_cons_of_ne_nil he, List.append_assoc, List.singleton_append,
        List.map_append, List.map_cons, hs, splitOn_append_sep, splitOn_exchange hp, hi hps he,
        List.flatMap_cons]

theorem splitOn_ne_nil (sep : Char) (s : List Char) : splitOn sep s ≠ [] :=
  splitOn_eq ▸ List.splitOn_ne_nil sep s

theorem intercalate_splitOn : [sep].intercalate (splitOn sep s) = s := by
  rw [splitOn_eq, List.intercalate_splitOn]

theorem intercalate_concat_append :
    [sep].intercalate (pieces ++ [piece ++ t]) = [sep].intercalate (pieces ++ [piece]) ++ t := by
  induction pieces
  case nil          => simp
  case cons p ps hi =>
    rw [List.cons_append, List.intercalate_cons_of_ne_nil (by simp), hi, List.cons_append,
      List.intercalate_cons_of_ne_nil (by simp)]
    simp only [List.append_assoc]

theorem intercalate_cons_append :
    [sep].intercalate ((t ++ piece) :: pieces) = t ++ [sep].intercalate (piece :: pieces) := by
  by_cases hp : pieces = []
  case pos => simp [hp]
  case neg =>
    rw [List.intercalate_cons_of_ne_nil hp, List.intercalate_cons_of_ne_nil hp]
    simp only [List.append_assoc]

theorem mem_intercalate (h : c ∈ [sep].intercalate pieces) : c = sep ∨ ∃ p ∈ pieces, c ∈ p := by
  induction pieces
  case nil => cases h
  case cons p ps hi =>
    by_cases hp : ps = []
    case pos =>
      rw [hp, List.intercalate_singleton] at h
      exact .inr ⟨p, List.mem_cons_self, h⟩
    case neg =>
      rw [List.intercalate_cons_of_ne_nil hp, List.mem_append, List.mem_append,
        List.mem_singleton] at h
      obtain (h | h) | h := h
      · exact .inr ⟨p, List.mem_cons_self, h⟩
      · exact .inl h
      · exact (hi h).imp_right fun ⟨q, hq, hc⟩ => ⟨q, List.mem_cons_of_mem _ hq, hc⟩

theorem infix_intercalate (h : piece ∈ pieces) : piece <:+: [sep].intercalate pieces := by
  induction pieces
  case nil => cases h
  case cons p ps hi =>
    by_cases hp : ps = []
    case pos => simp_all
    case neg =>
      rw [List.intercalate_cons_of_ne_nil hp]
      cases h
      case head   => exact ((List.prefix_append piece [sep]).trans (List.prefix_append _ _)).isInfix
      case tail h => exact (hi h).trans (List.suffix_append _ _).isInfix

theorem intercalate_concat_nil :
    [sep].intercalate (pieces ++ [[]]) = pieces.flatMap (· ++ [sep]) := by
  induction pieces
  case nil => rfl
  case cons p ps hi =>
    rw [List.cons_append, List.intercalate_cons_of_ne_nil (by simp), hi, List.flatMap_cons]

-- A piece begins with the first character, or is one of the pieces of the rest, or there is none.
theorem mem_splitOn_cons (h : piece ∈ splitOn sep (c :: s)) :
    piece = [] ∨ piece ∈ splitOn sep s ∨ c ≠ sep ∧ ∃ p ∈ splitOn sep s, piece = c :: p := by
  rw [splitOn_eq, List.splitOn_cons_eq_if_modifyHead] at h
  rw [splitOn_eq]
  split at h
  case isTrue =>
    rcases List.mem_cons.mp h with rfl | h
    case inl => exact .inl rfl
    case inr => exact .inr (.inl h)
  case isFalse hc =>
    have ⟨p, ps, hs⟩ := List.exists_cons_of_ne_nil (List.splitOn_ne_nil sep s)
    rw [hs, List.modifyHead_cons] at h
    rw [hs]
    rcases List.mem_cons.mp h with rfl | h
    case inl => exact .inr (.inr ⟨by simpa using hc, p, List.mem_cons_self, rfl⟩)
    case inr => exact .inr (.inl (List.mem_cons_of_mem _ h))

theorem not_mem_of_mem_splitOn (h : piece ∈ splitOn sep s) : sep ∉ piece := by
  induction s generalizing piece
  case nil         => simp_all [splitOn]
  case cons c s hi =>
    obtain rfl | h | ⟨hc, p, hp, rfl⟩ := mem_splitOn_cons h
    · exact List.not_mem_nil
    · exact hi h
    · exact List.not_mem_cons_of_ne_of_not_mem hc.symm (hi hp)

theorem mem_of_mem_splitOn (h : piece ∈ splitOn sep s) (hc : c ∈ piece) : c ∈ s := by
  induction s generalizing piece
  case nil         => simp_all [splitOn]
  case cons d s hi =>
    obtain rfl | h | ⟨_, p, hp, rfl⟩ := mem_splitOn_cons h
    · cases hc
    · exact List.mem_cons_of_mem _ (hi h hc)
    · rcases List.mem_cons.mp hc with rfl | hc
      case inl => exact List.mem_cons_self
      case inr => exact List.mem_cons_of_mem _ (hi hp hc)

-- What holds no separator and stands before a text belongs to the first of its pieces.
theorem splitOn_prepend (h : sep ∉ t) (hs : splitOn sep s = piece :: pieces) :
    splitOn sep (t ++ s) = (t ++ piece) :: pieces := by
  have hp : ∀ p ∈ piece :: pieces, sep ∉ p := fun p hm => not_mem_of_mem_splitOn (hs ▸ hm)
  have ⟨hpiece, hpieces⟩ := List.forall_mem_cons.mp hp
  have ht : t ++ s = [sep].intercalate ((t ++ piece) :: pieces) := by
    rw [intercalate_cons_append, ← hs, intercalate_splitOn]
  rw [ht, splitOn_intercalate (List.forall_mem_cons.mpr ⟨by simp [h, hpiece], hpieces⟩) (by simp)]

-- What holds no separator and stands behind a text belongs to the last of its pieces.
theorem splitOn_append (h : sep ∉ t) (hs : splitOn sep s = pieces ++ [piece]) :
    splitOn sep (s ++ t) = pieces ++ [piece ++ t] := by
  have hp : ∀ p ∈ pieces ++ [piece], sep ∉ p := fun p hm => not_mem_of_mem_splitOn (hs ▸ hm)
  have ⟨hpieces, hpiece⟩ := List.forall_mem_append.mp hp
  have hpiece : sep ∉ piece ++ t := by simp [h, List.forall_mem_singleton.mp hpiece]
  have ht : s ++ t = [sep].intercalate (pieces ++ [piece ++ t]) := by
    rw [intercalate_concat_append, ← hs, intercalate_splitOn]
  rw [ht, splitOn_intercalate ?_ (by simp)]
  exact List.forall_mem_append.mpr ⟨hpieces, List.forall_mem_singleton.mpr hpiece⟩

theorem exists_splitOn_append (s : List Char) (h : sep ∉ t) :
    ∃ ps p, splitOn sep (s ++ t) = ps ++ [p ++ t] := by
  have ⟨ps, p, hs⟩ := (List.eq_nil_or_concat' (splitOn sep s)).resolve_left
    (splitOn_ne_nil sep s)
  exact ⟨ps, p, splitOn_append h hs⟩

theorem occurs_iff : occurs t s ↔ t <:+: s := by
  induction s
  case nil         => simp [occurs]
  case cons c s hi =>
    rw [occurs, Bool.or_eq_true, hi, List.isPrefixOf_iff_prefix, List.infix_cons_iff]

theorem after?_eq_none_iff : after? t s = none ↔ ¬t <+: s := by
  simp only [Option.eq_none_iff_forall_ne_some, ne_eq, after?_eq_some_iff]
  constructor
  case mp  => exact fun h ⟨r, hr⟩ => h r hr.symm
  case mpr => exact fun h r hr => h ⟨r, hr.symm⟩

-- A character that the looked for text does not hold ends the search, whatever stands behind it.
theorem after?_append_cons (h : c ∉ t) :
    after? t (s ++ c :: rest) = (after? t s).map (· ++ c :: rest) := by
  fun_induction after? t s
  case case1         => rfl
  case case2 a t     =>
    have hne : a ≠ c := fun he => h (he ▸ List.mem_cons_self)
    simp [after?, hne]
  case case3 a t d s hd hi =>
    simp only [List.cons_append, after?, hd, if_true]
    exact hi fun hm => h (List.mem_cons_of_mem _ hm)
  case case4 a t d s hd =>
    simp only [List.cons_append, after?, hd]
    rfl

theorem takeWhile_append_cons (h : p c = false) :
    (s ++ c :: rest).takeWhile p = s.takeWhile p := by
  induction s
  case nil         => simp [h]
  case cons d s hi => rw [List.cons_append, List.takeWhile_cons, List.takeWhile_cons, hi]

theorem dropWhile_append_cons (h : p c = false) :
    (s ++ c :: rest).dropWhile p = s.dropWhile p ++ c :: rest := by
  induction s
  case nil         => simp [h]
  case cons d s hi =>
    rw [List.cons_append, List.dropWhile_cons, List.dropWhile_cons, hi]
    split <;> rfl

-- The text is cut where the characters that satisfy `p` end.
theorem takeWhile_boundary (hs : ∀ c ∈ s, p c) (hr : ∀ c ∈ rest.head?, p c = false) :
    (s ++ rest).takeWhile p = s := by
  rw [List.takeWhile_append_of_pos hs]
  cases rest <;> simp_all

theorem dropWhile_boundary (hs : ∀ c ∈ s, p c) (hr : ∀ c ∈ rest.head?, p c = false) :
    (s ++ rest).dropWhile p = rest := by
  rw [List.dropWhile_append_of_pos hs]
  cases rest <;> simp_all

end ComponentCatalog.Text
