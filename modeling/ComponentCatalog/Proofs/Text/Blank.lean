import ComponentCatalog.Proofs.Text.Split
import ComponentCatalog.Text.Blank
import ComponentCatalog.Text.Word
import Mathlib.Data.List.DropRight

namespace ComponentCatalog.Text

theorem CodeSet.has_cons_cons {a b n : Nat} {s : CodeSet} :
    has (a :: b :: s) n ↔ a ≤ n ∧ (n < b ∨ s.has n) := by
  simp only [has]
  by_cases ha : n < a
  case pos => simp [ha, Nat.not_le.mpr ha]
  case neg => by_cases hb : n < b <;> simp [ha, hb, Nat.not_lt.mp ha]

variable {p : Char → Bool} {c : Char} {s t : List Char}

-- The blank characters are few enough to look at each.
theorem not_isWord_of_isBlank (h : isBlank c) : isWord c = false := by
  have hw : ∀ n ∈ [9, 10, 11, 12, 13, 28, 29, 30, 31, 32, 133, 160, 5760, 8192, 8193, 8194, 8195,
      8196, 8197, 8198, 8199, 8200, 8201, 8202, 8232, 8233, 8239, 8287, 12288],
      n ≠ '_'.toNat ∧ alphanumeric.has n = false := by decide +kernel
  obtain ⟨hu, ha⟩ := hw c.toNat <| by
    simp only [isBlank, member, blanks, CodeSet.has_cons_cons] at h
    simp only [CodeSet.has, Bool.false_eq_true, List.mem_cons, List.not_mem_nil, or_false] at h ⊢
    omega
  have hc : c ≠ '_' := fun he => hu (congrArg Char.toNat he)
  rw [isWord, member, ha, beq_false_of_ne hc, Bool.or_false]

theorem not_isBlank_of_isWord (h : isWord c) : isBlank c = false := by
  by_contra hb
  rw [not_isWord_of_isBlank (Bool.not_eq_false _ ▸ hb)] at h
  cases h

theorem rdropWhile_cons_of_neg (h : ¬p c) : (c :: s).rdropWhile p = c :: s.rdropWhile p := by
  rw [List.rdropWhile, List.reverse_cons, List.dropWhile_append, List.rdropWhile]
  split
  case isTrue he => simp [List.isEmpty_iff.mp he, h]
  case isFalse   => simp

theorem rdropWhile_append_of_pos (h : ∀ c ∈ t, p c) : (s ++ t).rdropWhile p = s.rdropWhile p := by
  rw [List.rdropWhile, List.reverse_append, List.dropWhile_append_of_pos, List.rdropWhile]
  simpa using h

theorem rdropWhile_append_cons (h : p c = false) :
    (s ++ c :: t).rdropWhile p = s ++ c :: t.rdropWhile p := by
  simp only [List.rdropWhile, List.reverse_append, List.reverse_cons, List.append_assoc,
    List.singleton_append, dropWhile_append_cons h]
  simp

theorem not_of_dropWhile_eq_cons (h : s.dropWhile p = c :: t) : p c = false := by
  have hn : s.dropWhile p ≠ [] := by simp [h]
  simpa [h] using List.head_dropWhile_not p hn

theorem trim_eq : trim s = (s.dropWhile isBlank).rdropWhile isBlank := rfl

theorem mem_of_mem_trim (h : c ∈ trim s) : c ∈ s := by
  rw [trim_eq] at h
  exact (List.dropWhile_sublist _).subset ((List.rdropWhile_prefix _ _).subset h)

theorem trim_append_left (h : ∀ c ∈ t, isBlank c) : trim (t ++ s) = trim s := by
  rw [trim_eq, trim_eq, List.dropWhile_append_of_pos h]

theorem trim_append_right (h : ∀ c ∈ t, isBlank c) : trim (s ++ t) = trim s := by
  rw [trim_eq, trim_eq, List.dropWhile_append]
  split
  case isTrue he => rw [List.isEmpty_iff.mp he, List.dropWhile_eq_nil_iff.mpr h]
  case isFalse   => exact rdropWhile_append_of_pos h

theorem trim_cons (h : isBlank c = false) : trim (c :: s) = c :: s.rdropWhile isBlank := by
  have hc : ¬isBlank c := by simp [h]
  rw [trim_eq, List.dropWhile_cons_of_neg hc, rdropWhile_cons_of_neg hc]

theorem trim_append_cons (h : isBlank c = false) :
    trim (s ++ c :: t) = s.dropWhile isBlank ++ c :: t.rdropWhile isBlank := by
  rw [trim_eq, dropWhile_append_cons h, rdropWhile_append_cons h]

theorem trim_cons_concat {d : Char} (h : isBlank c = false) (h' : isBlank d = false) :
    trim (c :: (s ++ [d])) = c :: (s ++ [d]) := by
  rw [trim_cons h, List.rdropWhile_concat_neg _ _ _ (by simp [h'])]

theorem trim_trim : trim (trim s) = trim s := by
  cases h : s.dropWhile isBlank
  case nil      => simp [trim_eq, h]
  case cons c t =>
    have hc : isBlank c = false := not_of_dropWhile_eq_cons h
    have ht : trim s = c :: t.rdropWhile isBlank := by
      rw [trim_eq, h, rdropWhile_cons_of_neg (by simp [hc])]
    rw [ht, trim_cons hc, List.rdropWhile_idempotent]

theorem exists_eq_append_trim (s : List Char) :
    ∃ b b', s = b ++ (trim s ++ b') ∧ (∀ c ∈ b, isBlank c) ∧ ∀ c ∈ b', isBlank c := by
  refine ⟨s.takeWhile isBlank, (s.dropWhile isBlank).rtakeWhile isBlank, ?_, ?_, ?_⟩
  case refine_1 =>
    rw [trim_eq, List.rdropWhile_append_rtakeWhile, List.takeWhile_append_dropWhile]
  case refine_2 => exact fun c hc => List.mem_takeWhile_imp hc
  case refine_3 => exact fun c hc => List.mem_rtakeWhile_imp hc

theorem trim_eq_nil_iff : trim s = [] ↔ ∀ c ∈ s, isBlank c := by
  constructor
  case mp =>
    intro h
    have ⟨b, b', he, hb, hb'⟩ := exists_eq_append_trim s
    rw [he, h]
    exact List.forall_mem_append.mpr ⟨hb, hb'⟩
  case mpr =>
    intro h
    rw [trim_eq, List.dropWhile_eq_nil_iff.mpr h, List.rdropWhile_nil]

-- Blanks around a text are blanks around its pieces.
theorem map_trim_splitOn_trim {sep : Char} (hs : isBlank sep = false) :
    (splitOn sep (trim s)).map trim = (splitOn sep s).map trim := by
  have hn : ∀ {b : List Char}, (∀ c ∈ b, isBlank c) → sep ∉ b :=
    fun hb hm => Bool.false_ne_true (hs.symm.trans (hb sep hm))
  have ⟨b, b', he, hb, hb'⟩ := exists_eq_append_trim s
  have ⟨ps, p, hp⟩ := (List.eq_nil_or_concat' (splitOn sep (trim s))).resolve_left
    (splitOn_ne_nil sep (trim s))
  have ⟨q, qs, hq⟩ := List.exists_cons_of_ne_nil (splitOn_ne_nil sep (trim s ++ b'))
  calc (splitOn sep (trim s)).map trim
    _ = (splitOn sep (trim s ++ b')).map trim := by
      rw [splitOn_append (hn hb') hp, hp, List.map_append, List.map_append, List.map_singleton,
        List.map_singleton, trim_append_right hb']
    _ = (splitOn sep (b ++ (trim s ++ b'))).map trim := by
      rw [splitOn_prepend (hn hb) hq, hq, List.map_cons, List.map_cons, trim_append_left hb]
    _ = (splitOn sep s).map trim := by rw [← he]

end ComponentCatalog.Text
