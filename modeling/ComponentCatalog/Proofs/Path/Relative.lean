import ComponentCatalog.Proofs.Path
import Mathlib.Data.List.Induction

namespace ComponentCatalog.Path

variable {p q root : Path} {cwd place as bs ss up : List String} {s : String}

theorem not_back_mem_segments (hc : ".." ∉ cwd) : ".." ∉ p.segments cwd := by
  have hb : ".." ∉ (if p.isAbsolute then [] else cwd) := by split <;> simp [hc]
  rw [segments]
  refine List.foldlRecOn (motive := fun place => ".." ∉ place) p.parts descend hb ?_
  intro place hp s _
  rw [descend]
  split
  case isTrue      => exact fun hm => hp <| List.dropLast_subset _ hm
  case isFalse hne => simpa [hp] using Ne.symm hne

theorem foldl_descend_replicate :
    (List.replicate up.length "..").foldl descend (place ++ up) = place := by
  induction up using List.reverseRecOn
  case nil => rw [List.length_nil, List.replicate_zero, List.foldl_nil, List.append_nil]
  case append_singleton up s hi =>
    rw [List.length_append, List.length_singleton, List.replicate_succ, List.foldl_cons,
      ← List.append_assoc, descend, if_pos rfl, List.dropLast_concat, hi]

theorem foldl_descend_detour (h : ".." ∉ bs) : (detour as bs).foldl descend as = bs := by
  have ⟨common, as', bs', hf, hd⟩ := exists_fork as bs
  have hn : ".." ∉ bs' := fun hm => h <| hf.right ▸ List.mem_append_right _ hm
  rw [hd, List.foldl_append, hf.left, foldl_descend_replicate, foldl_descend hn, ← hf.right]

theorem detour_self (as : List String) : detour as as = [] := by
  induction as
  case nil          => rfl
  case cons a as hi => rwa [detour, if_pos rfl]

theorem anchor_ofString {text : String} (h : text.toList.head? ≠ some '/') :
    (ofString text).anchor = .none := by
  rw [ofString]
  cases ht : text.toList
  case nil       => rfl
  case cons c cs =>
    have hc : (c == '/') = false := by simpa [ht] using h
    rw [List.takeWhile_cons, hc]
    rfl

-- A way is read back from its text.
theorem ofString_wayText (h : ∀ s ∈ ss, s ≠ "" ∧ s ≠ "." ∧ '/' ∉ s.toList) :
    ofString (wayText ss) = ⟨.none, ss⟩ := by
  by_cases hs : ss = []
  case pos => subst hs; decide
  case neg =>
    have hp : Text.splitOn '/' (wayText ss).toList = ss.map String.toList := by
      rw [wayText_of_ne_nil hs, String.toList_intercalate]
      exact Text.splitOn_intercalate (by simpa using fun s hm => (h s hm).2.2) (by simpa using hs)
    have ha : (wayText ss).toList.head? ≠ some '/' := by
      intro hh
      have ⟨cs, ht⟩ := List.head?_eq_some_iff.mp hh
      have hm : ([] : List Char) ∈ ss.map String.toList := by
        rw [← hp, ht]
        exact List.mem_cons_self
      have ⟨s, hm, he⟩ := List.mem_map.mp hm
      exact (h s hm).1 (String.toList_eq_nil_iff.mp he)
    have hparts : (ofString (wayText ss)).parts = ss := by
      have hk : ∀ s ∈ ss, decide (s ≠ "" ∧ s ≠ ".") = true :=
        fun s hm => decide_eq_true ⟨(h s hm).1, (h s hm).2.1⟩
      rw [ofString, hp, List.map_map]
      simpa [Function.comp_def] using List.filter_eq_self.mpr hk
    rw [← anchor_ofString ha]
    exact congrArg (Path.mk _) hparts

theorem toString_relative : toString ⟨.none, ss⟩ = wayText ss := by
  cases ss
  case nil  => rfl
  case cons => exact String.empty_append ..

-- The text of a path relative to a root. It goes up to the last folder that both have in common and
-- then down.
structure LeadsBack (cwd : List String) (p root : Path) (text : String) : Prop where
  back     : ((root.resolve cwd).join (.ofString text)).resolve cwd = p.resolve cwd
  nonempty : text ≠ ""
  here     : text = "." ↔ p.resolve cwd = root.resolve cwd
  -- Up from the root to the last common folder, and then down.
  run      : ∃ common up names, Fork (root.segments cwd) (p.segments cwd) common up names ∧
    ".." ∉ names ∧ (ofString text).parts = List.replicate up.length ".." ++ names
  -- Reading the text as a path and writing it again changes nothing.
  normal   : (ofString text).toString = text
  same     : ∀ q : Path, q.Clean →
    (q.relativeTo cwd root = text ↔ q.resolve cwd = p.resolve cwd)

theorem resolve_eq_iff : p.resolve cwd = q.resolve cwd ↔ p.segments cwd = q.segments cwd := by
  simp [resolve]

theorem wayText_eq_iff {ss ss' : List String} (h : ∀ s ∈ ss, s ≠ "" ∧ s ≠ "." ∧ '/' ∉ s.toList)
    (h' : ∀ s ∈ ss', s ≠ "" ∧ s ≠ "." ∧ '/' ∉ s.toList) : wayText ss = wayText ss' ↔ ss = ss' :=
  ⟨wayText_injective (fun s hm => (h s hm).2) (fun s hm => (h' s hm).2), congrArg wayText⟩

theorem detour_eq_iff (h : ".." ∉ bs) (h' : ".." ∉ ss) : detour as bs = detour as ss ↔ bs = ss :=
  ⟨detour_injective h h', congrArg (detour as)⟩

theorem relativeTo_leads_back (hp : p.Clean) (hc : ∀ n ∈ cwd, IsName n) (root : Path) :
    LeadsBack cwd p root (p.relativeTo cwd root) := by
  have hb : ∀ q : Path, ".." ∉ q.segments cwd := fun q => not_back_mem_segments (not_back_mem hc)
  have hs : ∀ s ∈ detour (root.segments cwd) (p.segments cwd), s ≠ "" ∧ s ≠ "." ∧ '/' ∉ s.toList :=
    isStep_detour (isName_segments hp hc)
  have ho : ofString (p.relativeTo cwd root) =
      ⟨.none, detour (root.segments cwd) (p.segments cwd)⟩ := by
    rw [relativeTo_eq, ofString_wayText hs]
  constructor
  case back =>
    rw [ho, resolve_eq_iff]
    change (root.segments cwd ++ detour _ _).foldl descend [] = p.segments cwd
    rw [List.foldl_append, foldl_descend (hb root), List.nil_append, foldl_descend_detour (hb p)]
  case nonempty =>
    rw [relativeTo_eq]
    exact wayText_ne_empty fun s hm => (hs s hm).1
  case here =>
    rw [relativeTo_eq, resolve_eq_iff, show "." = wayText [] from rfl,
      wayText_eq_iff hs (by simp), ← detour_self (root.segments cwd),
      detour_eq_iff (hb p) (hb root)]
  case run =>
    have ⟨common, up, names, hf, hd⟩ := exists_fork (root.segments cwd) (p.segments cwd)
    refine ⟨common, up, names, hf, fun hm => hb p ?_, by rw [ho, hd]⟩
    exact hf.right ▸ List.mem_append_right _ hm
  case normal =>
    rw [ho, relativeTo_eq]
    exact toString_relative
  case same =>
    intro q hq
    rw [relativeTo_eq, relativeTo_eq, wayText_eq_iff (isStep_detour (isName_segments hq hc)) hs,
      detour_eq_iff (hb q) (hb p), resolve_eq_iff]

-- A path that climbs above the root of the disk on its way, from a root that stands in the current
-- directory.
theorem relativeTo_leads_back_climber :
    (ofString "../../..//a/./b/..").Clean ∧ (∀ n ∈ ["w"], IsName n) ∧
      LeadsBack ["w"] (ofString "../../..//a/./b/..") (ofString "//w/x") "../../a" := by
  have hc : ∀ n ∈ ["w"], IsName n := by decide
  have ht : (ofString "../../..//a/./b/..").relativeTo ["w"] (ofString "//w/x") = "../../a" := by
    decide
  exact ⟨clean_ofString _, hc, ht ▸ relativeTo_leads_back (clean_ofString _) hc _⟩

end ComponentCatalog.Path
