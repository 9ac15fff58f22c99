import Mathlib.Data.List.Nodup

namespace ComponentCatalog

variable {κ α : Type} {k : κ} {v : α} {es : List (κ × α)}

theorem eq_nil_or_singleton (hd : (es.map Prod.fst).Nodup) (hk : ∀ e ∈ es, e.1 = k) :
    es = [] ∨ ∃ v, es = [(k, v)] := by
  cases es
  case nil       => exact .inl rfl
  case cons e es =>
    have ⟨he, hes⟩ := List.forall_mem_cons.mp hk
    cases es
    case nil => exact .inr ⟨e.2, by rw [← he]⟩
    case cons e' es =>
      have he' : e'.1 = k := hes e' List.mem_cons_self
      simp [he, he'] at hd

variable [BEq κ] [LawfulBEq κ]

theorem lookup_cons_eq_ite [DecidableEq κ] {e : κ × α} :
    (e :: es).lookup k = if k = e.1 then some e.2 else es.lookup k := by
  rw [List.lookup_cons]
  by_cases h : k = e.1
  case pos => rw [if_pos h, beq_iff_eq.mpr h]
  case neg => rw [if_neg h, beq_eq_false_iff_ne.mpr h]

theorem mem_of_lookup (h : es.lookup k = some v) : (k, v) ∈ es := by
  obtain ⟨l₁, l₂, rfl, -⟩ := List.lookup_eq_some_iff.mp h
  simp

theorem lookup_of_mem (hd : (es.map Prod.fst).Nodup) (h : (k, v) ∈ es) : es.lookup k = some v := by
  obtain ⟨l₁, l₂, rfl⟩ := List.append_of_mem h
  refine List.lookup_eq_some_iff.mpr ⟨l₁, l₂, rfl, fun p hp => ?_⟩
  rw [List.map_append, List.map_cons, List.nodup_middle, List.nodup_cons] at hd
  simp only [bne_iff_ne]
  rintro rfl
  exact hd.left <| List.mem_append_left _ (List.mem_map.mpr ⟨p, hp, rfl⟩)

theorem lookup_eq_some_iff_mem (hd : (es.map Prod.fst).Nodup) :
    es.lookup k = some v ↔ (k, v) ∈ es :=
  ⟨mem_of_lookup, lookup_of_mem hd⟩

theorem lookup_eq_none_iff_not_mem : es.lookup k = none ↔ k ∉ es.map Prod.fst := by
  simp only [List.lookup_eq_none_iff, List.mem_map, not_exists, not_and, bne_iff_ne]
  exact forall₂_congr fun _ _ => ne_comm

end ComponentCatalog
