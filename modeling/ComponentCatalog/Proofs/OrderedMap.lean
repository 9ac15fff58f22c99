import ComponentCatalog.OrderedMap
import ComponentCatalog.Proofs.Lookup
import Mathlib.Data.List.Induction

namespace ComponentCatalog.OrderedMap

variable {α : Type} {k i : String} {v : α} {e : String × α} {es : List (String × α)}

theorem put_of_not_mem {κ : Type} [DecidableEq κ] {k : κ} {es : List (κ × α)}
    (h : k ∉ es.map Prod.fst) : put k v es = es ++ [(k, v)] := by
  fun_induction put k v es
  case case1      => rfl
  case case2      => simp at h
  case case3 hi   => simp_all

theorem keys_put_of_mem (h : k ∈ es.map Prod.fst) :
    (put k v es).map Prod.fst = es.map Prod.fst := by
  fun_induction put k v es
  case case1         => cases h
  case case2         => rfl
  case case3 hn hi   =>
    rw [List.map_cons, List.mem_cons] at h
    rw [List.map_cons, List.map_cons, hi (h.resolve_left (Ne.symm hn))]

theorem lookup_put : (put k v es).lookup i = if i = k then some v else es.lookup i := by
  fun_induction put k v es
  case case1       => rw [lookup_cons_eq_ite]
  case case2       => grind [lookup_cons_eq_ite]
  case case3 hn hi => grind [lookup_cons_eq_ite]

theorem entries_foldl_insert {m : OrderedMap α}
    (h : (m.entries.map Prod.fst ++ es.map Prod.fst).Nodup) :
    (es.foldl (fun m e => m.insert e.1 e.2) m).entries = m.entries ++ es := by
  induction es generalizing m
  case nil => simp
  case cons e es hi =>
    have hk : e.1 ∉ m.entries.map Prod.fst := by
      rw [List.map_cons, List.nodup_middle, List.nodup_cons, List.mem_append, not_or] at h
      exact h.1.1
    have he : (m.insert e.1 e.2).entries = m.entries ++ [e] := put_of_not_mem hk
    rw [List.foldl_cons, hi (by simpa [he] using h), he, List.append_assoc, List.singleton_append]

theorem ofList_entries (m : OrderedMap α) : ofList m.entries = m :=
  ext <| entries_foldl_insert (m := ∅) m.distinct

theorem ofList_concat : ofList (es ++ [e]) = (ofList es).insert e.1 e.2 :=
  List.foldl_concat ..

-- The keys in the order in which they first came, each with the last of its values.
structure Collects (m : OrderedMap α) (es : List (String × α)) : Prop where
  order : m.entries.map Prod.fst = (es.map Prod.fst).eraseDups
  last  : ∀ k, m.get? k = es.reverse.lookup k

theorem keys_insert {m : OrderedMap α} {keys : List String}
    (h : m.entries.map Prod.fst = keys.eraseDups) :
    (m.insert k v).entries.map Prod.fst = (keys ++ [k]).eraseDups := by
  have hm : k ∈ m.entries.map Prod.fst ↔ k ∈ keys := by rw [h, List.mem_eraseDups]
  rw [List.eraseDups_append, ← h, insert]
  by_cases hk : k ∈ keys
  case pos => simp [List.removeAll, hk, keys_put_of_mem (hm.mpr hk)]
  case neg => simp [List.removeAll, hk, put_of_not_mem (hm.not.mpr hk), List.eraseDups_cons]

theorem collects_ofList (es : List (String × α)) : (ofList es).Collects es := by
  induction es using List.reverseRecOn
  case nil                     => exact ⟨rfl, fun _ => rfl⟩
  case append_singleton es e hi =>
    rw [ofList_concat]
    refine ⟨?_, fun k => ?_⟩
    · rw [List.map_append]
      exact keys_insert hi.order
    · rw [List.reverse_append, List.reverse_singleton, List.singleton_append, lookup_cons_eq_ite,
        ← hi.last]
      exact lookup_put

-- The keys and their values are all there is to a map.
theorem entries_eq_filterMap {m : OrderedMap α} :
    m.entries = (m.entries.map Prod.fst).filterMap fun k => (m.get? k).map (k, ·) := by
  have hget : ∀ e ∈ m.entries, (m.get? e.1).map (e.1, ·) = some e := by
    intro e he
    have hl : m.get? e.1 = some e.2 := lookup_of_mem m.distinct he
    rw [hl]
    rfl
  rw [List.filterMap_map]
  exact (List.filterMap_congr hget).trans List.filterMap_some |>.symm

theorem ofList_eq_iff {m : OrderedMap α} : ofList es = m ↔ m.Collects es := by
  constructor
  case mp =>
    rintro rfl
    exact collects_ofList es
  case mpr =>
    intro h
    have ho := collects_ofList es
    have hg : (ofList es).get? = m.get? := funext fun k => (ho.last k).trans (h.last k).symm
    apply ext
    rw [entries_eq_filterMap, entries_eq_filterMap (m := m), ho.order, h.order, hg]

theorem mem_of_mem_ofList (h : e ∈ (ofList es).entries) : e ∈ es := by
  have hl : (ofList es).get? e.1 = some e.2 := lookup_of_mem (ofList es).distinct h
  rw [(collects_ofList es).last] at hl
  exact List.mem_reverse.mp (mem_of_lookup hl)

end ComponentCatalog.OrderedMap
