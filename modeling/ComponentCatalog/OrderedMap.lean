namespace ComponentCatalog

-- A map that remembers the order in which its keys first came. A repeated key keeps its place and
-- takes the later value.
structure OrderedMap (α : Type) where
  entries  : List (String × α)
  distinct : (entries.map Prod.fst).Nodup
deriving DecidableEq

namespace OrderedMap

def put [DecidableEq κ] (k : κ) (v : α) : List (κ × α) → List (κ × α)
  | []           => [(k, v)]
  | (i, w) :: es => if i = k then (k, v) :: es else (i, w) :: put k v es

theorem mem_put_keys [DecidableEq κ] {k i : κ} {es : List (κ × α)} :
    i ∈ (put k v es).map Prod.fst ↔ i = k ∨ i ∈ es.map Prod.fst := by
  fun_induction put k v es <;> simp_all
  case case3 h ih =>
    constructor
    · rintro (h | h | h) <;> simp_all
    · rintro (h | h | h) <;> simp_all

theorem put_nodup [DecidableEq κ] {k : κ} {es : List (κ × α)} (h : (es.map Prod.fst).Nodup) :
    ((put k v es).map Prod.fst).Nodup := by
  fun_induction put k v es
  case case1 => simp
  case case2 => simpa using h
  case case3 hn ih =>
    simp only [List.map_cons, List.nodup_cons, mem_put_keys] at h ⊢
    exact ⟨by rintro (rfl | h') <;> simp_all, ih h.2⟩

def empty : OrderedMap α :=
  ⟨[], by simp⟩

instance : EmptyCollection (OrderedMap α) := ⟨empty⟩

def insert (m : OrderedMap α) (k : String) (v : α) : OrderedMap α :=
  ⟨put k v m.entries, put_nodup m.distinct⟩

def ofList (es : List (String × α)) : OrderedMap α :=
  es.foldl (fun m e => m.insert e.1 e.2) ∅

def get? (m : OrderedMap α) (k : String) : Option α :=
  m.entries.lookup k

def isEmpty (m : OrderedMap α) : Bool :=
  m.entries.isEmpty

theorem ext {m₁ m₂ : OrderedMap α} (h : m₁.entries = m₂.entries) : m₁ = m₂ := by
  cases m₁; cases m₂; simp_all

end OrderedMap
end ComponentCatalog
