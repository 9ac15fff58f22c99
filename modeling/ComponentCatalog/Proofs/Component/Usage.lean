import ComponentCatalog.Component.Usage
import ComponentCatalog.Proofs.Component.Interface

namespace ComponentCatalog

open Text

variable {s rest : List Char} {d : String × Placeholder} {ds : List (String × Placeholder)}
  {p q : Props} {component : String}

namespace Placeholder

def all : List Placeholder :=
  [.text, .number, .flag, .callback, .list, .object]

-- What stands behind the equals sign.
def value : Placeholder → List Char
  | .text => text.source.toList
  | p     => '{' :: (p.source.toList ++ ['}'])

theorem toList_assignment (p : Placeholder) (name : String) :
    (p.assignment name).toList = name.toList ++ '=' :: p.value := by
  cases p <;> simp [assignment, value]

-- The placeholder whose value the text begins with.
def value? (s : List Char) : Option (Placeholder × List Char) :=
  all.findSome? fun p => (after? p.value s).map (p, ·)

theorem value?_append (p : Placeholder) : value? (p.value ++ s) = some (p, s) := by
  cases p <;> rfl

theorem length_of_value? {p : Placeholder} (h : value? s = some (p, rest)) :
    rest.length ≤ s.length := by
  have ⟨_, _, h⟩ := List.exists_of_findSome?_eq_some h
  have ⟨t, ht, h⟩ := Option.map_eq_some_iff.mp h
  cases h
  exact after?_length_le ht

end Placeholder

-- The required props in their order, each with its placeholder.
def Props.demands (props : Props) : List (String × Placeholder) :=
  props.required.map fun (name, info) => (name, .ofType info.type)

theorem Props.assignments_eq : p.assignments = p.demands.map fun d => d.2.assignment d.1 := by
  simp [assignments, demands]

namespace Usage

-- A required prop as it stands in an example.
def assigned (d : String × Placeholder) : List Char :=
  ' ' :: (d.1.toList ++ '=' :: d.2.value)

theorem toList_intercalate_assignments (h : ds ≠ []) :
    ' ' :: (" ".intercalate (ds.map fun d => d.2.assignment d.1)).toList = ds.flatMap assigned := by
  induction ds
  case nil          => exact absurd rfl h
  case cons d ds hi =>
    by_cases hd : ds = []
    case pos => simp [hd, assigned, Placeholder.toList_assignment]
    case neg =>
      have hm : ds.map (fun d => d.2.assignment d.1) ≠ [] := by simpa using hd
      rw [List.map_cons, String.intercalate_cons_of_ne_nil hm, List.flatMap_cons, ← hi hd]
      simp [assigned, Placeholder.toList_assignment]

theorem toList_usageOf : (usageOf component p).toList =
    '<' :: (component.toList ++ (p.demands.flatMap assigned ++ " />".toList)) := by
  rw [usageOf, Props.assignments_eq]
  split
  case h_1 h => simp [List.map_eq_nil_iff.mp h]
  case h_2 h =>
    have hn : p.demands ≠ [] := fun hd => h (by rw [hd]; rfl)
    rw [← toList_intercalate_assignments hn]
    simp

-- The prop that stands next, and what follows it.
def assigned? (s : List Char) : Option ((String × Placeholder) × List Char) := do
  let s ← after? [' '] s
  let name := s.takeWhile isWord
  guard (name ≠ [])
  let s ← after? ['='] (s.dropWhile isWord)
  let (p, s) ← Placeholder.value? s
  return ((String.ofList name, p), s)

theorem length_of_assigned? (h : assigned? s = some (d, rest)) : rest.length < s.length := by
  have ⟨s₁, h₁, h⟩ := Option.bind_eq_some_iff.mp h
  have ⟨_, _, h⟩ := Option.bind_eq_some_iff.mp h
  have ⟨s₂, h₂, h⟩ := Option.bind_eq_some_iff.mp h
  have ⟨_, h₃, h⟩ := Option.bind_eq_some_iff.mp h
  cases h
  have l₁ := congrArg List.length (after?_eq_some_iff.mp h₁)
  have l₂ := after?_length_le h₂
  have l₃ := Placeholder.length_of_value? h₃
  have l₄ := (List.dropWhile_sublist isWord (l := s₁)).length_le
  simp only [List.length_append, List.length_singleton] at l₁
  omega

-- All of them, up to the end of the example.
def assignments? (s : List Char) : Option (List (String × Placeholder)) :=
  if s = " />".toList then some []
  else
    match _ : assigned? s with
    | some (d, rest) => (assignments? rest).map (d :: ·)
    | none           => none
termination_by s.length
decreasing_by exact length_of_assigned? ‹_›

def read? (component usage : String) : Option (List (String × Placeholder)) :=
  (after? ('<' :: component.toList) usage.toList).bind assignments?

-- A name is a word.
def Named (name : String) : Prop :=
  name ≠ "" ∧ ∀ c ∈ name.toList, isWord c

theorem assigned?_append (h : Named d.1) : assigned? (assigned d ++ s) = some (d, s) := by
  have hequals : ∀ c ∈ ('=' :: (d.2.value ++ s)).head?, isWord c = false := by
    intro c hc; cases hc; decide
  have hn : d.1.toList ≠ [] := fun he => h.left (String.toList_eq_nil_iff.mp he)
  simp only [assigned, assigned?, List.cons_append, List.append_assoc, after?]
  simp only [beq_self_eq_true, if_true, Option.bind_eq_bind, Option.bind_some]
  rw [takeWhile_boundary h.right hequals, dropWhile_boundary h.right hequals]
  simp [guard, hn, after?, Placeholder.value?_append]

theorem assignments?_of_assigned? (h : assigned? s = some (d, rest)) :
    assignments? s = (assignments? rest).map (d :: ·) := by
  have hend : assigned? " />".toList = none := by decide +kernel
  have hs : s ≠ " />".toList := by
    rintro rfl
    exact absurd (hend ▸ h) (by simp)
  rw [assignments?, if_neg hs]
  split <;> simp_all

theorem assignments?_append (h : Named d.1) :
    assignments? (assigned d ++ s) = (assignments? s).map (d :: ·) :=
  assignments?_of_assigned? (assigned?_append h)

theorem assignments?_flatMap (h : ∀ d ∈ ds, Named d.1) :
    assignments? (ds.flatMap assigned ++ " />".toList) = some ds := by
  induction ds
  case nil          => rw [assignments?]; rfl
  case cons d ds hi =>
    have ⟨hd, hds⟩ := List.forall_mem_cons.mp h
    rw [List.flatMap_cons, List.append_assoc, assignments?_append hd, hi hds]
    rfl

theorem read?_usageOf (h : ∀ d ∈ p.demands, Named d.1) :
    read? component (usageOf component p) = some p.demands := by
  rw [read?, toList_usageOf, ← List.cons_append, after?_eq_some_iff.mpr rfl]
  exact assignments?_flatMap h

theorem nodup_demands : (p.demands.map Prod.fst).Nodup := by
  have hd : p.demands.map Prod.fst = p.required.map Prod.fst := by simp [Props.demands]
  rw [hd]
  exact p.distinct.sublist (List.filter_sublist.map Prod.fst)

-- The names that are read from a source are words.
theorem named_props {source : List Char} : ∀ d ∈ (Interface.props source).demands, Named d.1 := by
  intro d hd
  have ⟨m, hm, he⟩ := List.mem_map.mp hd
  have hw := Interface.writable_of_mem_props (List.mem_of_mem_filter hm)
  exact he ▸ ⟨hw.name_ne, hw.word⟩

-- An example tells the required props, their order and their placeholders, and nothing else.
theorem usage_legible (component : String) (hp : ∀ d ∈ p.demands, Named d.1)
    (hq : ∀ d ∈ q.demands, Named d.1) :
    (usageOf component p = usageOf component q ↔ p.demands = q.demands) ∧
    read? component (usageOf component p) = some p.demands ∧
    (usageOf component p).toList =
      '<' :: (component.toList ++ (p.demands.flatMap assigned ++ " />".toList)) ∧
    (p.demands.map Prod.fst).Nodup := by
  refine ⟨⟨?_, ?_⟩, read?_usageOf hp, toList_usageOf, nodup_demands⟩
  case refine_1 =>
    intro h
    have hread : read? component (usageOf component p) = some p.demands := read?_usageOf hp
    rw [h, read?_usageOf hq] at hread
    exact (Option.some.inj hread).symm
  case refine_2 =>
    intro h
    rw [← String.toList_inj, toList_usageOf, toList_usageOf, h]

theorem usage_legible_slider :
    usageOf "Slider" (Interface.props
        "interface SliderProps \x7b\n  min: number; of?: string;\n  go: () => void\n\x7d".toList) =
      usageOf "Slider" (Interface.props
        "interface SliderProps \x7b min?: 1; min: number[]; go: function; \x7d".toList) ∧
    usageOf "Slider" (Interface.props
        "interface SliderProps \x7b go: () => void; min: number \x7d".toList) ≠
      usageOf "Slider" (Interface.props
        "interface SliderProps \x7b min: number; go: () => void \x7d".toList) := by
  constructor
  case left =>
    apply (usage_legible "Slider" named_props named_props).left.mpr
    decide +kernel
  case right =>
    apply (usage_legible "Slider" named_props named_props).left.not.mpr
    decide +kernel

end Usage
end ComponentCatalog
