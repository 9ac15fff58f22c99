import ComponentCatalog.Component.Check
import ComponentCatalog.Proofs.Json.Print
import ComponentCatalog.Proofs.Lookup

namespace ComponentCatalog

open Json (Plain)

variable {α β : Type} {f : α → Checked β} {g : α → β} {xs : List α} {n : Nat}
  {location : List String}

theorem Checked.all_map (h : ∀ x ∈ xs, f x = .ok (g x)) : all (xs.map f) = .ok (xs.map g) := by
  induction xs
  case nil => rfl
  case cons x xs hi =>
    have ⟨hx, hxs⟩ := List.forall_mem_cons.mp h
    simp only [List.map_cons, all, hx, hi hxs]
    rfl

theorem Json.plain_ofStrings {ss : List String} : Plain (n + 1) (.ofStrings ss) := by
  refine .array fun v hv => ?_
  have ⟨s, _, he⟩ := List.mem_map.mp hv
  exact he ▸ .string

theorem PropInfo.plain_toJson {info : PropInfo} : Plain (n + 1) info.toJson := by
  refine .object (by simp) ?_
  simp only [List.forall_mem_cons]
  exact ⟨.string, .bool, by simp⟩

namespace Component

variable {c : Component} {cs : List Component}

theorem plain_toJson : Plain 3 c.toJson := by
  have hprops : Plain 2 (.object (c.props.entries.map fun e => (e.1, e.2.toJson))) := by
    refine .object ?_ ?_
    case refine_1 => simpa [Function.comp_def] using c.props.distinct
    case refine_2 =>
      intro m hm
      obtain ⟨e, _, rfl⟩ := List.mem_map.mp hm
      exact e.2.plain_toJson
  refine .object (by simp) ?_
  simp only [List.forall_mem_cons]
  exact ⟨.string, .string, hprops, .string, Json.plain_ofStrings, by simp⟩

theorem plain_toJson_all : Plain 4 (.array (cs.map toJson)) := by
  refine .array fun v hv => ?_
  have ⟨c, _, he⟩ := List.mem_map.mp hv
  exact he ▸ c.plain_toJson

namespace Check

theorem prop_toJson {info : PropInfo} : prop location info.toJson = .ok info := by
  have ht : field location [("type", .string info.type), ("optional", .bool info.optional)] "type"
    (string · 0) = .ok info.type := rfl
  have ho : field location [("type", .string info.type), ("optional", .bool info.optional)]
    "optional" bool = .ok info.optional := rfl
  rw [PropInfo.toJson, prop, ht, ho]
  rfl

theorem props_toJson {props : Props} :
    Check.props location (.object (props.entries.map fun e => (e.1, e.2.toJson))) = .ok props := by
  have h : ∀ e ∈ props.entries,
      (prop (location ++ [e.1]) e.2.toJson).map (e.1, ·) = .ok (id e) := by
    intro e _
    rw [prop_toJson]
    rfl
  rw [Check.props, List.map_map, Function.comp_def, Checked.all_map h, List.map_id]
  exact congrArg _ props.ofList_entries

theorem strings_ofStrings {ss : List String} : strings location (.ofStrings ss) = .ok ss := by
  have h : (ss.map JsonOf.string).mapIdx (fun i v => string (location ++ [toString i]) 0 v) =
      ss.map .ok :=
    List.ext_getElem (by simp) (by simp [string])
  rw [JsonOf.ofStrings, strings, h, Checked.all_map (fun _ _ => rfl), List.map_id']

theorem string_of_ne_empty {s : String} (hs : s ≠ "") : string location 1 (.string s) = .ok s := by
  have hl : ¬s.length < 1 := by simpa [Nat.lt_one_iff] using hs
  exact if_neg hl

end Check

theorem ne_empty_of_check (hc : c.check = .ok c) : c.name ≠ "" ∧ c.path ≠ "" := by
  simp only [check] at hc
  split at hc
  case h_2 => contradiction
  case h_1 hi =>
    constructor
    all_goals
      intro he
      simp [he] at hi

theorem ofJson?_toJson (hc : c.check = .ok c) : ofJson? c.toJson = .ok c := by
  have ⟨hn, hp⟩ := ne_empty_of_check hc
  have hname : Check.string ["name"] 1 (.string c.name) = .ok c.name := Check.string_of_ne_empty hn
  have hpath : Check.string ["path"] 1 (.string c.path) = .ok c.path := Check.string_of_ne_empty hp
  have husage : Check.string ["usage"] 0 (.string c.usage) = .ok c.usage := rfl
  simp [toJson, ofJson?, JsonOf.member?, Check.field, lookup_cons_eq_ite, hname, hpath, husage,
    Check.props_toJson, Check.strings_ofStrings, Checked.both, Except.map]

end Component
end ComponentCatalog
