import ComponentCatalog.Proofs.Text.Blank
import ComponentCatalog.Settings

namespace ComponentCatalog

namespace Text

variable {sep c : Char} {s t : List Char}

-- Characters without another case stay in a text.
theorem mem_lower (hc : c ∈ s) (hl : lowerChar c = [c]) (hs : c ≠ 'Σ') : c ∈ lower s := by
  have hgo : ∀ afterCased, c ∈ lower.go afterCased s := by
    induction s
    case nil         => cases hc
    case cons d s hi =>
      intro afterCased
      rw [lower.go, List.mem_append]
      rcases List.mem_cons.mp hc with rfl | hc
      case inl => simp [hs, hl]
      case inr => exact .inr (hi hc _)
  exact hgo false

-- An item as it is compared.
def tidy (s : List Char) : List Char :=
  lower (trim s)

def items (sep : Char) (s : List Char) : List (List Char) :=
  (splitOn sep s).map tidy

theorem items_trim (hs : isBlank sep = false) : items sep (trim s) = items sep s := by
  have he : ∀ s, items sep s = ((splitOn sep s).map trim).map lower :=
    fun _ => List.map_map.symm
  rw [he, he, map_trim_splitOn_trim hs]

-- A single item is the whole text.
theorem items_eq_singleton_iff (hs : isBlank sep = false) (hl : lowerChar sep = [sep])
    (hn : sep ≠ 'Σ') (ht : sep ∉ t) : items sep s = [t] ↔ tidy s = t := by
  constructor
  case mp =>
    intro h
    obtain ⟨piece, hp, rfl⟩ := List.map_eq_singleton_iff.mp h
    rw [← intercalate_splitOn (s := s), hp, List.intercalate_singleton]
  case mpr =>
    rintro rfl
    have hm : sep ∉ trim s := fun hm => ht (mem_lower hm hl hn)
    rw [← items_trim hs, items, splitOn_eq, List.splitOn_eq_singleton hm, List.map_singleton, tidy,
      trim_trim, tidy]

end Text

namespace Settings

variable {env env' : Environment} {op : Operation} {v v' item : String}

-- The value that says which groups are meant.
def groupList (env : Environment) : String :=
  env.value "CODZILLA_TOOLS"

def Blank (v : String) : Prop :=
  ∀ c ∈ v.toList, Text.isBlank c

def tidied (item : String) : String :=
  String.ofList (Text.tidy item.toList)

-- The items of a list, as they are compared.
def itemsOf (v : String) : List String :=
  (Text.items ',' v.toList).map String.ofList

-- The list gets one more item, at any place.
def Adds (item v v' : String) : Prop :=
  ∃ ps qs, Text.splitOn ',' v.toList = ps ++ qs ∧
    Text.splitOn ',' v'.toList = ps ++ item.toList :: qs

theorem itemsOf_eq_all_iff : itemsOf v = ["all"] ↔ Text.tidy v.toList = "all".toList := by
  have ha : ["all"] = ["all".toList].map String.ofList := rfl
  have hj : Function.Injective String.ofList := fun _ _ => String.ofList_inj.mp
  rw [itemsOf, ha, (List.map_injective_iff.mpr hj).eq_iff,
    Text.items_eq_singleton_iff (by decide) (by decide) (by decide) (by decide)]

theorem trim_eq_nil_iff_blank : Text.trim v.toList = [] ↔ Blank v :=
  Text.trim_eq_nil_iff

theorem itemsOf_of_blank (h : Blank v) : itemsOf v = [""] := by
  rw [itemsOf, ← Text.items_trim (by decide), trim_eq_nil_iff_blank.mpr h]
  rfl

theorem group_ne_empty : op.group ≠ "" := by
  cases op <;> decide

theorem group_mem_groups : op.group ∈ Operation.groups := by
  cases op <;> decide

-- The empty items, which are left out, name no group.
theorem group_mem_itemsOf_iff : op.group ∈ itemsOf v ↔
    op.group ∈ (((Text.splitOn ',' (Text.trim v.toList)).map Text.trim).filter (!·.isEmpty)).map
      fun item => String.ofList (Text.lower item) := by
  rw [itemsOf, ← Text.items_trim (by decide)]
  simp only [Text.items, Text.tidy, List.mem_map, List.mem_filter]
  constructor
  case mp =>
    rintro ⟨_, ⟨piece, hp, rfl⟩, he⟩
    refine ⟨Text.trim piece, ⟨⟨piece, hp, rfl⟩, ?_⟩, he⟩
    by_contra hn
    rw [Bool.not_eq_true, Bool.not_eq_false', List.isEmpty_iff] at hn
    rw [hn] at he
    exact group_ne_empty he.symm
  case mpr =>
    rintro ⟨_, ⟨⟨piece, hp, rfl⟩, _⟩, he⟩
    exact ⟨_, ⟨piece, hp, rfl⟩, he⟩

theorem mem_enabledOperations_iff : op ∈ enabledOperations env ↔
    Blank (groupList env) ∨ itemsOf (groupList env) = ["all"] ∨
      op.group ∈ itemsOf (groupList env) := by
  have ho : op ∈ Operation.all := by cases op <;> decide
  rw [enabledOperations, List.mem_filter, and_iff_right ho, List.contains_iff_mem, enabledGroups,
    ← trim_eq_nil_iff_blank, itemsOf_eq_all_iff, group_mem_itemsOf_iff, Text.tidy, ← or_assoc]
  dsimp only [groupList]
  split
  case isTrue h =>
    rw [Bool.or_eq_true, List.isEmpty_iff, beq_iff_eq] at h
    exact iff_of_true group_mem_groups (.inl h)
  case isFalse h =>
    rw [Bool.or_eq_true, List.isEmpty_iff, beq_iff_eq] at h
    rw [or_iff_right h]

theorem enabledOperations_ext (h : ∀ op, op ∈ enabledOperations env' ↔ op ∈ enabledOperations env) :
    enabledOperations env' = enabledOperations env := by
  refine List.filter_congr fun op ho => ?_
  have hop := h op
  rw [enabledOperations, enabledOperations, List.mem_filter, List.mem_filter, and_iff_right ho,
    and_iff_right ho] at hop
  exact Bool.eq_iff_iff.mpr hop

-- The value picks groups one by one.
def Picks (v : String) : Prop :=
  ¬Blank v ∧ itemsOf v ≠ ["all"]

theorem mem_enabledOperations_of_picks (h : Picks (groupList env)) :
    op ∈ enabledOperations env ↔ op.group ∈ itemsOf (groupList env) := by
  rw [mem_enabledOperations_iff, or_iff_right h.1, or_iff_right h.2]

namespace Adds

theorem exists_itemsOf (h : Adds item v v') :
    ∃ is js, itemsOf v = is ++ js ∧ itemsOf v' = is ++ tidied item :: js := by
  obtain ⟨ps, qs, hv, hv'⟩ := h
  refine ⟨(ps.map Text.tidy).map String.ofList, (qs.map Text.tidy).map String.ofList, ?_, ?_⟩
  case refine_1 => simp only [itemsOf, Text.items, hv, List.map_append]
  case refine_2 => simp only [itemsOf, Text.items, hv', List.map_append, List.map_cons, tidied]

theorem mem_itemsOf_iff {i : String} (h : Adds item v v') :
    i ∈ itemsOf v' ↔ i = tidied item ∨ i ∈ itemsOf v := by
  obtain ⟨is, js, hv, hv'⟩ := h.exists_itemsOf
  rw [hv, hv', List.mem_append, List.mem_cons, List.mem_append, or_left_comm]

-- A list to which something was added has two items at least, and so it is neither blank nor `all`.
theorem picks (h : Adds item v v') : Picks v' := by
  have hl : 2 ≤ (itemsOf v').length := by
    obtain ⟨is, js, hv, hv'⟩ := h.exists_itemsOf
    have hn : 0 < (itemsOf v).length := by
      simpa [itemsOf, Text.items, List.length_pos_iff] using Text.splitOn_ne_nil ',' v.toList
    rw [hv, List.length_append] at hn
    rw [hv', List.length_append, List.length_cons]
    omega
  refine ⟨fun hb => ?_, fun ha => ?_⟩
  case refine_1 => simp [itemsOf_of_blank hb] at hl
  case refine_2 => simp [ha] at hl

end Adds

-- What a server offers, depending on the list of its groups.
structure Offers (env : Environment) : Prop where
  listed   : ∀ op, op ∈ enabledOperations env ↔
    Blank (groupList env) ∨ itemsOf (groupList env) = ["all"] ∨
      op.group ∈ itemsOf (groupList env)
  -- Thus `all` means all wherever it stands, unless it has company and a group is missing.
  anywhere : (∀ op, op ∈ enabledOperations env ↔
      Blank (groupList env) ∨ "all" ∈ itemsOf (groupList env) ∨
        op.group ∈ itemsOf (groupList env)) ↔
    ("all" ∈ itemsOf (groupList env) → itemsOf (groupList env) = ["all"] ∨
      ∀ op : Operation, op.group ∈ itemsOf (groupList env))
  alike    : ∀ env', ¬Blank (groupList env) → ¬Blank (groupList env') →
    (itemsOf (groupList env) = ["all"] ↔ itemsOf (groupList env') = ["all"]) →
    (∀ i, i ∈ itemsOf (groupList env) ↔ i ∈ itemsOf (groupList env')) →
      enabledOperations env' = enabledOperations env
  unknown  : ∀ env' item, Picks (groupList env) → Adds item (groupList env) (groupList env') →
    tidied item ∉ Operation.groups → enabledOperations env' = enabledOperations env
  more     : ∀ env' item, Picks (groupList env) → Adds item (groupList env) (groupList env') →
    enabledOperations env ⊆ enabledOperations env'

theorem operations_offered (env : Environment) : Offers env := by
  constructor
  case listed   => exact fun _ => mem_enabledOperations_iff
  case anywhere =>
    simp only [mem_enabledOperations_iff]
    constructor
    case mp =>
      intro h ha
      by_contra hn
      rw [not_or, not_forall] at hn
      obtain ⟨hne, op, ho⟩ := hn
      have hb : ¬Blank (groupList env) := by
        intro hb
        rw [itemsOf_of_blank hb] at ha
        exact absurd ha (by decide)
      rcases (h op).mpr (.inr (.inl ha)) with h | h | h
      exacts [hb h, hne h, ho h]
    case mpr =>
      intro h op
      refine or_congr_right ⟨?_, ?_⟩
      case refine_1 => exact Or.imp_left fun he => he ▸ List.mem_singleton_self "all"
      case refine_2 =>
        rintro (ha | ho)
        case inl => exact (h ha).imp_right fun hall => hall op
        case inr => exact .inr ho
  case alike =>
    intro env' hb hb' ha hi
    refine enabledOperations_ext fun op => ?_
    rw [mem_enabledOperations_iff, mem_enabledOperations_iff, or_iff_right hb, or_iff_right hb', ha,
      hi]
  case unknown =>
    intro env' item hp hadds hu
    refine enabledOperations_ext fun op => ?_
    have hne : op.group ≠ tidied item := fun he => hu (he ▸ group_mem_groups)
    rw [mem_enabledOperations_of_picks hp, mem_enabledOperations_of_picks hadds.picks,
      hadds.mem_itemsOf_iff, or_iff_right hne]
  case more =>
    intro env' item hp hadds op ho
    rw [mem_enabledOperations_of_picks hp] at ho
    rw [mem_enabledOperations_of_picks hadds.picks, hadds.mem_itemsOf_iff]
    exact .inr ho

-- Somebody who lists a group before `all` gets nothing but this group.
theorem all_among_others :
    ¬∀ (env : Environment) (op : Operation), op ∈ enabledOperations env ↔
      Blank (groupList env) ∨ "all" ∈ itemsOf (groupList env) ∨
        op.group ∈ itemsOf (groupList env) := by
  intro h
  have hm : .designTokens ∈ enabledOperations [("CODZILLA_TOOLS", "components,all")] :=
    (h [("CODZILLA_TOOLS", "components,all")] .designTokens).mpr (.inr (.inl (by decide +kernel)))
  have he : enabledOperations [("CODZILLA_TOOLS", "components,all")] =
      [.components, .componentByName] := by decide +kernel
  rw [he] at hm
  exact absurd hm (by decide)

end Settings
end ComponentCatalog
