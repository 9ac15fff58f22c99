import ComponentCatalog.Mcp.Tools
import ComponentCatalog.Proofs.Json.Raw
import ComponentCatalog.Proofs.Operation.Admission

namespace ComponentCatalog.Catalog

open Arguments (closed ofMembers)

variable {op : Operation} {ms : Mcp.Members} {params : List String} {α : Type}

theorem request?_object :
    request? op.name (.object ms) = (Request.check? (ofMembers ms) op).mapError .invalid := by
  simp only [request?, Operation.ofName?_name, Arguments.ofJson?]
  cases Request.check? (ofMembers ms) op <;> rfl

theorem closed_of_declared {checked : Checked α} (h : ∀ m ∈ ms, m.1 ∈ params) :
    closed params (ofMembers ms) checked = checked := by
  have he : Arguments.extras params (ofMembers ms) = [] := by
    simp only [Arguments.extras, ofMembers, List.map_eq_nil_iff, List.filter_eq_nil_iff]
    simpa using fun k v hm => h (k, v) hm
  have hm : (ofMembers ms).misnamings = [] := rfl
  simp only [closed, he, hm, List.append_nil]

end ComponentCatalog.Catalog

namespace ComponentCatalog.Mcp.Tools

open Arguments (category)
open Catalog (request? request?_object closed_of_declared)

variable {enabled : List Operation} {c : Catalog} {op : Operation} {given ms : Members}
  {key : String} {v w : Json} {e : Json.ReadError}

-- The arguments that a tool takes.
def narrow (op : Operation) (given : Members) : Members :=
  given.filter fun m => (declared op).contains m.1

theorem narrow_of_declared (h : ∀ m ∈ given, m.1 ∈ declared op) : narrow op given = given :=
  List.filter_eq_self.mpr fun m hm => List.contains_iff_mem.mpr (h m hm)

theorem declared_of_mem_narrow {m : String × Json} (h : m ∈ narrow op given) :
    m.1 ∈ declared op :=
  List.contains_iff_mem.mp (List.mem_filter.mp h).2

-- No declared name is shown for two names.
theorem eq_of_declared {t : Text.Raw} (h : t.shown ∈ declared op) : t = .ofString t.shown := by
  refine Text.Raw.eq_ofString ?_ rfl
  cases op <;> simp only [declared, List.mem_singleton, List.not_mem_nil] at h
  all_goals
    rw [h]
    decide

theorem narrow_nodup {ms : Json.Read.Members} (h : (ms.map Prod.fst).Nodup) :
    ((narrow op (JsonOf.mapMembers Text.Raw.shown ms)).map Prod.fst).Nodup := by
  rw [List.Nodup, List.pairwise_map] at h
  rw [JsonOf.mapMembers_eq, narrow, List.Nodup, List.pairwise_map, List.pairwise_filter,
    List.pairwise_map]
  refine h.imp fun hne hx hy he => hne ?_
  rw [eq_of_declared (List.contains_iff_mem.mp hx), eq_of_declared (List.contains_iff_mem.mp hy)]
  exact congrArg _ he

-- No name of a category is JSON.
theorem read_name {x : Category} : Json.read x.name.toList = .error .malformed := by
  cases x <;> rfl

theorem category_of_read {s : String} (h : Json.read s.toList ≠ .error .malformed) :
    category (.string s) = .fail ["category"] .unknownCategory := by
  cases hx : Category.ofName? s
  case none   => simp only [category, hx]
  case some x => exact absurd (Category.ofName?_eq_some_iff.mp hx ▸ read_name) h

-- What a category is read as, if it is JSON, fails the same check.
inductive Prepared (v : Json) : Except Json.ReadError Json → Prop
  | read {w : Json} (h : category w = category v) : Prepared v (.ok w)
  | unread {e : Json.ReadError} (h : category v = .fail ["category"] .unknownCategory) :
    Prepared v (.error e)

theorem prepared : Prepared v (prepare "category" v) := by
  unfold prepare
  split
  case h_2 => exact .read rfl
  case h_1 s =>
    split
    case h_1 h    => exact .read (category_of_read (by simp [h])).symm
    case h_2 h    => exact .read (category_of_read (by simp [h])).symm
    case h_3 h    => exact .read (category_of_read (by simp [h])).symm
    case h_4      => exact .read rfl
    case h_5      => exact .read rfl
    case h_6 he h => exact .unread (category_of_read (by simpa [h] using he))

theorem prepare_of_ne (h : key ≠ "category") : prepare key v = .ok v := by
  unfold prepare
  split
  case h_1 => contradiction
  case h_2 => rfl

theorem arguments_of_not_declared (h : "category" ∉ declared op) :
    arguments op given = .ok (narrow op given) := by
  have hl : ∀ l : Members, (∀ m ∈ l, m.1 ≠ "category") →
      l.mapM (fun m => do return (m.1, ← prepare m.1 m.2)) =
        (.ok l : Except Json.ReadError Members) := by
    intro l hl
    induction l
    case nil          => rfl
    case cons m l hi =>
      have ⟨hm, hl⟩ := List.forall_mem_cons.mp hl
      simp only [List.mapM_cons, hi hl, prepare_of_ne hm]
      rfl
  exact hl _ fun m hm he => h (he ▸ declared_of_mem_narrow hm)

-- A list of distinct names of which each is the same.
theorem narrow_components (hd : ((narrow .components given).map Prod.fst).Nodup) :
    narrow .components given = [] ∨ ∃ v, narrow .components given = [("category", v)] := by
  have hk : ∀ m ∈ narrow .components given, m.1 = "category" :=
    fun m hm => List.mem_singleton.mp (declared_of_mem_narrow hm)
  exact eq_nil_or_singleton hd hk

theorem arguments_components (hn : narrow .components given = [("category", v)]) :
    arguments .components given = (prepare "category" v).map fun w => [("category", w)] := by
  have ha : arguments .components given =
      (narrow .components given).mapM fun m => do return (m.1, ← prepare m.1 m.2) := rfl
  rw [ha, hn, List.mapM_cons, List.mapM_nil]
  cases prepare "category" v <;> rfl

-- The tool's arguments are for the operation what is left of the given ones.
inductive Carried (op : Operation) (given : Members) : Except Json.ReadError Members → Prop
  | ok {ms : Members} (h : request? op.name (.object ms) =
      request? op.name (.object (narrow op given))) : Carried op given (.ok ms)
  | error {e : Json.ReadError} {e' : CallError}
    (h : request? op.name (.object (narrow op given)) = .error e') : Carried op given (.error e)

theorem request?_category :
    request? Operation.components.name (.object [("category", v)]) =
      ((category v).map Request.components).mapError .invalid := by
  have hc : Request.check? (.ofMembers [("category", v)]) .components =
      (category v).map Request.components := by
    rw [Request.check?, closed_of_declared (by simp)]
    rfl
  rw [request?_object, hc]

theorem carried (hd : ((narrow op given).map Prod.fst).Nodup) :
    Carried op given (arguments op given) := by
  by_cases hc : op = .components
  case neg =>
    have hk : "category" ∉ declared op := by cases op <;> simp_all [declared]
    exact arguments_of_not_declared hk ▸ .ok rfl
  case pos =>
    subst hc
    rcases narrow_components hd with hn | ⟨v, hn⟩
    case inl =>
      have ha : arguments .components given = .ok (narrow .components given) := by
        rw [arguments, ← narrow, hn]
        rfl
      exact ha ▸ .ok rfl
    case inr =>
      rw [arguments_components hn]
      cases hp : prepare "category" v <;> have hv := hp ▸ prepared (v := v)
      case ok w =>
        cases hv
        case read hw => exact .ok (by rw [hn, request?_category, request?_category, hw])
      case error e =>
        cases hv
        case unread hw => exact .error (by rw [hn, request?_category, hw]; rfl)

-- A tool does what the operation does with the declared arguments.
theorem invoke_eq_call (ho : op ∈ enabled) (hd : ((narrow op given).map Prod.fst).Nodup) :
    (invoke enabled c op.name given).1 = (c.call op.name (.object (narrow op given))).1 ∧
      (invoke enabled c op.name given).2.toOption =
        (c.call op.name (.object (narrow op given))).2.toOption := by
  have hf : (Operation.ofName? op.name).filter enabled.contains = some op := by
    rw [Operation.ofName?_name, Option.filter_some, if_pos (List.contains_iff_mem.mpr ho)]
  have hcarried : Carried op given (arguments op given) := carried hd
  simp only [invoke, hf]
  cases ha : arguments op given <;> rw [ha] at hcarried
  case error e =>
    cases hcarried
    case error h => simp [Catalog.call, h, Except.toOption]
  case ok ms =>
    cases hcarried
    case ok h =>
      have hc : c.call op.name (.object ms) = c.call op.name (.object (narrow op given)) := by
        simp only [Catalog.call, h]
      simp only [hc]
      cases h : c.call op.name (.object (narrow op given))
      case mk c' answer => cases answer <;> exact ⟨rfl, rfl⟩

end ComponentCatalog.Mcp.Tools
