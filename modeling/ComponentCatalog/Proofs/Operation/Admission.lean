import ComponentCatalog.Operation.Call
import ComponentCatalog.Proofs.Operation.Arguments

namespace ComponentCatalog

namespace Operation

variable {op : Operation} {name : String}

theorem ofName?_name : ofName? op.name = some op := by
  cases op <;> rfl

theorem ofName?_eq_some_iff : ofName? name = some op ↔ name = op.name := by
  constructor
  case mpr => rintro rfl; exact ofName?_name
  case mp =>
    intro h
    have hn := List.find?_some h
    exact (beq_iff_eq.mp hn).symm

end Operation

namespace Request

open Arguments (closed_eq_ok_iff category_eq_ok_iff componentName_eq_ok_iff)

variable {ms : Arguments.Members} {given : Arguments} {request : Request} {op : Operation}

-- The members that fit an operation, with what is asked for by them.
inductive Fits : Operation → Arguments.Members → Request → Prop
  | components : Fits .components [] (.components .all)
  | category {c : Category} : Fits .components [("category", .string c.name)] (.components c)
  | componentByName {name : String} (hl : 2 ≤ name.length) (hm : name.length ≤ 100) :
    Fits .componentByName [("name", .string name)] (.componentByName name)
  | designTokens : Fits .designTokens [] .designTokens

theorem map_eq_ok_iff {α β : Type} {x : Checked α} {f : α → β} {y : β} :
    x.map f = .ok y ↔ ∃ a, x = .ok a ∧ f a = y := by
  cases x <;> simp [Except.map]

theorem fits_components_iff (hd : (ms.map Prod.fst).Nodup) :
    Fits .components ms request ↔ (∀ m ∈ ms, m.1 ∈ ["category"]) ∧
      (((ms.lookup "category").elim (.ok .all) Arguments.category).map .components) =
        .ok request := by
  constructor
  case mp =>
    rintro (_ | _)
    case components => exact ⟨by simp, rfl⟩
    case category   => exact ⟨by simp, map_eq_ok_iff.mpr ⟨_, category_eq_ok_iff.mpr rfl, rfl⟩⟩
  case mpr =>
    intro ⟨hk, h⟩
    have ⟨c, hc, hr⟩ := map_eq_ok_iff.mp h
    subst hr
    rcases eq_nil_or_singleton hd (fun m hm => List.mem_singleton.mp (hk m hm)) with rfl | ⟨v, rfl⟩
    case inl => cases hc; exact .components
    case inr => exact category_eq_ok_iff.mp hc ▸ .category

theorem fits_componentByName_iff (hd : (ms.map Prod.fst).Nodup) :
    Fits .componentByName ms request ↔ (∀ m ∈ ms, m.1 ∈ ["name"]) ∧
      (((ms.lookup "name").elim (.fail ["name"] .missing) Arguments.componentName).map
        .componentByName) = .ok request := by
  constructor
  case mp =>
    rintro (_ | _)
    case componentByName hl hm =>
      exact ⟨by simp, map_eq_ok_iff.mpr ⟨_, componentName_eq_ok_iff.mpr ⟨rfl, hl, hm⟩, rfl⟩⟩
  case mpr =>
    intro ⟨hk, h⟩
    have ⟨name, hn, hr⟩ := map_eq_ok_iff.mp h
    subst hr
    rcases eq_nil_or_singleton hd (fun m hm => List.mem_singleton.mp (hk m hm)) with rfl | ⟨v, rfl⟩
    case inl => cases hn
    case inr =>
      obtain ⟨rfl, hl, hm⟩ := componentName_eq_ok_iff.mp hn
      exact .componentByName hl hm

theorem fits_designTokens_iff :
    Fits .designTokens ms request ↔ (∀ m ∈ ms, m.1 ∈ ([] : List String)) ∧
      (.ok .designTokens : Checked Request) = .ok request := by
  constructor
  case mp =>
    rintro (_ | _)
    exact ⟨by simp, rfl⟩
  case mpr =>
    intro ⟨hk, h⟩
    cases h
    rw [List.eq_nil_iff_forall_not_mem.mpr fun m hm => List.not_mem_nil (hk m hm)]
    exact .designTokens

theorem misnamed_of_check? (h : check? given op = .ok request) : given.misnamed = [] := by
  cases op <;> exact (closed_eq_ok_iff.mp h).1

theorem check?_eq_ok_iff (hd : (ms.map Prod.fst).Nodup) :
    check? ⟨ms, []⟩ op = .ok request ↔ Fits op ms request := by
  cases op <;> rw [check?, closed_eq_ok_iff, eq_self, true_and]
  case components      => rw [fits_components_iff hd]
  case componentByName => rw [fits_componentByName_iff hd]
  case designTokens    => rw [fits_designTokens_iff]

end Request

-- Whoever gets records leaves them in the cache.
theorem Cache.kept_of_fetch {c : Cache} {load : Load} {records : List Component}
    (h : (c.fetch load).2 = .ok records) :
    (c.fetch load).1.phase = .populated ∧ (c.fetch load).1.records = records := by
  rw [fetch] at h ⊢
  split
  case isTrue hp  =>
    rw [if_pos hp] at h
    exact ⟨hp, Except.ok.inj h⟩
  case isFalse hp =>
    simp only [if_neg hp] at h ⊢
    cases ho : load c.begin.loads <;> rw [ho] at h
    case aborted => cases h
    case loaded  => exact ⟨rfl, Except.ok.inj h⟩

theorem Readers.kept_of_fetch {s : Readers} {load : Load} {records : List Component}
    (h : (s.fetch load).2 = .ok records) :
    (s.fetch load).1.cache.phase = .populated ∧ (s.fetch load).1.cache.records = records := by
  rw [fetch] at h ⊢
  split
  case isTrue hp  =>
    rw [if_pos hp] at h
    exact ⟨hp, Except.ok.inj h⟩
  case isFalse hp =>
    rw [if_neg hp] at h
    exact Cache.kept_of_fetch h

namespace Catalog

open Arguments (Converts Convertible Distinct ofJson?_eq_ok_iff exists_ofJson?_iff)
open Request (Fits check?_eq_ok_iff)

variable {c c' : Catalog} {name wanted : String} {v : Json} {request : Request} {e : CallError}
  {records : List Component}

-- A call that is run, with what it asks for.
def Admits (name : String) (v : Json) (request : Request) : Prop :=
  ∃ op ms, name = Operation.name op ∧ Converts v ms ∧ Fits op ms request

-- Why a call is refused. Each reason excludes those before it.
inductive Refuses (name : String) (v : Json) : CallError → Prop
  | unknown (hn : ∀ op, name ≠ Operation.name op) : Refuses name v (.unknownOperation name)
  | unconverted {op : Operation} {e : PairError} (hn : name = op.name) (hv : ¬Convertible v) :
    Refuses name v (.noArguments e)
  | unfit {op : Operation} {issues : List Issue} (hn : name = op.name) (hv : Convertible v)
    (hr : ∀ request, ¬Admits name v request) : Refuses name v (.invalid issues)

theorem request?_eq_ok_iff (hd : Distinct v) :
    request? name v = .ok request ↔ Admits name v request := by
  constructor
  case mpr =>
    rintro ⟨op, ms, hn, hv, hf⟩
    have hc : Request.check? ⟨ms, []⟩ op = .ok request := (check?_eq_ok_iff (hv.nodup hd)).mpr hf
    simp only [request?, Operation.ofName?_eq_some_iff.mpr hn, ofJson?_eq_ok_iff.mpr hv, hc]
  case mp =>
    intro h
    rw [request?] at h
    split at h
    case h_1 => cases h
    case h_2 op hn =>
      split at h
      case h_1 => cases h
      case h_2 given hv =>
        split at h
        case h_1 => cases h
        case h_2 r hc =>
          cases h
          have hm : given = ⟨given.members, []⟩ := by rw [← Request.misnamed_of_check? hc]
          rw [hm] at hv hc
          have hv : Converts v given.members := ofJson?_eq_ok_iff.mp hv
          exact ⟨op, _, Operation.ofName?_eq_some_iff.mp hn, hv,
            (check?_eq_ok_iff (hv.nodup hd)).mp hc⟩

theorem refuses_of_request? (hd : Distinct v) (h : request? name v = .error e) :
    Refuses name v e := by
  have hr : ∀ request, ¬Admits name v request := by
    intro request ha
    cases h.symm.trans ((request?_eq_ok_iff hd).mpr ha)
  rw [request?] at h
  split at h
  case h_1 hn =>
    cases h
    refine .unknown fun op he => ?_
    cases hn.symm.trans (Operation.ofName?_eq_some_iff.mpr he)
  case h_2 op hn =>
    have hn := Operation.ofName?_eq_some_iff.mp hn
    split at h
    case h_1 hv =>
      cases h
      refine .unconverted hn fun hc => ?_
      have ⟨_, hg⟩ := exists_ofJson?_iff.mpr hc
      cases hv.symm.trans hg
    case h_2 given hv =>
      split at h
      case h_1 => cases h; exact .unfit hn (exists_ofJson?_iff.mp ⟨given, hv⟩) hr
      case h_2 => cases h

theorem Refuses.not_admits (hr : Refuses name v e) : ¬Admits name v request := by
  intro ⟨op, ms, hn, hv, hf⟩
  cases hr
  case unknown h          => exact h op hn
  case unconverted h      => exact h <| exists_ofJson?_iff.mp ⟨_, ofJson?_eq_ok_iff.mpr hv⟩
  case unfit h            => exact h request ⟨op, ms, hn, hv, hf⟩

theorem call_of_admits (hd : Distinct v) (ha : Admits name v request) :
    c.call name v = c.run request := by
  rw [call, (request?_eq_ok_iff hd).mpr ha]

theorem kept_of_fetch (h : c.fetch = (c', .ok records)) :
    c'.cache.phase = .populated ∧ c'.cache.records = records := by
  have ⟨hc, hr⟩ := Prod.mk.inj h
  exact hc ▸ Readers.kept_of_fetch hr

-- Something is missing only from records that are kept.
theorem run_eq_notFound (h : (c.run request).2 = .error (.notFound wanted)) :
    request = .componentByName wanted ∧ (c.run request).1.cache.phase = .populated ∧
      findByName (c.run request).1.cache.records wanted = none := by
  cases request <;> simp only [run] at h ⊢
  case designTokens => cases h
  case components   => split at h <;> cases h
  case componentByName name =>
    split at h
    case h_2 => cases h
    case h_1 c' records hf =>
      have ⟨hp, hk⟩ := kept_of_fetch hf
      simp only [reply] at h
      cases hn : findByName records name <;> rw [hn] at h <;> cases h
      exact ⟨rfl, hp, hk ▸ hn⟩

-- What becomes of a call. One that is not admitted is refused, for the first reason that applies,
-- and leaves the catalog as it is.
structure Screened (c : Catalog) (name : String) (v : Json) : Prop where
  admitted : ∀ request, Admits name v request → c.call name v = c.run request
  refused  : (∀ request, ¬Admits name v request) ↔
    ∃ e, Refuses name v e ∧ c.call name v = (c, .error e)
  missing  : ∀ wanted, (c.call name v).2 = .error (.notFound wanted) →
    name = "get_component_by_name" ∧ Admits name v (.componentByName wanted) ∧
      (c.call name v).1.cache.phase = .populated ∧
      findByName (c.call name v).1.cache.records wanted = none
  tokens   : name = "get_design_tokens" → (c.call name v).1 = c

theorem calls_screened (hd : Distinct v) : Screened c name v where
  admitted := fun _ => call_of_admits hd
  refused  := by
    constructor
    case mpr => exact fun ⟨_, hr, _⟩ _ => hr.not_admits
    case mp  =>
      intro hn
      cases hr : request? name v
      case ok request => exact absurd ((request?_eq_ok_iff hd).mp hr) (hn request)
      case error e    => exact ⟨e, refuses_of_request? hd hr, by rw [call, hr]⟩
  missing  := by
    intro wanted h
    cases hr : request? name v
    case error e    =>
      have he := refuses_of_request? hd hr
      rw [call, hr] at h
      cases h
      cases he
    case ok request =>
      have ha := (request?_eq_ok_iff hd).mp hr
      rw [call_of_admits hd ha] at h ⊢
      obtain ⟨rfl, hk⟩ := run_eq_notFound h
      refine ⟨?_, ha, hk⟩
      obtain ⟨op, ms, rfl, _, hf⟩ := ha
      cases hf
      rfl
  tokens   := by
    rintro rfl
    cases hr : request? "get_design_tokens" v
    case error e    => rw [call, hr]
    case ok request =>
      have ⟨op, ms, hn, _, hf⟩ := (request?_eq_ok_iff hd).mp hr
      obtain rfl : Operation.designTokens = op :=
        Option.some.inj <| Operation.ofName?_eq_some_iff.mpr hn
      cases hf
      rw [call, hr]
      rfl

-- A catalog of the defaults, among which there is no card.
def bare : Catalog :=
  .cold (.standard (.ofString "src") (.ofString "")) ⟨.folder [], []⟩

-- The name of a card, given twice. The later one counts.
def card : Json :=
  .array [.array [.string "name", .int 7], .array [.string "name", .string "Card"]]

theorem calls_screened_card :
    Distinct card ∧ Admits "get_component_by_name" card (.componentByName "Card") ∧
      (bare.call "get_component_by_name" card).2 = .error (.notFound "Card") ∧
      Screened bare "get_component_by_name" card := by
  have hd : Distinct card := nofun
  have hv : Converts card
      (OrderedMap.ofList [("name", .int 7), ("name", .string "Card")]).entries :=
    .pairs (.cons .list (.cons .list .nil))
  have hf : Fits .componentByName [("name", .string "Card")] (.componentByName "Card") :=
    .componentByName (by decide) (by decide)
  have ha : Admits "get_component_by_name" card (.componentByName "Card") := ⟨_, _, rfl, hv, hf⟩
  refine ⟨hd, ha, ?_, calls_screened hd⟩
  rw [call_of_admits hd ha]
  rfl

end Catalog
end ComponentCatalog
