import ComponentCatalog.Proofs.Mcp.Message

namespace ComponentCatalog.Mcp

variable {ms ms' : Members} {id : RequestId} {method key s : String} {params : Option Members}
  {v : Json}

theorem RequestId.ofJson?_eq_some_iff : ofJson? v = some id ↔ v = id.toJson := by
  constructor
  case mp =>
    intro h
    cases v <;> cases h <;> rfl
  case mpr =>
    rintro rfl
    cases id <;> rfl

namespace Envelope

-- The members that some message is told by.
def recognised : List String :=
  ["jsonrpc", "id", "method", "params", "result", "error"]

-- The objects differ at most in other members, and in the order of all of them.
def Agree (ms ms' : Members) : Prop :=
  ∀ key ∈ recognised, ms.lookup key = ms'.lookup key

-- Parameters that are absent or null are none.
inductive Carries : Option Json → Option Members → Prop
  | absent : Carries none none
  | null : Carries (some .null) none
  | object (ps : Members) : Carries (some (.object ps)) (some ps)

-- What requests and notifications have in common.
structure Calls (ms : Members) (method : String) (params : Option Members) : Prop where
  version : ms.lookup "jsonrpc" = some (.string "2.0")
  method  : ms.lookup "method" = some (.string method)
  params  : Carries (ms.lookup "params") params

theorem string?_eq_some_iff : string? ms key = some s ↔ ms.lookup key = some (.string s) := by
  rw [string?]
  split <;> simp_all

theorem hasVersion_iff : hasVersion ms ↔ ms.lookup "jsonrpc" = some (.string "2.0") := by
  rw [hasVersion, beq_iff_eq, version, string?_eq_some_iff]

theorem params?_eq_some_iff : params? ms = some params ↔ Carries (ms.lookup "params") params := by
  rw [params?]
  constructor
  case mp =>
    intro h
    split at h
    case h_1 hp => cases h; exact hp ▸ .absent
    case h_2 hp => cases h; exact hp ▸ .null
    case h_3 hp => cases h; exact hp ▸ .object _
    case h_4    => cases h
  case mpr =>
    intro h
    generalize ms.lookup "params" = p at h
    cases h <;> rfl

theorem guard_bind_eq_some_iff {α : Type} {p : Prop} [Decidable p] {f : Option α} {x : α} :
    (do guard p; f) = some x ↔ p ∧ f = some x := by
  rw [guard]
  split
  case isTrue h  => exact (and_iff_right h).symm
  case isFalse h => exact ⟨nofun, fun hx => absurd hx.1 h⟩

theorem discard_eq_some_iff {α : Type} {o : Option α} {x : PUnit} :
    discard o = some x ↔ ∃ a, o = some a := by
  cases o <;> simp [discard, Functor.mapConst]

theorem asRequest?_eq_some_iff {x : Nat × Envelope} :
    asRequest? ms = some x ↔ ∃ id method params, Calls ms method params ∧
      ms.lookup "id" = some id.toJson ∧
      (3 + present ms ["params"], .request id method params) = x := by
  rw [asRequest?, guard_bind_eq_some_iff]
  simp only [Option.bind_eq_bind, Option.bind_eq_some_iff, hasVersion_iff, string?_eq_some_iff,
    params?_eq_some_iff, Option.pure_def, Option.some.injEq, RequestId.ofJson?_eq_some_iff]
  constructor
  case mp =>
    rintro ⟨hv, id, ⟨_, hi, rfl⟩, method, hm, params, hp, hx⟩
    exact ⟨id, method, params, ⟨hv, hm, hp⟩, hi, hx⟩
  case mpr =>
    rintro ⟨id, method, params, hc, hi, hx⟩
    exact ⟨hc.version, id, ⟨_, hi, rfl⟩, method, hc.method, params, hc.params, hx⟩

theorem asNotification?_eq_some_iff {x : Nat × Envelope} :
    asNotification? ms = some x ↔ ∃ method params, Calls ms method params ∧
      (2 + present ms ["params"], .notification method) = x := by
  rw [asNotification?, guard_bind_eq_some_iff, hasVersion_iff]
  simp only [Option.bind_eq_bind, Option.bind_eq_some_iff, discard_eq_some_iff,
    string?_eq_some_iff, params?_eq_some_iff, Option.pure_def, Option.some.injEq]
  constructor
  case mp =>
    rintro ⟨hv, method, hm, _, ⟨params, hp⟩, hx⟩
    exact ⟨method, params, ⟨hv, hm, hp⟩, hx⟩
  case mpr =>
    rintro ⟨method, params, hc, hx⟩
    exact ⟨hc.version, method, hc.method, ⟨⟩, ⟨params, hc.params⟩, hx⟩

theorem asResult?_eq_none (h : ms.lookup "result" = none) : asResult? ms = none := by
  refine Option.eq_none_iff_forall_ne_some.mpr fun x hx => ?_
  rw [asResult?, guard_bind_eq_some_iff, h] at hx
  obtain ⟨_, _, hx⟩ := Option.bind_eq_some_iff.mp hx.2
  cases hx

theorem asError?_eq_none (h : ms.lookup "error" = none) : asError? ms = none := by
  refine Option.eq_none_iff_forall_ne_some.mpr fun x hx => ?_
  rw [asError?, guard_bind_eq_some_iff, h] at hx
  obtain ⟨_, _, hx⟩ := Option.bind_eq_some_iff.mp hx.2
  cases hx

-- No reply, neither with a result nor with an error.
structure NoReply (ms : Members) : Prop where
  noResult : ms.lookup "result" = none
  noError  : ms.lookup "error" = none

theorem NoReply.ofMembers?_eq (hn : NoReply ms) :
    ofMembers? ms = (best [asRequest? ms, asNotification? ms, none, none]).map Prod.snd := by
  rw [ofMembers?, asResult?_eq_none hn.noResult, asError?_eq_none hn.noError]

-- Every request is also a notification, but then its id is not recognised.
theorem ofMembers?_of_request (hn : NoReply ms) (hc : Calls ms method params)
    (hi : ms.lookup "id" = some id.toJson) :
    ofMembers? ms = some (.request id method params) := by
  have hr := asRequest?_eq_some_iff.mpr ⟨id, method, params, hc, hi, rfl⟩
  have hm := asNotification?_eq_some_iff.mpr ⟨method, params, hc, rfl⟩
  have hl : ¬3 + present ms ["params"] < 2 + present ms ["params"] := by omega
  rw [hn.ofMembers?_eq, hr, hm]
  simp [best, hl]

theorem ofMembers?_of_notification (hn : NoReply ms) (hc : Calls ms method params)
    (hi : ∀ id : RequestId, ms.lookup "id" ≠ some id.toJson) :
    ofMembers? ms = some (.notification method) := by
  have hr : asRequest? ms = none := by
    refine Option.eq_none_iff_forall_ne_some.mpr fun x hx => ?_
    obtain ⟨id, _, _, _, hid, _⟩ := asRequest?_eq_some_iff.mp hx
    exact hi id hid
  have hm := asNotification?_eq_some_iff.mpr ⟨method, params, hc, rfl⟩
  rw [hn.ofMembers?_eq, hr, hm]
  rfl

theorem ofMembers?_of_not_calls (hn : NoReply ms) (hc : ∀ method params, ¬Calls ms method params) :
    ofMembers? ms = none := by
  have hr : asRequest? ms = none := by
    refine Option.eq_none_iff_forall_ne_some.mpr fun x hx => ?_
    obtain ⟨_, method, params, h, _⟩ := asRequest?_eq_some_iff.mp hx
    exact hc method params h
  have hm : asNotification? ms = none := by
    refine Option.eq_none_iff_forall_ne_some.mpr fun x hx => ?_
    obtain ⟨method, params, h, _⟩ := asNotification?_eq_some_iff.mp hx
    exact hc method params h
  rw [hn.ofMembers?_eq, hr, hm]
  rfl

theorem ofMembers?_of_agree (h : Agree ms ms') : ofMembers? ms = ofMembers? ms' := by
  simp only [Agree, recognised, List.forall_mem_cons] at h
  obtain ⟨hversion, hid, hmethod, hparams, hresult, herror, _⟩ := h
  have hv : hasVersion ms = hasVersion ms' := by
    rw [hasVersion, hasVersion, string?, string?, hversion]
  have hm : string? ms "method" = string? ms' "method" := by rw [string?, string?, hmethod]
  have hp : params? ms = params? ms' := by rw [params?, params?, hparams]
  have hn : present ms ["params"] = present ms' ["params"] :=
    List.countP_congr fun key hk => by rw [List.mem_singleton.mp hk, hparams]
  unfold ofMembers? asRequest? asNotification? asResult? asError?
  rw [hv, hid, hm, hp, hn, hresult, herror]

end Envelope

namespace Message

-- What becomes of a request. Its method is looked for in three groups, which have none in common.
inductive Sorts (id : RequestId) (params : Option Members) : String → Message → Prop
  | lifecycle {method : String} (h : method ∈ ["initialize", "ping"]) :
    Sorts id params method (.lifecycle method id params)
  | operation {method : String} (h : method ∈ ["tools/list", "tools/call"]) :
    Sorts id params method (.operation method id (((params.getD []).lookup "name").getD .null))
  | resource {method : String}
    (h : method ∈ ["resources/list", "resources/templates/list", "resources/read"]) :
    Sorts id params method (.resource method id (((params.getD []).lookup "uri").getD .null))
  | unsupported {method : String}
    (h : method ∉ ["initialize", "ping", "tools/list", "tools/call", "resources/list",
      "resources/templates/list", "resources/read"]) :
    Sorts id params method (.unsupported method id)

theorem sorts_ofEnvelope : Sorts id params method (ofEnvelope (.request id method params)) := by
  rw [ofEnvelope]
  dsimp only
  split
  case isTrue h => exact .lifecycle (List.contains_iff_mem.mp h)
  case isFalse hl =>
    split
    case isTrue h => exact .operation (List.contains_iff_mem.mp h)
    case isFalse ho =>
      split
      case isTrue h => exact .resource (List.contains_iff_mem.mp h)
      case isFalse hr =>
        refine .unsupported fun hm => ?_
        simp_all [lifecycleMethods, operationMethods, resourceMethods]

theorem classify_of_ofMembers? {e : Envelope} (h : Envelope.ofMembers? ms = some e) :
    classify (.object ms) = ofEnvelope e := by
  rw [classify, Envelope.ofJson?, h, Option.elim_some]

-- Only a request has a method that is not supported.
theorem exists_calls_of_unsupported (h : classify v = .unsupported method id) :
    ∃ ms params, v = .object ms ∧ Envelope.Calls ms method params ∧
      ms.lookup "id" = some id.toJson := by
  rw [classify] at h
  cases he : Envelope.ofJson? v <;> rw [he] at h
  case none   => cases h
  case some e =>
    cases e
    case request =>
      rw [Option.elim_some, ofEnvelope] at h
      dsimp only at h
      repeat' split at h
      all_goals cases h
      cases v
      case object ms =>
        obtain ⟨_, hr⟩ := Envelope.asRequest?_of_ofMembers? he
        obtain ⟨_, _, _, hc, hi, he⟩ := Envelope.asRequest?_eq_some_iff.mp hr
        cases he
        exact ⟨ms, _, rfl, hc, hi⟩
      all_goals cases he
    all_goals cases h

-- What says that a method is not supported could also be a reply of the client.
theorem classify_methodNotFound : classify (methodNotFound method id) = .reply id := by
  cases id <;> rfl

end Message

open Envelope (Agree Calls NoReply)
open Message (Sorts classify)

-- How an object is sorted.
structure Sorting (ms : Members) : Prop where
  request      : ∀ id method params, NoReply ms → Calls ms method params →
    ms.lookup "id" = some (RequestId.toJson id) → Sorts id params method (classify (.object ms))
  notification : ∀ method params, NoReply ms → Calls ms method params →
    (∀ id, ms.lookup "id" ≠ some (RequestId.toJson id)) →
    classify (.object ms) = .notification method
  malformed    : NoReply ms → (∀ method params, ¬Calls ms method params) →
    classify (.object ms) = .malformed
  -- Nothing else in the object makes a difference.
  others       : ∀ ms', Agree ms ms' → classify (.object ms) = classify (.object ms') ∧
    isInitialize (.object ms) = isInitialize (.object ms')

-- A truth value is no id.
example : classify (.object [("id", .bool true), ("method", .string "ping"), ("extra", .null),
    ("jsonrpc", .string "2.0")]) = .notification "ping" := by
  rfl

end ComponentCatalog.Mcp
