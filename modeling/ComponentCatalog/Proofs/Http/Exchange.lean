import ComponentCatalog.Http.App
import ComponentCatalog.Proofs.Http.Transport
import ComponentCatalog.Proofs.Session.Gateway
import ComponentCatalog.Proofs.Session.Route

namespace ComponentCatalog.Http

open SessionStore

-- A request and the application that receives it, with the id for a session that it may open.
structure Exchange where
  app     : App
  fresh   : String
  request : Request

namespace Exchange

variable {e : Exchange} {id : String} {h : Handle}

def next (e : Exchange) : App :=
  (e.app.multiplex e.fresh e.request).1

def answer (e : Exchange) : App.Answered :=
  (e.app.multiplex e.fresh e.request).2

abbrev store (e : Exchange) : SessionStore :=
  e.app.gateway.store

-- A post that names no session opens one, and its answer tells the new id.
structure HandsOut (e : Exchange) (id : String) : Prop where
  post        : e.request.method = "POST"
  sessionless : Route.namesNoSession e.request.session?
  opening     : ∃ v, App.payload e.request = .ok v ∧ Mcp.isInitialize (Mcp.seen v)
  answered    : ∃ response, e.answer = .ok (some response) ∧ response.status < 400 ∧
    response.session = some id

-- The request carries the id, and ends the transport of the session that has it.
structure Ends (e : Exchange) (id : String) : Prop where
  named : e.request.session? = some id
  ended : ∃ h x y, e.store.session? h = some x ∧ x.id = id ∧ x.terminated = false ∧
    e.next.gateway.store.session? h = some y ∧ y.terminated

theorem HandsOut.unique (h₁ : e.HandsOut id₁) (h₂ : e.HandsOut id₂) : id₁ = id₂ := by
  have ⟨_, a₁, _, s₁⟩ := h₁.answered
  have ⟨_, a₂, _, s₂⟩ := h₂.answered
  cases a₁.symm.trans a₂
  exact Option.some.inj <| s₁.symm.trans s₂

theorem not_ends_of_session?_eq
    (hk : ∀ h x, e.store.session? h = some x → e.next.gateway.store.session? h = some x) :
    ¬e.Ends id := by
  intro he
  have ⟨h, x, y, hx, _, hf, hy, ht⟩ := he.ended
  cases (hk h x hx).symm.trans hy
  simp [hf] at ht

end Exchange

namespace App

variable {a : App} {fresh id : String} {r : Request} {v : RawJson} {h : Handle}

theorem multiplex_of_ok (hp : payload r = .ok v) :
    a.multiplex fresh r =
      match a.route r v with
      | .resume h      => a.resume h r v
      | .start         => a.start fresh r
      | .rejectHost _  => (a, answered (.plain 421 "Invalid Host header"))
      | .rejectPost    => (a, answered (.json 400 none Mcp.badSession))
      | .rejectRequest => (a, answered (.plain 400 "Invalid or missing session ID")) := by
  cases h : a.route r v <;> simp only [multiplex, hp, h]

-- What is answered in place.
inductive Shortcut (v : RawJson) : Answered → Prop
  | answered {method : String} {i : Mcp.RequestId}
    (hc : Mcp.Message.classify (Mcp.seen v) = .unsupported method i) (ht : ¬Mcp.torn v) :
    Shortcut v (answered (.json 200 none (Mcp.methodNotFound method i)))
  | unencodable {method : String} {i : Mcp.RequestId}
    (hc : Mcp.Message.classify (Mcp.seen v) = .unsupported method i) (ht : Mcp.torn v) :
    Shortcut v (.error .unencodable)

theorem shortcut?_of_unsupported {method : String} {i : Mcp.RequestId} (hm : r.method = "POST")
    (hc : Mcp.Message.classify (Mcp.seen v) = .unsupported method i) :
    shortcut? r v = some (if Mcp.torn v then .error .unencodable
      else answered (.json 200 none (Mcp.methodNotFound method i))) := by
  simp only [shortcut?, hm, hc, ne_eq, not_true, if_false]

theorem shortcut?_of_not_unsupported
    (hc : ∀ method i, Mcp.Message.classify (Mcp.seen v) ≠ .unsupported method i) :
    shortcut? r v = none := by
  unfold shortcut?
  split
  case isTrue  => rfl
  case isFalse =>
    split
    case h_1 method i he => exact absurd he (hc method i)
    case h_2             => rfl

theorem shortcut_of_eq_some {answer : Answered} (h : shortcut? r v = some answer) :
    r.method = "POST" ∧ Shortcut v answer := by
  have hm : r.method = "POST" := by
    by_contra hm
    rw [shortcut?, if_pos hm] at h
    cases h
  refine ⟨hm, ?_⟩
  by_cases hc : ∃ method i, Mcp.Message.classify (Mcp.seen v) = .unsupported method i
  case neg =>
    push Not at hc
    rw [shortcut?_of_not_unsupported hc] at h
    cases h
  case pos =>
    obtain ⟨method, i, hc⟩ := hc
    rw [shortcut?_of_unsupported hm hc] at h
    split at h <;> cases h
    case isTrue ht  => exact .unencodable hc ht
    case isFalse ht => exact .answered hc ht

-- What a session answers does not depend on whether its transport ends.
theorem resume_answer :
    (a.resume h r v).2 =
      match shortcut? r v, a.gateway.store.session? h with
      | some answer, _ => answer
      | none, none     => answered serverError
      | none, some x   => .ok (a.transport.handle a.shared x r).2.1 := by
  cases hs : shortcut? r v <;> cases hx : a.gateway.store.session? h <;> simp only [resume, hs, hx]
  case none.some x =>
    split
    case h_1 hh => rw [hh]
    case h_2 hh => rw [hh]

-- The session's transport handles the request and may end with it.
theorem resume_gateway (hs : a.gateway.store.Settled) (hm : (id, h) ∈ a.gateway.store.live) :
    (a.resume h r v).1.gateway = a.gateway ∨
      (a.resume h r v).1.gateway =
        { a.gateway with store := a.gateway.store.retire id h } := by
  have ⟨x, hx, _, _, ht⟩ := hs.active hm
  rw [resume]
  split
  case _ => exact .inl rfl
  case _ => exact .inl rfl
  case _ =>
    split
    case _ => exact .inl <| Gateway.settle_of_active hx ht
    case _ => exact .inr <| Gateway.settle_terminate hs.toSound hm

-- A new session handles its opening request, whose answer decides whether the session stays.
theorem start_of_unused (hr : a.gateway.running) (hu : a.gateway.store.Unused fresh)
    (hp : r.method = "POST") :
    ∃ shared response,
      a.transport.handle a.shared (.fresh fresh) r = (shared, some response, .none) ∧
      a.start fresh r =
        ({ a with
            shared
            gateway := { a.gateway with
              store := if response.status < 400 then a.gateway.store.enroll fresh
                else a.gateway.store.turnAway fresh } },
          .ok (some response)) := by
  have ⟨response, hh⟩ := a.transport.handle_post (s := a.shared) (x := .fresh fresh) hp
  have ⟨g, hg, hc⟩ := Gateway.conclude_reserve hr hu response.status
  refine ⟨_, response, Prod.ext rfl hh, ?_⟩
  simp [start, hg, hh, hc]

theorem start_of_used (hr : a.gateway.running) (hu : ¬a.gateway.store.Unused fresh) :
    a.start fresh r = (a, .error (.gateway (.session (.alreadyUsed fresh)))) := by
  rw [start, Gateway.reserve_of_running hr, Gateway.insert_of_used hu]; rfl

theorem route_eq_resume_iff (hs : a.gateway.store.Sound) :
    a.route r v = .resume h ↔
      ∃ id, r.session? = some id ∧ id ≠ "" ∧ (id, h) ∈ a.gateway.store.live :=
  Route.of_eq_resume_iff.trans hs.get?_eq_some_iff

theorem opening_of_route_eq_start (hr : a.route r v = .start) :
    r.method = "POST" ∧ Route.namesNoSession r.session? ∧ Mcp.isInitialize (Mcp.seen v) := by
  have ⟨hp, hn, hi, _⟩ := Route.of_eq_start_iff.mp hr
  exact ⟨hp, hn, hi⟩

-- A post that asks for a new session gets one if it comes to an allowed host.
theorem multiplex_opening (hp : payload r = .ok v) (hm : r.method = "POST")
    (hn : Route.namesNoSession r.session?) (hi : Mcp.isInitialize (Mcp.seen v)) :
    a.multiplex fresh r =
      if hostAllowed a.transport.hosts (some ((r.header? "host").getD "")) then a.start fresh r
      else (a, answered (.plain 421 "Invalid Host header")) := by
  rw [multiplex_of_ok hp]
  by_cases hh : hostAllowed a.transport.hosts (some ((r.header? "host").getD ""))
  case pos =>
    have hr : a.route r v = .start := Route.of_eq_start_iff.mpr ⟨hm, hn, hi, hh⟩
    rw [hr, if_pos hh]
  case neg =>
    have hr : a.route r v = .rejectHost _ := Route.of_eq_rejectHost_iff.mpr ⟨hm, hn, hi, hh, rfl⟩
    rw [hr, if_neg hh]

end App

namespace Exchange

variable {e : Exchange} {id : String} {h : Handle} {v : RawJson}

-- What an exchange makes of the store.
inductive Effect (e : Exchange) : SessionStore → Prop
  | stays     : (∀ id, ¬e.HandsOut id) → Effect e e.store
  | enrolls    : e.store.Unused e.fresh → e.HandsOut e.fresh → Effect e (e.store.enroll e.fresh)
  | turnsAway : e.store.Unused e.fresh → (∀ id, ¬e.HandsOut id) →
    Effect e (e.store.turnAway e.fresh)
  | retires {id : String} {h : Handle} : (e.request.session? = some id) → (id, h) ∈ e.store.live →
    (∀ id, ¬e.HandsOut id) → Effect e (e.store.retire id h)

-- An exchange leaves the settings of the application as they are.
structure Steps (e : Exchange) : Prop where
  running   : e.next.gateway.running = e.app.gateway.running
  transport : e.next.transport = e.app.transport
  effect    : e.Effect e.next.gateway.store

theorem not_handsOut_of_answer
    (hs : ∀ response, e.answer = .ok (some response) → 400 ≤ response.status) : ¬e.HandsOut id := by
  intro ho
  have ⟨response, ha, hl, _⟩ := ho.answered
  exact absurd hl <| Nat.not_lt.mpr (hs response ha)

theorem Steps.of_eq {result : App.Answered}
    (hr : e.app.multiplex e.fresh e.request = (e.app, result))
    (hs : ∀ response, result = .ok (some response) → 400 ≤ response.status) : e.Steps where
  running   := by rw [next, hr]
  transport := by rw [next, hr]
  effect    := by
    rw [next, hr]
    exact .stays fun _ => not_handsOut_of_answer <| by rw [Exchange.answer, hr]; exact hs

theorem Steps.of_resume (hs : e.store.Settled) (hm : (id, h) ∈ e.store.live) (hi : id ≠ "")
    (hn : e.request.session? = some id) (hr : e.next = (e.app.resume h e.request v).1) :
    e.Steps := by
  have hh : ∀ i, ¬e.HandsOut i :=
    fun i ho => hi <| Route.eq_empty_of_namesNoSession (hn ▸ ho.sessionless)
  have ht : e.next.transport = e.app.transport := by
    rw [hr]
    rw [App.resume]
    repeat' split
    all_goals rfl
  rcases App.resume_gateway (v := v) (r := e.request) hs hm with hg | hg
  case inl => exact ⟨by rw [hr, hg], ht, by rw [hr, hg]; exact .stays hh⟩
  case inr => exact ⟨by rw [hr, hg], ht, by rw [hr, hg]; exact .retires hn hm hh⟩

theorem Steps.of_start (hr : e.app.gateway.running) (hv : App.payload e.request = .ok v)
    (ho : e.request.method = "POST" ∧ Route.namesNoSession e.request.session? ∧
      Mcp.isInitialize (Mcp.seen v))
    (hm : e.app.multiplex e.fresh e.request = e.app.start e.fresh e.request) : e.Steps := by
  by_cases hu : e.store.Unused e.fresh
  case neg => exact .of_eq (hm.trans (App.start_of_used hr hu)) (by simp)
  case pos =>
    have ⟨shared, response, hh, hs⟩ := App.start_of_unused hr hu ho.1
    have ha : e.answer = .ok (some response) := by rw [answer, hm, hs]
    have hn : Transport.Names (Session.fresh e.fresh).id response :=
      Transport.handle_names (by rw [hh])
    refine ⟨by rw [next, hm, hs], by rw [next, hm, hs], ?_⟩
    rw [next, hm, hs]
    dsimp only
    split
    case isTrue hl =>
      exact .enrolls hu ⟨ho.1, ho.2.1, ⟨v, hv, ho.2.2⟩, ⟨response, ha, hl, hn hl⟩⟩
    case isFalse hl =>
      refine .turnsAway hu fun _ => not_handsOut_of_answer fun other hother => ?_
      cases ha.symm.trans hother
      exact Nat.not_lt.mp hl

theorem steps (hs : e.store.Settled) (hr : e.app.gateway.running) : e.Steps := by
  cases hp : App.payload e.request
  case error => exact .of_eq (by rw [App.multiplex, hp]) (by simp)
  case ok v =>
    have hm : e.app.multiplex e.fresh e.request = _ := App.multiplex_of_ok hp
    cases hv : e.app.route e.request v <;> rw [hv] at hm
    case start => exact .of_start hr hp (App.opening_of_route_eq_start hv) hm
    case resume h =>
      have ⟨id, hn, hi, hl⟩ := (App.route_eq_resume_iff hs.toSound).mp hv
      exact .of_resume hs hl hi hn (by rw [next, hm])
    all_goals
      refine .of_eq hm fun response hr => ?_
      cases hr
      simp [Response.plain, Response.json, Response.make]

theorem settled_next (hs : e.store.Settled) (hr : e.app.gateway.running) :
    e.next.gateway.store.Settled := by
  have he := (steps hs hr).effect
  generalize e.next.gateway.store = s at he
  cases he
  case stays            => exact hs
  case enrolls hu _      => exact hs.enroll hu
  case turnsAway hu _   => exact hs.turnAway hu
  case retires hm _     => exact hs.retire hm

-- The ids after a request: the one it hands out, and those before it that it does not end.
theorem mem_ids_next_iff (hs : e.store.Settled) (hr : e.app.gateway.running) :
    id ∈ e.next.gateway.store.ids ↔ e.HandsOut id ∨ (id ∈ e.store.ids ∧ ¬e.Ends id) := by
  have he := (steps hs hr).effect
  generalize hn : e.next.gateway.store = s at he
  cases he
  case stays hh =>
    have hk : ¬e.Ends id := not_ends_of_session?_eq fun _ _ hx => by rw [hn, hx]
    simp [hh, hk]
  case enrolls hu hh =>
    have hk : ¬e.Ends id := not_ends_of_session?_eq fun _ _ hx => by
      rw [hn, session?_enroll_of_lt (lt_next_of_session? hx), hx]
    have hi : e.HandsOut id ↔ id = e.fresh := ⟨(·.unique hh), (· ▸ hh)⟩
    simp [hi, hk, or_comm]
  case turnsAway hu hh =>
    have hk : ¬e.Ends id := not_ends_of_session?_eq fun _ _ hx => by
      rw [hn, session?_turnAway_of_lt (lt_next_of_session? hx), hx]
    simp [hh, hk]
  case retires i h hi hm hh =>
    have ⟨x, hx, hxi, _, ht⟩ := hs.active hm
    have hy : e.next.gateway.store.session? h = some x.terminate.close := by
      simp [hn, session?_retire, hx]
    have hk : e.Ends id ↔ id = i := by
      constructor
      case mp  => exact fun hk => Option.some.inj <| hk.named.symm.trans hi
      case mpr => rintro rfl; exact ⟨hi, h, x, _, hx, hxi, ht, hy, rfl⟩
    simp [hh, hk]

-- Ids come into use only as the fresh id of an exchange.
theorem unused_next (hs : e.store.Settled) (hr : e.app.gateway.running) (hu : e.store.Unused id)
    (hf : id ≠ e.fresh) : e.next.gateway.store.Unused id := by
  have he := (steps hs hr).effect
  generalize e.next.gateway.store = s at he
  cases he
  case stays     => exact hu
  case enrolls    => simpa [Unused, hf] using hu
  case turnsAway => simpa [Unused, hf] using hu
  case retires i _ _ hm _ =>
    have hi : id ≠ i := fun hi => hu.1 <| mem_ids_iff.mpr ⟨_, hi ▸ hm⟩
    simpa [Unused, hi] using hu

end Exchange
end ComponentCatalog.Http
