import ComponentCatalog.Proofs.Http.History
import ComponentCatalog.Proofs.Json.Limit
import ComponentCatalog.Proofs.Session.Segment
import ComponentCatalog.Proofs.Text.Encoding

namespace ComponentCatalog

namespace Json

-- The body shows no text, or one that no limit keeps from being read.
def Moderate (body : ByteArray) : Prop :=
  ∀ t, Text.decodeDetected? body = some t →
    (t.map Text.Point.shown).countP opensContainer ≤ Read.depthLimit ∧
      ∀ n, HasDigits n (t.map Text.Point.shown) → n ≤ Text.digitLimit

end Json

namespace Mcp

variable {body : ByteArray} {e : Json.ReadError}

theorem decodeBody_of_decodeDetected? {t : Text.Raw} (h : Text.decodeDetected? body = some t)
    (he : Json.readRaw t = .error e) (hn : e ≠ .malformed) : decodeBody body = .error e := by
  cases e
  case malformed => exact absurd rfl hn
  all_goals simp only [decodeBody, Json.readBytes, h, he]

theorem exceeds_of_decodeBody (h : decodeBody body = .error e) :
    e ≠ .malformed ∧ ∃ t, Text.decodeDetected? body = some t ∧
      e.Exceeds (t.map Text.Point.shown) := by
  rw [decodeBody] at h
  split at h
  case h_1 => cases h
  case h_2 hm =>
    have hn : e ≠ .malformed := fun he => hm (he ▸ h)
    refine ⟨hn, ?_⟩
    rw [Json.readBytes] at h
    split at h
    case h_1 t ht => exact ⟨t, ht, Json.exceeds_of_readRaw h⟩
    case h_2      => cases h; exact absurd rfl hn

theorem exists_decodeBody (hm : Json.Moderate body) : ∃ v, decodeBody body = .ok v := by
  cases h : decodeBody body
  case ok v    => exact ⟨v, rfl⟩
  case error e =>
    obtain ⟨hn, t, ht, he⟩ := exceeds_of_decodeBody h
    obtain ⟨hd, hl⟩ := hm t ht
    cases e
    case malformed       => exact absurd rfl hn
    case tooDeep         => exact absurd he (Nat.not_lt.mpr hd)
    case tooManyDigits n => exact absurd he.1 (Nat.not_lt.mpr (hl n he.2))

end Mcp

namespace Http

open SessionStore

namespace Transport

variable {t : Transport} {s : Shared} {x : Session} {r : Request}

-- Only a stream that is taken up again gets no response.
theorem method_of_handle_eq_none (h : (t.handle s x r).2.1 = none) :
    r.method = "GET" ∧ resumes r := by
  rw [handle] at h
  split at h
  case h_1 => cases h
  case h_2 =>
    split at h
    case isTrue  => cases h
    case isFalse =>
      split at h
      case h_1    => cases h
      case h_2 hm =>
        refine ⟨hm, ?_⟩
        unfold handleGet at h
        dsimp only at h
        split at h
        case h_1 => cases h
        case h_2 =>
          split at h
          case isTrue hr => exact hr
          case isFalse   => cases h
      case h_3    => cases h
      case h_4    => cases h

end Transport

namespace App

-- The answers that a request may get, the last two of them from the transport of a session.
inductive Documented (a : App) (fresh : String) (r : Request) : Option Response → Prop
  | noSession (hm : r.method ≠ "POST") (hs : a.gateway.store.get? r.session? = none) :
    Documented a fresh r (some (.plain 400 "Invalid or missing session ID"))
  | noOpening (hm : r.method = "POST") (hs : a.gateway.store.get? r.session? = none) :
    Documented a fresh r (some (.json 400 none (Mcp.errorResponse .null (-32000)
      "Bad Request: No valid session ID provided" none)))
  | strayHost (hm : r.method = "POST") (hn : Route.namesNoSession r.session?)
    (hh : ¬hostAllowed a.transport.hosts (some ((r.header? "host").getD ""))) :
    Documented a fresh r (some (.plain 421 "Invalid Host header"))
  | unsupported {id : String} {h : Handle} (hm : r.method = "POST") (hi : r.session? = some id)
    (hl : (id, h) ∈ a.gateway.store.live) (method : String) (rid : Mcp.RequestId) :
    Documented a fresh r (some (.json 200 none (Mcp.errorResponse rid.toJson (-32601)
      ("Method not found: " ++ method) none)))
  | resumed {id : String} {h : Handle} {x : Session} (hi : r.session? = some id)
    (hl : (id, h) ∈ a.gateway.store.live) (hx : a.gateway.store.session? h = some x) :
    Documented a fresh r (a.transport.handle a.shared x r).2.1
  | opened (hm : r.method = "POST") (hn : Route.namesNoSession r.session?)
    (hh : hostAllowed a.transport.hosts (some ((r.header? "host").getD ""))) :
    Documented a fresh r (a.transport.handle a.shared (.fresh fresh) r).2.1

variable {a : App} {fresh id : String} {r : Request} {h : Handle} {v : RawJson} {x : Session}
  {answer : Option Response}

-- The session is live, but the request is for a method that no session handles, and the reply would
-- have to repeat a text that has no encoding.
structure Unencodable (a : App) (r : Request) (v : RawJson) : Prop where
  post        : r.method = "POST"
  live        : ∃ h, a.gateway.store.get? r.session? = some h
  unsupported : ∃ method i, Mcp.Message.classify (Mcp.seen v) = .unsupported method i
  torn        : Mcp.torn v

theorem documented_resume (hi : r.session? = some id) (hl : (id, h) ∈ a.gateway.store.live)
    (hx : a.gateway.store.session? h = some x) (ha : (a.resume h r v).2 = .ok answer) :
    Documented a fresh r answer := by
  rw [resume_answer, hx] at ha
  split at ha
  case h_1 hs =>
    obtain ⟨hm, hs⟩ := shortcut_of_eq_some hs
    cases hs <;> cases ha
    exact .unsupported hm hi hl _ _
  case h_2 hn => cases hn
  case h_3 he =>
    cases he
    cases ha
    exact .resumed hi hl hx

theorem Unencodable.multiplex_eq (hu : Unencodable a r v) (hp : payload r = .ok v) :
    a.multiplex fresh r = (a, .error .unencodable) := by
  obtain ⟨h, hg⟩ := hu.live
  obtain ⟨method, i, hc⟩ := hu.unsupported
  have hr : a.route r v = .resume h := Route.of_eq_resume_iff.mpr hg
  rw [multiplex_of_ok hp, hr]
  simp only [resume, shortcut?_of_unsupported hu.post hc, if_pos hu.torn]

theorem answered_resume (hr : a.route r v = .resume h) (hn : ¬Unencodable a r v) :
    ∃ answer, (a.resume h r v).2 = .ok answer := by
  rw [resume_answer]
  split
  case h_1 hs =>
    obtain ⟨hm, hs⟩ := shortcut_of_eq_some hs
    cases hs
    case answered          => exact ⟨_, rfl⟩
    case unencodable hc ht =>
      exact absurd ⟨hm, ⟨h, Route.of_eq_resume_iff.mp hr⟩, ⟨_, _, hc⟩, ht⟩ hn
  case h_2 => exact ⟨_, rfl⟩
  case h_3 => exact ⟨_, rfl⟩

theorem documented_start (hr : a.route r v = .start) (h : (a.start fresh r).2 = .ok answer) :
    Documented a fresh r answer := by
  obtain ⟨hm, hn, _, hh⟩ := Route.of_eq_start_iff.mp hr
  unfold start at h
  split at h
  case h_1 => cases h
  case h_2 => exact Except.ok.inj h ▸ .opened hm hn hh

theorem documented_multiplex (hs : a.gateway.store.Sound)
    (h : (a.multiplex fresh r).2 = .ok answer) : Documented a fresh r answer := by
  cases hp : payload r
  case error => rw [multiplex, hp] at h; cases h
  case ok v  =>
    rw [multiplex_of_ok hp] at h
    cases hr : a.route r v <;> rw [hr] at h
    case start => exact documented_start hr h
    case resume k =>
      obtain ⟨id, hi, _, hl⟩ := (route_eq_resume_iff hs).mp hr
      obtain ⟨x, hx, _⟩ := hs.keyed hl
      exact documented_resume hi hl hx h
    case rejectHost =>
      obtain ⟨hm, hn, _, hh, _⟩ := Route.of_eq_rejectHost_iff.mp hr
      exact Except.ok.inj h ▸ .strayHost hm hn hh
    case rejectPost =>
      obtain ⟨hm, hg, _⟩ := Route.of_eq_rejectPost_iff.mp hr
      exact Except.ok.inj h ▸ .noOpening hm hg
    case rejectRequest =>
      obtain ⟨hm, hg⟩ := Route.of_eq_rejectRequest_iff.mp hr
      exact Except.ok.inj h ▸ .noSession hm hg

theorem start_of_stopped (hr : ¬a.gateway.running) :
    a.start fresh r = (a, .error (.gateway .notRunning)) := by
  rw [start, Gateway.reserve, if_pos (by simpa using hr)]

-- Else only the start of a session may fail.
theorem answered_of_route_ne_start (hp : payload r = .ok v) (hn : a.route r v ≠ .start)
    (hu : ¬Unencodable a r v) : ∃ answer, (a.multiplex fresh r).2 = .ok answer := by
  rw [multiplex_of_ok hp]
  cases hr : a.route r v
  case start  => exact absurd hr hn
  case resume => exact answered_resume hr hu
  all_goals exact ⟨_, rfl⟩

theorem unreadable_of_payload {e : Json.ReadError} (hp : payload r = .error e) :
    r.method = "POST" ∧ ¬Json.Moderate r.body := by
  rw [payload] at hp
  split at hp
  case isFalse  => cases hp
  case isTrue h =>
    refine ⟨h, fun hm => ?_⟩
    obtain ⟨v, hv⟩ := Mcp.exists_decodeBody hm
    cases hv.symm.trans hp

-- How requests are served in a state. Those that are not answered do not change it.
structure Serves (a : App) : Prop where
  decoded     : ∀ body, Json.Moderate body → ∃ v, Mcp.decodeBody body = .ok v
  answered    : ∀ fresh r v, payload r = .ok v → ¬Unencodable a r v → a.gateway.running →
    a.gateway.store.Unused fresh →
    ∃ answer, (a.multiplex fresh r).2 = .ok answer ∧ Documented a fresh r answer
  -- No session is started before the server has, and after it has stopped.
  stopped     : ∀ fresh r v, payload r = .ok v → ¬Unencodable a r v → ¬a.gateway.running →
    (∃ answer, (a.multiplex fresh r).2 = .ok answer ∧ Documented a fresh r answer) ∨
      Mcp.isInitialize (Mcp.seen v) ∧ a.multiplex fresh r = (a, .error (.gateway .notRunning))
  silent      : ∀ fresh r, (a.multiplex fresh r).2 = .ok none →
    r.method = "GET" ∧ Transport.resumes r
  unencodable : ∀ fresh r v, payload r = .ok v → Unencodable a r v →
    a.multiplex fresh r = (a, .error .unencodable)
  unreadable  : ∀ fresh r e, payload r = .error e →
    a.multiplex fresh r = (a, .error (.unreadable e)) ∧ r.method = "POST" ∧ ¬Json.Moderate r.body

theorem silent_of_documented (h : Documented a fresh r none) :
    r.method = "GET" ∧ Transport.resumes r := by
  generalize ha : (none : Option Response) = answer at h
  cases h
  case resumed => exact Transport.method_of_handle_eq_none ha.symm
  case opened  => exact Transport.method_of_handle_eq_none ha.symm
  all_goals cases ha

theorem serves (hs : a.gateway.store.Sound) : Serves a := by
  constructor
  case decoded => exact fun _ => Mcp.exists_decodeBody
  case answered =>
    intro fresh r v hp he hr hu
    have ⟨answer, ha⟩ : ∃ answer, (a.multiplex fresh r).2 = .ok answer := by
      by_cases hn : a.route r v = .start
      case neg => exact answered_of_route_ne_start hp hn he
      case pos =>
        have hpost : r.method = "POST" := (Route.of_eq_start_iff.mp hn).1
        obtain ⟨_, response, _, hstart⟩ := start_of_unused hr hu hpost
        exact ⟨some response, by rw [multiplex_of_ok hp, hn]; simp only [hstart]⟩
    exact ⟨answer, ha, documented_multiplex hs ha⟩
  case stopped =>
    intro fresh r v hp he hr
    by_cases hn : a.route r v = .start
    case pos =>
      refine .inr ⟨(Route.of_eq_start_iff.mp hn).2.2.1, ?_⟩
      rw [multiplex_of_ok hp, hn]
      exact start_of_stopped hr
    case neg =>
      obtain ⟨answer, ha⟩ := answered_of_route_ne_start hp hn he
      exact .inl ⟨answer, ha, documented_multiplex hs ha⟩
  case silent =>
    intro fresh r h
    exact silent_of_documented (documented_multiplex hs h)
  case unencodable => exact fun _ _ _ hp hu => hu.multiplex_eq hp
  case unreadable =>
    intro fresh r e hp
    exact ⟨by rw [multiplex, hp], unreadable_of_payload hp⟩

-- Starts and ends of sessions, of the server too, may have come in any order before.
theorem requests_served {xs : List Gateway.Segment} (hg : a.gateway = Gateway.stopped.after xs) :
    Serves a := by
  have hn : a.gateway.store.Named := hg ▸ Gateway.named_stopped
  exact serves hn.toSound

theorem requests_served_untouched :
    App.untouched.gateway = Gateway.stopped.after [.run] ∧ Serves App.untouched := by
  have hg : App.untouched.gateway = Gateway.stopped.after [.run] := rfl
  exact ⟨hg, requests_served hg⟩

end App

-- A post whose body is an integer of so many digits.
def Request.integer (digits : Nat) : Request :=
  { Request.opening with body := (String.ofList (List.replicate digits '1')).toUTF8 }

theorem decodeBody_integer {n : Nat} (hn : Text.digitLimit < n + 2) :
    Mcp.decodeBody (Request.integer (n + 2)).body = .error (.tooManyDigits (n + 2)) := by
  have hs : (String.ofList (List.replicate (n + 2) '1')).toList =
      '1' :: '1' :: List.replicate n '1' := String.toList_ofList
  have hd : ∀ d ∈ '1' :: List.replicate n '1', (Json.Read.digit? d).isSome := by
    rw [← List.replicate_succ]
    intro d hd
    rw [List.eq_of_mem_replicate hd]
    rfl
  have hl : ('1' :: List.replicate n '1').length + 1 = n + 2 := by simp
  have hr := Json.readRaw_digits hd (by rwa [hl])
  rw [hl, ← hs] at hr
  exact Mcp.decodeBody_of_decodeDetected?
    (Text.decodeDetected?_toUTF8 hs (by decide) (by decide)) hr nofun

namespace App

-- One digit more than an integer may have.
theorem request_unanswered :
    ¬∀ (a : App) (xs : List Gateway.Segment) (fresh : String) (r : Request),
      a.gateway = Gateway.stopped.after xs → a.gateway.running → a.gateway.store.Unused fresh →
        ∃ answer, (a.multiplex fresh r).2 = .ok answer ∧ Documented a fresh r answer := by
  intro h
  have hu : untouched.gateway.store.Unused "3e7a" := ⟨List.not_mem_nil, List.not_mem_nil⟩
  obtain ⟨_, ha, _⟩ := h untouched [.run] "3e7a" (.integer (4299 + 2)) rfl rfl hu
  have hp : payload (.integer (4299 + 2)) = .error (.tooManyDigits (4299 + 2)) :=
    (if_pos rfl).trans (decodeBody_integer (by decide))
  rw [multiplex, hp] at ha
  cases ha

end App
end Http
end ComponentCatalog
