import ComponentCatalog.Proofs.Http.History
import ComponentCatalog.Proofs.Mcp.Message

namespace ComponentCatalog.Http

open Mcp (Envelope Members RequestId)

variable {r : Request} {v : RawJson} {e : Envelope} {rid : RequestId}

theorem exists_text_of_readBytes {bytes : ByteArray} (h : Json.readBytes bytes = .ok v) :
    ∃ t, Text.decodeDetected? bytes = some t ∧ Json.readRaw t = .ok v := by
  rw [Json.readBytes] at h
  split at h
  case h_1 t hd => exact ⟨t, hd, h⟩
  case h_2      => cases h

theorem payload_of_readBytes (hp : r.method = "POST") (h : Json.readBytes r.body = .ok v) :
    App.payload r = .ok v := by
  rw [App.payload, if_pos hp, Mcp.decodeBody, h]

namespace Transport

theorem envelope?_of_readBytes (h : Json.readBytes r.body = .ok v)
    (he : Envelope.ofJson? (Mcp.seen v) = some e) : envelope? r = .ok e := by
  have ⟨t, hd, hr⟩ := exists_text_of_readBytes h
  simp only [envelope?, hd, hr, he]

-- A post that passes the checks of the transport.
structure Accepts (t : Transport) (r : Request) : Prop where
  post      : r.method = "POST"
  secure    : t.secure r = .ok ()
  accept    : t.checkAccept r = .ok ()
  mediaType : checkMediaType r = .ok ()
  version   : checkVersion r = .ok ()

theorem Accepts.post_eq {t : Transport} (ha : t.Accepts r) (he : envelope? r = .ok e) :
    t.post r = .ok e := by
  have hv : (do unless isOpening e do checkVersion r
                return e : Except Refusal Envelope) = .ok e := by
    rw [ha.version]
    split <;> rfl
  rw [Transport.post, ha.accept, ha.mediaType, he]
  exact hv

theorem Accepts.handle_eq {t : Transport} {s : Shared} {x : Session} {params : Option Members}
    {method : String} (ha : t.Accepts r) (hx : x.terminated = false)
    (he : envelope? r = .ok (.request rid method params)) :
    t.handle s x r =
      ({ s with catalog := (Mcp.Server.answer s.enabled s.catalog rid method params).1 },
        some (t.reply x.id (Mcp.Server.answer s.enabled s.catalog rid method params).2),
        .none) := by
  simp [handle, ha.secure, hx, ha.post, handlePost, ha.post_eq he]

-- A post of JSON passes if answers are JSON too and its host and its origin are allowed.
theorem accepts_of_json {t : Transport} (hh : t.hosts = [] ∨ t.hostFits r ∧ t.originFits r)
    (hj : t.jsonResponse) (hp : r.method = "POST")
    (hc : r.header? "content-type" = some "application/json")
    (ha : r.header? "accept" = some "application/json")
    (hv : r.header? "mcp-protocol-version" = none) : t.Accepts r where
  post      := hp
  secure    := by
    have h : Response.jsonType.toList.isPrefixOf (Text.lower "application/json".toList) := by
      decide
    have hd : declaresJson r := by rwa [declaresJson, hc, Option.any_some]
    rcases hh with hh | ⟨hhost, horigin⟩
    case inl => simp [secure, hd, hh]
    case inr => simp [secure, hd, hhost, horigin]
  accept    := by
    have h : (Text.splitOn ',' "application/json".toList).any fun part =>
      Response.jsonType.toList.isPrefixOf (Text.trim part) := by decide
    have hr : accepts r Response.jsonType := by rw [accepts, ha]; exact h
    rw [checkAccept, if_pos hj, if_pos hr]
  mediaType := by
    have h : (Text.splitOn ',' ("application/json".toList.takeWhile (· != ';'))).any fun part =>
      Text.trim part == Response.jsonType.toList := by decide
    rw [checkMediaType, hc]
    exact if_pos h
  version   := by rw [checkVersion, hv]

end Transport

-- A post that asks for a new session.
structure OpeningPost (t : Transport) (r : Request) : Prop where
  accepts     : t.Accepts r
  sessionless : Route.namesNoSession r.session?
  host        : hostAllowed t.hosts (some ((r.header? "host").getD ""))
  message     : ∃ v, Json.readBytes r.body = .ok v ∧ Mcp.isInitialize (Mcp.seen v)

theorem OpeningPost.handsOut {a : App} {fresh : String} (ho : OpeningPost a.transport r)
    (hr : a.gateway.running) (hu : a.gateway.store.Unused fresh) :
    Exchange.HandsOut ⟨a, fresh, r⟩ fresh := by
  obtain ⟨v, hv, hi⟩ := ho.message
  have hp : App.payload r = .ok v := payload_of_readBytes ho.accepts.post hv
  obtain ⟨rid, params, he⟩ := Mcp.exists_request_of_isInitialize hi
  have hroute : a.route r v = .start :=
    Route.of_eq_start_iff.mpr ⟨ho.accepts.post, ho.sessionless, hi, ho.host⟩
  obtain ⟨shared, response, hh, hs⟩ := App.start_of_unused hr hu ho.accepts.post
  obtain ⟨w, hw⟩ : ∃ w, response = a.transport.reply fresh w := by
    rw [ho.accepts.handle_eq rfl (Transport.envelope?_of_readBytes hv he)] at hh
    cases hh
    exact ⟨_, rfl⟩
  refine ⟨ho.accepts.post, ho.sessionless, ⟨v, hp, hi⟩, response, ?_, ?_, ?_⟩
  case refine_1 => rw [Exchange.answer, App.multiplex_of_ok hp, hroute, hs]
  case refine_2 =>
    have hs : (a.transport.reply fresh w).status = 200 := by
      rw [Transport.reply]
      split <;> rfl
    rw [hw, hs]
    decide
  case refine_3 =>
    rw [hw, Transport.reply]
    split <;> rfl

theorem exists_message_opening :
    ∃ v, Json.readBytes Request.opening.body = .ok v ∧ Mcp.isInitialize (Mcp.seen v) := by
  have h : (Json.readBytes Request.opening.body).toOption.any fun v =>
      Mcp.isInitialize (Mcp.seen v) := by
    decide +kernel
  cases hv : Json.readBytes Request.opening.body <;> rw [hv] at h
  case error => cases h
  case ok v  => exact ⟨v, rfl, h⟩

theorem openingPost_opening : OpeningPost ⟨[], [], true⟩ .opening where
  accepts     := Transport.accepts_of_json (.inl rfl) rfl rfl rfl rfl rfl
  sessionless := rfl
  host        := rfl
  message     := exists_message_opening

end ComponentCatalog.Http
