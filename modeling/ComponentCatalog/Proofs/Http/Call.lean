import ComponentCatalog.Proofs.Http.Opening
import ComponentCatalog.Proofs.Mcp.Server

namespace ComponentCatalog.Http

open Mcp (Envelope Members RequestId)

variable {a : App} {t : Transport} {r : Request} {v : RawJson} {rid : RequestId} {h : Handle}
  {id fresh method : String} {params : Members} {given : Option Members}

-- The message in a response, also if it comes as an event.
def Response.message? (response : Response) : Option Json :=
  match response.body with
  | .json v | .events [v] => some v
  | _                     => none

structure Response.Answers (response : Response) (result : Json) : Prop where
  status : response.status = 200
  result : ∃ message, response.message? = some message ∧ message.get? "result" = some result

theorem Transport.answers_reply {i result : Json} :
    (t.reply id (Mcp.response i result)).Answers result := by
  constructor
  case status =>
    rw [Transport.reply]
    split <;> rfl
  case result =>
    refine ⟨Mcp.response i result, ?_, rfl⟩
    rw [Transport.reply]
    split <;> rfl

-- A post over a live session that asks for something of the protocol.
structure Calls (a : App) (r : Request) (id method : String) (params : Members) : Prop where
  path    : a.path.takes r.path
  named   : r.session? = some id
  ne      : id ≠ ""
  live    : a.gateway.store.contains id
  accepts : a.transport.Accepts r
  message : ∃ v rid given, Json.readBytes r.body = .ok v ∧
    Envelope.ofJson? (Mcp.seen v) = some (.request rid method given) ∧ given.getD [] = params
  fits    : (Mcp.Server.shape method).fits (.object params)

namespace App

def supported : List String :=
  Mcp.Message.lifecycleMethods ++ Mcp.Message.operationMethods ++ Mcp.Message.resourceMethods

theorem ofEnvelope_ne_unsupported {name : String} {i : RequestId} (hm : method ∈ supported) :
    Mcp.Message.ofEnvelope (.request rid method given) ≠ .unsupported name i := by
  simp only [supported, ← List.contains_iff_mem] at hm
  simp only [Mcp.Message.ofEnvelope]
  repeat' split
  all_goals simp_all

theorem shortcut?_of_supported (hm : method ∈ supported)
    (he : Envelope.ofJson? (Mcp.seen v) = some (.request rid method given)) :
    shortcut? r v = none := by
  rw [shortcut?, Mcp.Message.classify, he, Option.elim_some]
  split
  case isTrue  => rfl
  case isFalse =>
    split
    case h_1 hn => exact absurd hn (ofEnvelope_ne_unsupported hm)
    case h_2    => rfl

theorem resume_of_accepts {x : Session} (hm : method ∈ supported)
    (hx : a.gateway.store.session? h = some x) (ht : x.terminated = false)
    (ha : a.transport.Accepts r) (hv : Json.readBytes r.body = .ok v)
    (he : Envelope.ofJson? (Mcp.seen v) = some (.request rid method given)) :
    a.resume h r v =
      ({ a with shared.catalog :=
          (Mcp.Server.answer a.shared.enabled a.shared.catalog rid method given).1 },
        answered (a.transport.reply x.id
          (Mcp.Server.answer a.shared.enabled a.shared.catalog rid method given).2)) := by
  have hh := ha.handle_eq (s := a.shared) ht (Transport.envelope?_of_readBytes hv he)
  simp only [resume, shortcut?_of_supported hm he, hx, hh, Gateway.settle_of_active hx ht, answered]

end App

theorem Calls.handle_eq (fresh : String) (hs : a.gateway.store.Settled)
    (hc : Calls a r id method params) (hm : method ∈ App.supported) :
    ∃ rid, a.handle fresh r =
      ({ a with shared.catalog :=
          (Mcp.Server.respond a.shared.enabled a.catalog method params).1 },
        App.answered (a.transport.reply id (Mcp.Server.message rid
          (Mcp.Server.respond a.shared.enabled a.catalog method params).2))) := by
  have ⟨v, rid, given, hv, he, hg⟩ := hc.message
  have ⟨h, hl⟩ := SessionStore.mem_ids_iff.mp (SessionStore.contains_iff_mem.mp hc.live)
  have ⟨x, hx, hxi, _, ht⟩ := hs.active hl
  have hr : a.route r v = .resume h :=
    (App.route_eq_resume_iff hs.toSound).mpr ⟨id, hc.named, hc.ne, hl⟩
  have hpost : App.methods.contains r.method := by rw [hc.accepts.post]; decide
  have hf : (Mcp.Server.shape method).fits (.object (given.getD [])) := hg ▸ hc.fits
  refine ⟨rid, ?_⟩
  rw [App.handle, if_pos hc.path, if_pos hpost,
    App.multiplex_of_ok (payload_of_readBytes hc.accepts.post hv), hr]
  simp only [App.resume_of_accepts hm hx ht hc.accepts hv he, Mcp.Server.answer_of_fits hf, hg, hxi]
  rfl

end ComponentCatalog.Http
