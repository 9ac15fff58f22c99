import ComponentCatalog.Proofs.Http.Call
import ComponentCatalog.Proofs.Http.Setup
import ComponentCatalog.Proofs.Mcp.Tools
import ComponentCatalog.Proofs.Operation.Reply

namespace ComponentCatalog

open Mcp (Envelope Members RequestId)

namespace Http

variable {a : App} {rs : Arrivals} {r : Request} {id fresh : String} {op : Operation}
  {given : Members} {i : Json}

-- What a response tells about a tool call: whether that failed, and a text.
structure Response.Tells (response : Response) (failed : Bool) (text : String) : Prop where
  status : response.status = 200
  result : ∃ message result, response.message? = some message ∧
    message.get? "result" = some result ∧ result.get? "isError" = some (.bool failed) ∧
    result.get? "content" = some (Mcp.Tools.textContent text)

theorem Transport.tells_reply (t : Transport) {answer : Except Mcp.Tools.Failure Reply} :
    (t.reply id (Mcp.response i (Mcp.Tools.result answer))).Tells (!answer.isOk)
      (match answer with
        | .ok reply => reply.toJson.render .indented
        | .error e  => e.message) := by
  have ha : (t.reply id (Mcp.response i (Mcp.Tools.result answer))).Answers
      (Mcp.Tools.result answer) := Transport.answers_reply
  have ⟨message, hm, hr⟩ := ha.result
  exact ⟨ha.status, message, _, hm, hr, by cases answer <;> exact ⟨rfl, rfl⟩⟩

theorem Response.Tells.unique {response : Response} {failed failed' : Bool} {text text' : String}
    (h : response.Tells failed text) (h' : response.Tells failed' text') : failed = failed' := by
  have ⟨_, _, hm, hr, he, _⟩ := h.result
  have ⟨_, _, hm', hr', he', _⟩ := h'.result
  cases hm.symm.trans hm'
  cases hr.symm.trans hr'
  cases he.symm.trans he'
  rfl

-- A post over a live session that calls a tool.
structure ToolCall (a : App) (r : Request) (id : String) (op : Operation) (given : Members) :
    Prop where
  path    : a.path.takes r.path
  named   : r.session? = some id
  live    : a.gateway.store.contains id
  enabled : op ∈ a.shared.enabled
  accepts : a.transport.Accepts r
  message : ∃ v rid params, Json.readBytes r.body = .ok v ∧
    Envelope.ofJson? (Mcp.seen v) = some (.request rid "tools/call" (some params)) ∧
    Mcp.Params.toolCall.fits (.object params) ∧
    params.lookup "name" = some (.string op.name) ∧
    params.lookup "arguments" = some (.object given)

-- A response, and the application after it, against a direct call of the operation.
structure Agrees (a : App) (outcome : App × App.Answered) (op : Operation) (arguments : Members) :
    Prop where
  answer  : ∃ response failed text, outcome.2 = .ok (some response) ∧ response.Tells failed text ∧
    (failed ↔ ∃ e, (a.catalog.call op.name (.object arguments)).2 = .error e) ∧
    ∀ reply, (a.catalog.call op.name (.object arguments)).2 = .ok reply →
      Mcp.decodeBody text.toUTF8 = .ok reply.toJson.raw
  catalog : outcome.1.catalog = (a.catalog.call op.name (.object arguments)).1

structure CallsOperation (a : App) (outcome : App × App.Answered) (op : Operation)
    (given : Members) : Prop where
  declared   : (∀ m ∈ given, m.1 ∈ Mcp.Tools.declared op) → Agrees a outcome op given
  undeclared : Agrees a outcome op (Mcp.Tools.narrow op given)
  -- Nothing but the catalog may change.
  rest       : outcome.1 = { a with shared.catalog := outcome.1.catalog }

namespace App

theorem handle_toolCall (fresh : String) (hs : a.gateway.store.Settled) (hi : id ≠ "")
    (hc : ToolCall a r id op given) :
    ∃ rid : Json, ∃ catalog answer, Mcp.Tools.invoke a.shared.enabled a.catalog op.name given =
        (catalog, answer) ∧
      a.handle fresh r = ({ a with shared.catalog := catalog },
        answered (a.transport.reply id (Mcp.response rid (Mcp.Tools.result answer)))) := by
  have ⟨v, rid, params, hv, he, hf, hname, hg⟩ := hc.message
  have hcalls : Calls a r id "tools/call" params :=
    ⟨hc.path, hc.named, hi, hc.live, hc.accepts, ⟨v, rid, some params, hv, he, rfl⟩, hf⟩
  have ⟨rid, hh⟩ := hcalls.handle_eq fresh hs (by decide)
  rw [Mcp.Server.respond_toolCall hname hg] at hh
  exact ⟨rid.toJson, _, _, rfl, hh⟩

theorem Reached.mem_ids_concat (hr : Reached a rs) {x : String × Request} :
    id ∈ (a.serve (rs ++ [x])).gateway.store.ids ↔
      Exchange.HandsOut ⟨a.serve rs, x.1, x.2⟩ id ∨
        id ∈ (a.serve rs).gateway.store.ids ∧ ¬Exchange.Ends ⟨a.serve rs, x.1, x.2⟩ id := by
  rw [serve_concat]
  exact Exchange.mem_ids_next_iff hr.settled hr.running

theorem Reached.ne_empty (hr : Reached a rs) (hd : ∀ x ∈ rs, x.1 ≠ "")
    (hi : id ∈ (a.serve rs).gateway.store.ids) : id ≠ "" := by
  rintro rfl
  refine (hr.unused "" fun hm => ?_).1 hi
  have ⟨x, hx, he⟩ := List.mem_map.mp hm
  exact hd x hx he

end App

theorem ToolCall.nodup (hc : ToolCall a r id op given) :
    ((Mcp.Tools.narrow op given).map Prod.fst).Nodup := by
  obtain ⟨v, rid, params, hv, he, _, _, hg⟩ := hc.message
  obtain ⟨t, _, hr⟩ := exists_text_of_readBytes hv
  obtain ⟨ms, hd, rfl⟩ := Mcp.exists_distinct_params (Json.distinct_readRaw hr) he
  obtain ⟨gs, hd, rfl⟩ := hd.exists_of_lookup (fun _ _ => Text.Raw.eq_ofString (by decide)) hg
  cases hd
  case object hd _ => exact Mcp.Tools.narrow_nodup hd

theorem agrees_of_result {outcome : App × App.Answered} {arguments : Members} {rid : Json}
    {c : Catalog} {answer : Except Mcp.Tools.Failure Reply}
    (ho : outcome = ({ a with shared.catalog := c }, App.answered
      (a.transport.reply id (Mcp.response rid (Mcp.Tools.result answer)))))
    (hc : c = (a.catalog.call op.name (.object arguments)).1)
    (ha : answer.toOption = (a.catalog.call op.name (.object arguments)).2.toOption) :
    Agrees a outcome op arguments := by
  subst ho
  refine ⟨⟨_, _, _, rfl, a.transport.tells_reply, ?_, fun reply hr => ?_⟩, hc⟩
  case refine_1 =>
    cases answer <;> cases h : (a.catalog.call op.name (.object arguments)).2
    all_goals simp [h, Except.toOption, Except.isOk, Except.toBool] at ha ⊢
  case refine_2 =>
    rw [hr] at ha
    cases answer
    case error    => cases ha
    case ok other =>
      cases ha
      rw [Mcp.decodeBody, Reply.readBytes_render]

theorem App.tool_call_agrees (hn : Gateway.stopped.run = .ok a.gateway) (hd : ∀ x ∈ rs, x.1 ≠ "")
    (hc : ToolCall (a.serve rs) r id op given) :
    CallsOperation (a.serve rs) ((a.serve rs).handle fresh r) op given := by
  have hr : Reached a rs := reached hn
  have hi : id ≠ "" := hr.ne_empty hd (SessionStore.contains_iff_mem.mp hc.live)
  have ⟨rid, c, answer, hinvoke, hh⟩ := handle_toolCall fresh hr.settled hi hc
  have ⟨hcatalog, hanswer⟩ :=
    Mcp.Tools.invoke_eq_call (c := (a.serve rs).catalog) hc.enabled hc.nodup
  rw [hinvoke] at hcatalog hanswer
  have hnarrow : Agrees (a.serve rs) ((a.serve rs).handle fresh r) op (Mcp.Tools.narrow op given) :=
    agrees_of_result hh hcatalog hanswer
  exact {
    declared   := fun hg => Mcp.Tools.narrow_of_declared hg ▸ hnarrow
    undeclared := hnarrow
    rest       := by rw [hh]; rfl }

def toolMessage (op : Operation) (given : Members) : Json :=
  .object [
    ("jsonrpc", .string "2.0"),
    ("id", .string "1"),
    ("method", .string "tools/call"),
    ("params", .object [("name", .string op.name), ("arguments", .object given)])]

def Request.toolCall (id : String) (op : Operation) (given : Members) : Request where
  server  := "http://localhost"
  method  := "POST"
  path    := "/mcp"
  query   := ""
  headers := [("content-type", "application/json"), ("accept", "application/json"),
    ("mcp-session-id", id)]
  body    := ((toolMessage op given).render .compact).toUTF8

theorem plain_toolMessage (hp : Json.Plain 1 (.object given)) :
    Json.Plain 3 (toolMessage op given) := by
  have hparams :
      Json.Plain 2 (.object [("name", .string op.name), ("arguments", .object given)]) := by
    refine .object (by simp) ?_
    simp only [List.forall_mem_cons]
    exact ⟨.string, hp, by simp⟩
  refine .object (by simp) ?_
  simp only [List.forall_mem_cons]
  exact ⟨.string, .string, .string, hparams, by simp⟩

theorem readBytes_toolCall (hp : Json.Plain 1 (.object given)) :
    Json.readBytes (Request.toolCall id op given).body = .ok (toolMessage op given).raw := by
  simp only [Request.toolCall]
  exact Json.readBytes_render (plain_toolMessage hp) (by decide)

theorem ofJson?_toolMessage :
    Envelope.ofJson? (Mcp.seen (toolMessage op given).raw) = some (.request (.text "1") "tools/call"
      (some [("name", .string op.name), ("arguments", .object given)])) := by
  rw [Mcp.seen_raw]
  rfl

theorem fits_toolMessage :
    Mcp.Params.toolCall.fits
      (.object [("name", .string op.name), ("arguments", .object given)]) := by
  simp [Mcp.Params.toolCall, Mcp.Params.common, Mcp.Shape.fits, Mcp.Shape.fitsFields,
    Mcp.Shape.optional, Mcp.Shape.needed, Mcp.Shape.object, lookup_cons_eq_ite]

theorem path_toolCall : App.untouched.path.takes (Request.toolCall id op given).path := by
  have h : App.untouched.path.takes "/mcp" := by decide
  exact h

theorem accepts_toolCall : Transport.Accepts ⟨[], [], true⟩ (.toolCall id op given) :=
  Transport.accepts_of_json (.inl rfl) rfl rfl rfl rfl rfl

-- One session is live.
abbrev App.visited : App :=
  App.untouched.serve Arrivals.visit

theorem visited_live : "3e7a" ∈ App.visited.gateway.store.ids := by
  have hstart : App.Reached .untouched [] := App.reached rfl
  have hopened : App.Reached .untouched [("3e7a", .opening)] := App.reached rfl
  have ho : Exchange.HandsOut ⟨App.untouched.serve [], "3e7a", .opening⟩ "3e7a" :=
    openingPost_opening.handsOut rfl ⟨by decide, by decide⟩
  have hm : "3e7a" ∈ (App.untouched.serve [("3e7a", .opening)]).gateway.store.ids :=
    hstart.mem_ids_concat.mpr (.inl ho)
  exact hopened.mem_ids_concat.mpr (.inr ⟨hm, fun he => absurd he.named (by decide)⟩)

theorem toolCall_visited (hp : Json.Plain 1 (.object given)) :
    ToolCall .visited (.toolCall "3e7a" op given) "3e7a" op given := by
  have hs : App.SameSetup .visited .untouched := App.sameSetup_serve
  constructor
  case path    => rw [hs.path]; exact path_toolCall
  case named   => rfl
  case live    => exact SessionStore.contains_iff_mem.mpr visited_live
  case enabled => rw [hs.enabled]; cases op <;> decide
  case accepts => rw [hs.transport]; exact accepts_toolCall
  case message =>
    exact ⟨(toolMessage op given).raw, .text "1", _, readBytes_toolCall hp, ofJson?_toolMessage,
      fits_toolMessage, rfl, rfl⟩

theorem App.tool_call_preview :
    Gateway.stopped.run = .ok App.untouched.gateway ∧ (∀ x ∈ Arrivals.visit, x.1 ≠ "") ∧
      ToolCall .visited (.toolCall "3e7a" .componentByName [("name", .string "preview")]) "3e7a"
        .componentByName [("name", .string "preview")] ∧
      CallsOperation .visited (App.visited.handle "90b6"
          (.toolCall "3e7a" .componentByName [("name", .string "preview")]))
        .componentByName [("name", .string "preview")] := by
  have hn : Gateway.stopped.run = .ok App.untouched.gateway := rfl
  have hd : ∀ x ∈ Arrivals.visit, x.1 ≠ "" := by decide
  have hc : ToolCall .visited (.toolCall "3e7a" .componentByName [("name", .string "preview")])
      "3e7a" .componentByName [("name", .string "preview")] :=
    toolCall_visited (.object (by simp) (List.forall_mem_singleton.mpr .string))
  exact ⟨hn, hd, hc, App.tool_call_agrees hn hd hc⟩

def stray : Members :=
  [("extra", .bool true)]

-- The operation refuses an argument that it does not know, and the tool ignores it.
theorem App.tool_call_stray :
    ToolCall .visited (.toolCall "3e7a" .designTokens stray) "3e7a" .designTokens stray ∧
      ¬Agrees .visited (App.visited.handle "90b6" (.toolCall "3e7a" .designTokens stray))
        .designTokens stray := by
  have hc : ToolCall .visited (.toolCall "3e7a" .designTokens stray) "3e7a" .designTokens stray :=
    toolCall_visited (.object (by decide) (List.forall_mem_singleton.mpr .bool))
  refine ⟨hc, fun ha => ?_⟩
  have ⟨response, failed, text, hanswer, htells, hfailed, _⟩ := ha.answer
  have hcall : ∃ e, (App.visited.catalog.call "get_design_tokens" (.object stray)).2 = .error e :=
    ⟨.invalid [⟨["extra"], .unexpected⟩], rfl⟩
  have htool : Mcp.Tools.invoke App.visited.shared.enabled App.visited.catalog "get_design_tokens"
      stray = (App.visited.catalog, .ok .tokens) := by
    have hs : App.SameSetup .visited .untouched := sameSetup_serve
    rw [hs.enabled]
    rfl
  have hr : Reached .untouched Arrivals.visit := reached rfl
  have ⟨_, _, _, hinvoke, hh⟩ := handle_toolCall "90b6" hr.settled (by decide) hc
  cases htool.symm.trans hinvoke
  rw [hh] at hanswer
  cases hanswer
  have hf : failed = !(Except.ok Reply.tokens : Except Mcp.Tools.Failure Reply).isOk :=
    htells.unique (Transport.tells_reply _)
  rw [hfailed.mpr hcall] at hf
  cases hf

end Http
end ComponentCatalog
