import ComponentCatalog.Proofs.Http.Exchange
import Mathlib.Data.List.Induction

namespace ComponentCatalog.Http

open SessionStore

-- Requests in the order of their arrival, each with the id for a session that it may open.
abbrev Arrivals := List (String × Request)

-- The id was handed out, and no later exchange has ended it.
def Open (history : List Exchange) (id : String) : Prop :=
  ∃ before e after, history = before ++ e :: after ∧ e.HandsOut id ∧ ∀ e' ∈ after, ¬e'.Ends id

variable {es : List Exchange} {e : Exchange} {id : String}

theorem not_open_nil : ¬Open [] id := by
  rintro ⟨before, _, _, h, _⟩
  simp at h

theorem open_concat :
    Open (es ++ [e]) id ↔ e.HandsOut id ∨ (Open es id ∧ ¬e.Ends id) := by
  constructor
  case mp =>
    rintro ⟨before, o, after, h, ho, hn⟩
    rcases after.eq_nil_or_concat with rfl | ⟨rest, last, rfl⟩
    case inl =>
      have ⟨_, h⟩ := List.append_inj' h rfl
      exact .inl <| List.singleton_inj.mp h ▸ ho
    case inr =>
      rw [List.concat_eq_append, ← List.cons_append, ← List.append_assoc] at h
      have ⟨hes, he⟩ := List.append_inj' h rfl
      cases List.singleton_inj.mp he
      refine .inr ⟨⟨before, o, rest, hes, ho, fun e' he' => hn e' ?_⟩, hn e ?_⟩
      all_goals simp [*]
  case mpr =>
    rintro (ho | ⟨⟨before, o, after, rfl, ho, hn⟩, he⟩)
    case inl => exact ⟨es, e, [], rfl, ho, by simp⟩
    case inr =>
      refine ⟨before, o, after ++ [e], by simp, ho, fun e' he' => ?_⟩
      rcases List.mem_append.mp he' with he' | he'
      case inl => exact hn e' he'
      case inr => exact List.mem_singleton.mp he' ▸ he

namespace App

variable {a : App} {rs : Arrivals} {x : String × Request}

def serve (a : App) (rs : Arrivals) : App :=
  rs.foldl (fun a x => (a.multiplex x.1 x.2).1) a

def history (a : App) : Arrivals → List Exchange
  | []      => []
  | x :: rs => ⟨a, x.1, x.2⟩ :: (a.multiplex x.1 x.2).1.history rs

theorem serve_concat : a.serve (rs ++ [x]) = Exchange.next ⟨a.serve rs, x.1, x.2⟩ := by
  simp [serve, Exchange.next]

theorem history_concat : a.history (rs ++ [x]) = a.history rs ++ [⟨a.serve rs, x.1, x.2⟩] := by
  induction rs generalizing a
  case nil          => rfl
  case cons y rs hi => simp [history, hi, serve]

-- What is known of an application that was started without sessions and has served some requests.
structure Reached (a : App) (rs : Arrivals) : Prop where
  running   : (a.serve rs).gateway.running
  transport : (a.serve rs).transport = a.transport
  settled   : (a.serve rs).gateway.store.Settled
  unused    : ∀ id ∉ rs.map Prod.fst, (a.serve rs).gateway.store.Unused id
  stored    : ∀ id, id ∈ (a.serve rs).gateway.store.ids ↔ Open (a.history rs) id

theorem reached_nil (hn : Gateway.stopped.run = .ok a.gateway) : Reached a [] := by
  have hg : a.gateway = { store := .empty, running := true } := (Except.ok.inj hn).symm
  refine ⟨?_, rfl, ?_, ?_, ?_⟩
  all_goals simp only [serve, List.foldl_nil, hg]
  case refine_2 => exact .empty
  case refine_3 => simp [Unused, ids, SessionStore.empty]
  case refine_4 => simp [history, not_open_nil, ids, SessionStore.empty]

theorem Reached.concat (hr : Reached a rs) : Reached a (rs ++ [x]) := by
  let e : Exchange := ⟨a.serve rs, x.1, x.2⟩
  have hs := Exchange.steps (e := e) hr.settled hr.running
  constructor
  all_goals simp only [serve_concat, history_concat]
  case running   => exact hs.running.trans hr.running
  case transport => exact hs.transport.trans hr.transport
  case settled   => exact Exchange.settled_next (e := e) hr.settled hr.running
  case unused =>
    intro id hi
    rw [List.map_append, List.mem_append, not_or] at hi
    have hf : id ≠ e.fresh := by simpa using hi.2
    exact Exchange.unused_next hr.settled hr.running (hr.unused id hi.1) hf
  case stored =>
    intro id
    rw [Exchange.mem_ids_next_iff (e := e) hr.settled hr.running, open_concat, ← hr.stored]

theorem reached (hn : Gateway.stopped.run = .ok a.gateway) : Reached a rs := by
  induction rs using List.reverseRecOn
  case nil                  => exact reached_nil hn
  case append_singleton hr  => exact hr.concat

end App

-- What becomes of a request that carries no open id. Ids that were drawn before are `drawn`.
structure Unserved (drawn : List String) (e : Exchange) (v : RawJson) : Prop where
  noPost    : e.request.method ≠ "POST" →
    e.next = e.app ∧ e.answer = App.answered (.plain 400 "Invalid or missing session ID")
  noOpening : e.request.method = "POST" →
    ¬(Route.namesNoSession e.request.session? ∧ Mcp.isInitialize (Mcp.seen v)) →
    e.next = e.app ∧ e.answer = App.answered (.json 400 none
      (Mcp.errorResponse .null (-32000) "Bad Request: No valid session ID provided" none))
  strayHost : e.request.method = "POST" → Route.namesNoSession e.request.session? →
    Mcp.isInitialize (Mcp.seen v) →
    ¬hostAllowed e.app.transport.hosts (some ((e.request.header? "host").getD "")) →
    e.next = e.app ∧ e.answer = App.answered (.plain 421 "Invalid Host header")
  starts    : e.request.method = "POST" → Route.namesNoSession e.request.session? →
    Mcp.isInitialize (Mcp.seen v) →
    hostAllowed e.app.transport.hosts (some ((e.request.header? "host").getD "")) →
    e.fresh ∉ drawn →
    ∃ shared response,
      e.app.transport.handle e.app.shared (.fresh e.fresh) e.request =
        (shared, some response, .none) ∧
      e.answer = .ok (some response) ∧ e.next.shared = shared ∧
      e.next.gateway.store =
        if response.status < 400 then e.store.enroll e.fresh else e.store.turnAway e.fresh

-- The sessions after some requests, as the history of these requests tells them.
structure Follows (a : App) (rs : Arrivals) : Prop where
  hosts    : (a.serve rs).transport.hosts = a.transport.hosts
  stored   : ∀ id, (a.serve rs).gateway.store.contains id ↔ Open (a.history rs) id
  active   : ∀ id h, (id, h) ∈ (a.serve rs).gateway.store.live →
    ∃ x, (a.serve rs).gateway.store.session? h = some x ∧ x.id = id ∧ x.state = .active ∧
      x.terminated = false
  served   : ∀ r v h, (a.serve rs).route r v = .resume h ↔
    ∃ id, r.session? = some id ∧ Open (a.history rs) id ∧ (id, h) ∈ (a.serve rs).gateway.store.live
  resumed  : ∀ fresh r v h, App.payload r = .ok v → (a.serve rs).route r v = .resume h →
    (a.serve rs).multiplex fresh r = (a.serve rs).resume h r v
  unserved : ∀ fresh r v, App.payload r = .ok v →
    (∀ id, r.session? = some id → ¬Open (a.history rs) id) →
    Unserved (rs.map Prod.fst) ⟨a.serve rs, fresh, r⟩ v

theorem Exchange.unserved_of_none {e : Exchange} {v : RawJson} {drawn : List String}
    (hp : App.payload e.request = .ok v) (hg : e.store.get? e.request.session? = none)
    (hr : e.app.gateway.running) (hu : ∀ id ∉ drawn, e.store.Unused id) : Unserved drawn e v := by
  have hm : e.app.multiplex e.fresh e.request = _ := App.multiplex_of_ok hp
  rw [App.route, Route.of_eq_of_none hg] at hm
  constructor
  case noPost =>
    intro hpost
    rw [if_pos hpost] at hm
    exact ⟨by rw [Exchange.next, hm], by rw [Exchange.answer, hm]⟩
  case noOpening =>
    intro hpost ho
    rw [if_neg (by simp [hpost]), if_pos (by simpa [imp_iff_not_or] using ho)] at hm
    exact ⟨by rw [Exchange.next, hm], by rw [Exchange.answer, hm, Mcp.badSession]⟩
  case strayHost =>
    intro hpost hn hi hh
    rw [if_neg (by simp [hpost]), if_neg (by simp [hn, hi]), if_neg hh] at hm
    exact ⟨by rw [Exchange.next, hm], by rw [Exchange.answer, hm]⟩
  case starts =>
    intro hpost hn hi hh hd
    rw [if_neg (by simp [hpost]), if_neg (by simp [hn, hi]), if_pos hh] at hm
    obtain ⟨shared, response, hh, hs⟩ := App.start_of_unused hr (hu _ hd) hpost
    exact ⟨shared, response, hh, by rw [Exchange.answer, hm, hs], by rw [Exchange.next, hm, hs],
      by rw [Exchange.next, hm, hs]⟩

theorem App.sessions_follow_history {a : App} {rs : Arrivals}
    (hn : Gateway.stopped.run = .ok a.gateway) (hd : ∀ x ∈ rs, x.1 ≠ "") : Follows a rs := by
  have hr : Reached a rs := reached hn
  have hne : ∀ id, Open (a.history rs) id → id ≠ "" := by
    rintro _ ho rfl
    refine (hr.unused "" ?_).1 <| (hr.stored "").mpr ho
    intro hm
    have ⟨x, hx, he⟩ := List.mem_map.mp hm
    exact hd x hx he
  constructor
  case hosts  => rw [hr.transport]
  case stored => exact fun id => contains_iff_mem.trans (hr.stored id)
  case active => exact fun _ _ => hr.settled.active
  case served =>
    intro r v h
    rw [App.route_eq_resume_iff hr.settled.toSound]
    refine exists_congr fun id => and_congr_right fun _ => and_congr_left fun hm => ?_
    have ho := (hr.stored id).mp <| mem_ids_iff.mpr ⟨h, hm⟩
    exact iff_of_true (hne id ho) ho
  case resumed =>
    intro fresh r v h hp hv
    rw [App.multiplex_of_ok hp, hv]
  case unserved =>
    intro fresh r v hp ho
    refine Exchange.unserved_of_none hp ?_ hr.running hr.unused
    refine hr.settled.get?_eq_none_iff.mpr fun id hi _ hm => ?_
    exact ho id hi <| (hr.stored id).mp hm

-- A client opens a session, and another one tries to end a session that never was.
def Request.opening : Request where
  server  := "http://localhost"
  method  := "POST"
  path    := "/mcp"
  query   := ""
  headers := [("content-type", "application/json"), ("accept", "application/json")]
  body    := String.toUTF8 <|
    "\x7b\"jsonrpc\":\"2.0\",\"id\":1,\"method\":\"initialize\",\"params\":\x7b" ++
      "\"protocolVersion\":\"2025-03-26\",\"capabilities\":\x7b\x7d," ++
      "\"clientInfo\":\x7b\"name\":\"a\",\"version\":\"1\"\x7d\x7d\x7d"

def Request.deletion (id : String) : Request where
  server  := "http://localhost"
  method  := "DELETE"
  path    := "/mcp"
  query   := ""
  headers := [("mcp-session-id", id)]
  body    := .empty

def App.untouched : App where
  path      := ⟨"/mcp", "/mcp".toList.map .inl⟩
  transport := ⟨[], [], true⟩
  shared    := ⟨Operation.all, .cold (.standard ⟨.none, []⟩ ⟨.none, []⟩) ⟨.folder [], []⟩⟩
  gateway   := ⟨.empty, true⟩

def Arrivals.visit : Arrivals :=
  [("3e7a", .opening), ("81d0", .deletion "c5f2")]

theorem App.sessions_follow_visit :
    Gateway.stopped.run = .ok App.untouched.gateway ∧ (∀ x ∈ Arrivals.visit, x.1 ≠ "") ∧
      (App.untouched.serve Arrivals.visit).gateway.store.ids = ["3e7a"] ∧
      Follows App.untouched Arrivals.visit := by
  have hn : Gateway.stopped.run = .ok App.untouched.gateway := rfl
  have hd : ∀ x ∈ Arrivals.visit, x.1 ≠ "" := by decide
  exact ⟨hn, hd, by decide +kernel, App.sessions_follow_history hn hd⟩

end ComponentCatalog.Http
