import ComponentCatalog.Proofs.Http.Foreign
import ComponentCatalog.Proofs.Mcp.Sorting

namespace ComponentCatalog.Http

-- A part of a body, and whether more of it is to come.
structure Piece where
  bytes : ByteArray
  more  : Bool

-- What is still to be received. After that the client is gone.
abbrev Connection := List Piece

namespace Connection

-- Reads a body, unless the client leaves before the end of it.
def take? : Connection → Option (ByteArray × Connection)
  | []     => none
  | p :: c =>
    if p.more then (take? c).map fun (body, rest) => (p.bytes ++ body, rest)
    else some (p.bytes, c)

def putBack (c : Connection) (body : ByteArray) : Connection :=
  ⟨body, false⟩ :: c

theorem take?_putBack {c : Connection} {body : ByteArray} :
    (c.putBack body).take? = some (body, c) :=
  rfl

-- A body in two parts.
example {c : Connection} {body body' : ByteArray} :
    take? (⟨body, true⟩ :: ⟨body', false⟩ :: c) = some (body ++ body', c) := rfl

end Connection

-- The request comes as its head, and its body over the connection.
structure Request.Arrives (r head : Request) (c rest : Connection) : Prop where
  head : { head with body := r.body } = r
  body : c.take? = some (r.body, rest)

-- How the transport of a session serves a request whose body is still on the connection.
abbrev Serve (σ : Type) :=
  σ → Session → Request → Connection → σ × Option Response × Transport.Effect

-- Also keeps what it is handed.
def Serve.noted {σ : Type} (serve : Serve σ) : Serve (σ × List (Session × Request × Connection)) :=
  fun (s, handed) x head c =>
    let (s, response, effect) := serve s x head c
    ((s, handed ++ [(x, head, c)]), response, effect)

-- A client that is gone gets no answer.
def Transport.serve (t : Transport) : Serve Transport.Shared := fun s x head c =>
  match c.take? with
  | some (body, _) => t.handle s x { head with body }
  | none           => (s, none, .none)

namespace App

variable {σ : Type} {serve : Serve σ} {s : σ} {g : Gateway} {a : App} {xs : List Gateway.Segment}
  {rs : Arrivals} {r head : Request} {c rest : Connection} {id fresh method : String} {h : Handle}
  {x : Session} {v : RawJson} {i : Mcp.RequestId}

-- What is done with a post over a session while its body is still on the connection.
def relay (serve : Serve σ) (g : Gateway) (s : σ) (h : Handle) (head : Request) (c : Connection) :
    Option (Gateway × σ × Answered) := do
  let (body, rest) ← c.take?
  match Mcp.decodeBody body with
  | .error e => some (g, s, .error (.unreadable e))
  | .ok v    =>
    match shortcut? head v, g.store.session? h with
    | some answer, _ => some (g, s, answer)
    | none, none     => some (g, s, answered serverError)
    | none, some x   =>
      match serve s x head (rest.putBack body) with
      | (s, response, .none)      => some (g.settle h, s, .ok response)
      | (s, response, .terminate) => some ((g.terminate h).settle h, s, .ok response)

theorem relay_of_error {e : Json.ReadError} (ha : r.Arrives head c rest) (hm : r.method = "POST")
    (hp : payload r = .error e) :
    relay serve g s h head c = some (g, s, .error (.unreadable e)) := by
  rw [payload, if_pos hm] at hp
  simp only [relay, ha.body, Option.bind_eq_bind, Option.bind_some, hp]

theorem relay_of_shortcut? {answer : Answered} (ha : r.Arrives head c rest)
    (hm : r.method = "POST") (hp : payload r = .ok v) (hs : shortcut? r v = some answer) :
    relay serve g s h head c = some (g, s, answer) := by
  rw [payload, if_pos hm] at hp
  rw [← ha.head] at hs
  have hs' : shortcut? head v = some answer := hs
  simp only [relay, ha.body, Option.bind_eq_bind, Option.bind_some, hp, hs']

-- The transport is handed the body that was read.
theorem relay_of_handed (ha : r.Arrives head c rest) (hm : r.method = "POST")
    (hp : payload r = .ok v) (hs : shortcut? r v = none) (hx : g.store.session? h = some x) :
    relay serve g s h head c =
      match serve s x head (rest.putBack r.body) with
      | (s, response, .none)      => some (g.settle h, s, .ok response)
      | (s, response, .terminate) => some ((g.terminate h).settle h, s, .ok response) := by
  rw [payload, if_pos hm] at hp
  rw [← ha.head] at hs
  have hs' : shortcut? head v = none := hs
  simp only [relay, ha.body, Option.bind_eq_bind, Option.bind_some, hp, hs', hx]

theorem serve_putBack {t : Transport} {u : Transport.Shared} (ha : r.Arrives head c rest) :
    t.serve u x head (rest.putBack r.body) = t.handle u x r := by
  simp only [Transport.serve, Connection.take?_putBack, ha.head]

-- The request is handled as if it came as a whole.
theorem relay_eq_handle (hs : a.gateway.store.Sound) (ha : a.Addresses r id h)
    (hr : r.Arrives head c rest) :
    relay a.transport.serve a.gateway a.shared h head c =
      some ((a.handle fresh r).1.gateway, (a.handle fresh r).1.shared, (a.handle fresh r).2) := by
  cases hp : payload r
  case error e => rw [relay_of_error hr ha.post hp, ha.handle_eq_multiplex, multiplex, hp]
  case ok v    =>
    obtain ⟨x, hx, _, _⟩ := hs.keyed ha.live
    rw [ha.handle_eq_resume hs hp]
    cases hc : shortcut? r v
    case some answer =>
      rw [relay_of_shortcut? hr ha.post hp hc]
      simp only [resume, hc]
    case none =>
      obtain ⟨response, ho⟩ :=
        Transport.handle_post (t := a.transport) (s := a.shared) (x := x) ha.post
      rw [relay_of_handed hr ha.post hp hc hx, serve_putBack hr, resume_of_post ha.post hc hx]
      rw [← Prod.eta (a.transport.handle a.shared x r), ho]

-- The post is answered if its id and its method can be encoded. The transport has no part in it.
structure InPlace (a : App) (r : Request) (h : Handle) (v : RawJson) (method : String)
    (i : Mcp.RequestId) : Prop where
  -- The id and the method are those of the request.
  request     : ¬Mcp.torn v → v.get? (.ofString "id") = some i.toJson.raw ∧
    v.get? (.ofString "method") = some (.string (.ofString method))
  answer      : ¬Mcp.torn v → ∀ fresh, a.handle fresh r = (a, answered (.json 200 none (.object [
    ("jsonrpc", .string "2.0"), ("id", i.toJson),
    ("error", .object [("code", .int (-32601)),
      ("message", .string ("Method not found: " ++ method))])])))
  unencodable : Mcp.torn v → ∀ fresh, a.handle fresh r = (a, .error .unencodable)
  reply       : ∀ fresh body, (a.handle fresh r).2 = answered (.json 200 none body) →
    Mcp.Message.classify body = .reply i
  unasked     : ∀ {σ : Type} (serve : Serve σ) fresh s head c rest, r.Arrives head c rest →
    relay serve.noted a.gateway (s, []) h head c =
      some (a.gateway, (s, []), (a.handle fresh r).2)

-- The transport is handed the post once, with its body yet to be read, and gives the answer.
structure PassedOn (a : App) (r : Request) (id : String) (h : Handle) (x : Session) : Prop where
  session : a.gateway.store.session? h = some x ∧ x.id = id
  handed  : ∀ {σ : Type} (serve : Serve σ) s head c rest, r.Arrives head c rest →
    ∃ g s' answer back, r.Arrives head back rest ∧
      relay serve.noted a.gateway (s, []) h head c = some (g, (s', [(x, head, back)]), answer)
  answer  : ∀ fresh, a.handle fresh r =
    ({ a with
        shared  := (a.transport.handle a.shared x r).1
        gateway := a.gateway.settle h }, .ok (a.transport.handle a.shared x r).2.1)
  -- It is none that is given in place.
  other   : ∀ fresh method i,
    (a.handle fresh r).2 ≠ answered (.json 200 none (Mcp.methodNotFound method i))

-- What becomes of a post over the session whose body holds the value.
structure Relayed (a : App) (r : Request) (id : String) (h : Handle) (v : RawJson) : Prop where
  -- It does not matter in which parts the body comes.
  whole    : ∀ fresh head c rest, r.Arrives head c rest →
    relay a.transport.serve a.gateway a.shared h head c =
      some ((a.handle fresh r).1.gateway, (a.handle fresh r).1.shared, (a.handle fresh r).2)
  inPlace  : ∀ method i, Mcp.Message.classify (Mcp.seen v) = .unsupported method i →
    InPlace a r h v method i
  passedOn : (∀ ms method i, v = .object ms →
    Mcp.Message.classify (Mcp.seen v) ≠ .unsupported method i) → ∃ x, PassedOn a r id h x

theorem inPlace (hs : a.gateway.store.Sound) (ha : a.Addresses r id h) (hp : payload r = .ok v)
    (hc : Mcp.Message.classify (Mcp.seen v) = .unsupported method i) :
    InPlace a r h v method i := by
  have hanswer : ∀ fresh, a.handle fresh r = (a, if Mcp.torn v then .error .unencodable
      else answered (.json 200 none (Mcp.methodNotFound method i))) :=
    fun _ => ha.handle_of_unsupported hs hp hc
  constructor
  case request =>
    intro ht
    obtain ⟨ms, _, hv, hm, hi⟩ := Mcp.Message.exists_calls_of_unsupported hc
    obtain ⟨htm, hti⟩ := Bool.or_eq_false_iff.mp (Bool.eq_false_iff.mpr ht)
    have hid : (Mcp.seen v).get? "id" = some i.toJson := hv ▸ hi
    have hmethod : (Mcp.seen v).get? "method" = some (Mcp.RequestId.text method).toJson :=
      hv ▸ hm.method
    exact ⟨Mcp.get?_eq_raw_of_seen hti hid, Mcp.get?_eq_raw_of_seen htm hmethod⟩
  case answer      => exact fun ht fresh => (hanswer fresh).trans (by rw [if_neg ht]; rfl)
  case unencodable => exact fun ht fresh => (hanswer fresh).trans (by rw [if_pos ht])
  case reply =>
    intro fresh body hb
    rw [hanswer] at hb
    split at hb <;> cases hb
    exact Mcp.Message.classify_methodNotFound
  case unasked =>
    intro _ serve fresh s head c rest hr
    rw [relay_of_shortcut? hr ha.post hp (shortcut?_of_unsupported ha.post hc), hanswer]

theorem passedOn (hs : a.gateway.store.Sound) (ha : a.Addresses r id h) (hp : payload r = .ok v)
    (hc : ∀ method i, Mcp.Message.classify (Mcp.seen v) ≠ .unsupported method i) :
    ∃ x, PassedOn a r id h x := by
  obtain ⟨x, hx, hi, _⟩ := hs.keyed ha.live
  have hsc := shortcut?_of_not_unsupported (r := r) hc
  have hanswer : ∀ fresh, a.handle fresh r =
      ({ a with
          shared  := (a.transport.handle a.shared x r).1
          gateway := a.gateway.settle h }, .ok (a.transport.handle a.shared x r).2.1) := by
    intro fresh
    rw [ha.handle_eq_resume hs hp, resume_of_post ha.post hsc hx]
  refine ⟨x, ⟨hx, hi⟩, ?handed, hanswer, ?other⟩
  case handed =>
    intro _ serve s head c rest hr
    rw [relay_of_handed hr ha.post hp hsc hx]
    rcases hh : serve s x head (rest.putBack r.body) with ⟨s', response, effect⟩
    have hn : serve.noted (s, []) x head (rest.putBack r.body) =
        ((s', [(x, head, rest.putBack r.body)]), response, effect) := by
      rw [Serve.noted, hh]
      rfl
    rw [hn]
    cases effect <;> exact ⟨_, _, _, _, ⟨hr.head, Connection.take?_putBack⟩, rfl⟩
  case other =>
    -- A transport's answer with this status would name the session.
    intro fresh method i he
    rw [hanswer] at he
    have hn := Transport.handle_names (Except.ok.inj he)
    have hl : 200 < 400 := by decide
    cases hn hl

-- Whatever has happened to sessions and been asked before.
theorem posts_relayed (hg : a.gateway = Gateway.stopped.after xs)
    (ha : (a.receive rs).Addresses r id h) (hp : payload r = .ok v) :
    Relayed (a.receive rs) r id h v := by
  have hn : (a.receive rs).gateway.store.Named := named_receive hg
  refine ⟨fun _ _ _ _ => relay_eq_handle hn.toSound ha,
    fun _ _ => inPlace hn.toSound ha hp, fun hc => passedOn hn.toSound ha hp ?_⟩
  intro method i hu
  obtain ⟨_, _, hv, _⟩ := Mcp.Message.exists_calls_of_unsupported hu
  obtain ⟨ms, hv⟩ := Mcp.exists_object_of_seen hv
  exact hc ms method i hv hu

theorem posts_relayed_busy :
    busyWorkshop.gateway = Gateway.stopped.after [.run, .insert "3e7a", .activate 0] ∧
      (busyWorkshop.receive []).Addresses (.intrusion "localhost" "logging/setLevel") "3e7a" 0 ∧
      ∃ v, payload (.intrusion "localhost" "logging/setLevel") = .ok v ∧
        Mcp.Message.classify (Mcp.seen v) = .unsupported "logging/setLevel" (.text "2") ∧
        Relayed (busyWorkshop.receive []) (.intrusion "localhost" "logging/setLevel") "3e7a" 0 v :=
  ⟨rfl, addresses_intrusion, _, payload_intrusion, classify_intrusion,
    posts_relayed rfl addresses_intrusion payload_intrusion⟩

end App

-- The method that is asked for is half a character.
def Request.torn : Request :=
  { Request.intrusion "localhost" "" with
    body := "\x7b\"jsonrpc\":\"2.0\",\"id\":1,\"method\":\"\\ud800\"\x7d".toUTF8 }

namespace App

theorem addresses_torn : (busyWorkshop.receive []).Addresses .torn "3e7a" 0 :=
  have ha : (busyWorkshop.receive []).Addresses (.intrusion "localhost" "") "3e7a" 0 :=
    addresses_intrusion
  ⟨ha.path, ha.post, ha.named, ha.id_ne, ha.live⟩

theorem exists_payload_torn :
    ∃ v method i, payload .torn = .ok v ∧
      Mcp.Message.classify (Mcp.seen v) = .unsupported method i ∧ Mcp.torn v := by
  have h : (payload .torn).toOption.any fun v =>
      (shortcut? .torn v).any fun answer => !answer.isOk := by
    decide +kernel
  obtain ⟨v, hv, hs⟩ := (Option.any_eq_true ..).mp h
  obtain ⟨answer, hs, hn⟩ := (Option.any_eq_true ..).mp hs
  have hp : payload .torn = .ok v := by
    cases hp : payload .torn <;> rw [hp] at hv <;> cases hv
    rfl
  cases (shortcut_of_eq_some hs).right
  case answered          => cases hn
  case unencodable hc ht => exact ⟨v, _, _, hp, hc, ht⟩

theorem torn_post_unanswered :
    ¬∀ (a : App) (xs : List Gateway.Segment) (rs : Arrivals) (r : Request)
      (id fresh method : String) (h : Handle) (v : RawJson) (i : Mcp.RequestId),
      a.gateway = Gateway.stopped.after xs → (a.receive rs).Addresses r id h →
        payload r = .ok v → Mcp.Message.classify (Mcp.seen v) = .unsupported method i →
          ∃ response, ((a.receive rs).handle fresh r).2 = answered response ∧
            response.status = 200 := by
  intro hc
  obtain ⟨v, method, i, hp, hu, ht⟩ := exists_payload_torn
  have hs : (busyWorkshop.receive []).gateway.store.Named := Gateway.named_stopped
  obtain ⟨response, ha, _⟩ :=
    hc busyWorkshop _ [] .torn "3e7a" "90b6" method 0 v i rfl addresses_torn hp hu
  rw [(inPlace hs.toSound addresses_torn hp hu).unencodable ht] at ha
  cases ha

end App
end ComponentCatalog.Http
