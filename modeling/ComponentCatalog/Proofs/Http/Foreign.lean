import ComponentCatalog.Proofs.Http.AllowedHost
import ComponentCatalog.Proofs.Http.Answer
import ComponentCatalog.Proofs.Json.Print

namespace ComponentCatalog.Http

namespace Transport

variable {t : Transport} {s : Shared} {x : Session} {r : Request} {e : Refusal} {value : String}
  {allowed : List String}

-- The host of the request is not one of the list, or it names an origin that is not.
def Foreign (t : Transport) (r : Request) : Prop :=
  (∀ host, r.header? "host" = some host → host ∉ t.hosts) ∨
    ∃ origin, r.header? "origin" = some origin ∧ origin ∉ t.origins

-- No entry of the lists allows every port.
def FixesPorts (t : Transport) : Prop :=
  ∀ a ∈ t.hosts ++ t.origins, ¬":*".toList <:+ a.toList

theorem allows_iff_mem (ha : ∀ a ∈ allowed, ¬":*".toList <:+ a.toList) :
    allows allowed value ↔ value ∈ allowed := by
  have hn : (allowed.any fun a =>
      ":*".toList.isSuffixOf a.toList && a.toList.dropLast.isPrefixOf value.toList) = false := by
    rw [List.any_eq_false]
    intro a hm
    rw [Bool.and_eq_true, List.isSuffixOf_iff_suffix]
    exact fun h => ha a hm h.1
  rw [allows, hn, Bool.or_false, List.contains_iff_mem]

-- An empty origin counts as none.
theorem not_fits_of_foreign (hp : t.FixesPorts) (ho : r.header? "origin" ≠ some "")
    (hf : t.Foreign r) : ¬t.hostFits r ∨ ¬t.originFits r := by
  have hhosts : ∀ a ∈ t.hosts, ¬":*".toList <:+ a.toList := fun a hm => hp a (by simp [hm])
  have horigins : ∀ a ∈ t.origins, ¬":*".toList <:+ a.toList := fun a hm => hp a (by simp [hm])
  rcases hf with hf | ⟨origin, horigin, hn⟩
  case inl =>
    refine .inl fun h => ?_
    obtain ⟨host, hhost, hh⟩ := (Option.any_eq_true ..).mp h
    rw [Bool.and_eq_true] at hh
    exact hf host hhost ((allows_iff_mem hhosts).mp hh.2)
  case inr =>
    refine .inr fun h => ?_
    have hne : origin ≠ "" := fun he => ho (he ▸ horigin)
    simp [originFits, horigin, hne, allows_iff_mem horigins, hn] at h

theorem exists_secure_of_not_fits (hl : t.hosts ≠ []) (hf : ¬t.hostFits r ∨ ¬t.originFits r) :
    ∃ e : Refusal, e.isBare ∧ t.secure r = .error e := by
  unfold secure
  repeat' split
  case isTrue                => exact ⟨.contentType, rfl, rfl⟩
  case isFalse.isTrue h      => exact absurd (List.isEmpty_iff.mp h) hl
  case isFalse.isFalse.isTrue => exact ⟨.host, rfl, rfl⟩
  all_goals grind [Refusal.isBare]

theorem handle_of_secure (he : t.secure r = .error e) :
    t.handle s x r = (s, some (e.response x.id), .none) := by
  simp only [handle, he]

end Transport

namespace App

variable {a : App} {xs : List Gateway.Segment} {r : Request} {id fresh : String} {h : Handle}
  {v : RawJson} {x : Session} {rs : Arrivals}

-- A post to the application's path that names a live session.
structure Addresses (a : App) (r : Request) (id : String) (h : Handle) : Prop where
  path  : a.path.takes r.path
  post  : r.method = "POST"
  named : r.session? = some id
  id_ne : id ≠ ""
  live  : (id, h) ∈ a.gateway.store.live

theorem Addresses.handle_eq_multiplex (ha : a.Addresses r id h) :
    a.handle fresh r = a.multiplex fresh r := by
  have hm : methods.contains r.method := by rw [ha.post]; decide
  rw [handle, if_pos ha.path, if_pos hm]

theorem Addresses.handle_eq_resume (ha : a.Addresses r id h) (hs : a.gateway.store.Sound)
    (hp : payload r = .ok v) : a.handle fresh r = a.resume h r v := by
  have hr : a.route r v = .resume h :=
    (route_eq_resume_iff hs).mpr ⟨id, ha.named, ha.id_ne, ha.live⟩
  rw [ha.handle_eq_multiplex, multiplex_of_ok hp, hr]

theorem Addresses.handle_of_unsupported {method : String} {i : Mcp.RequestId}
    (ha : a.Addresses r id h) (hs : a.gateway.store.Sound) (hp : payload r = .ok v)
    (hc : Mcp.Message.classify (Mcp.seen v) = .unsupported method i) :
    a.handle fresh r = (a, if Mcp.torn v then .error .unencodable
      else answered (.json 200 none (Mcp.methodNotFound method i))) := by
  rw [ha.handle_eq_resume hs hp, resume, shortcut?_of_unsupported ha.post hc]

-- The session's transport handles the post, which cannot end it.
theorem resume_of_post (hm : r.method = "POST") (hs : shortcut? r v = none)
    (hx : a.gateway.store.session? h = some x) :
    a.resume h r v =
      ({ a with
          shared  := (a.transport.handle a.shared x r).1
          gateway := a.gateway.settle h }, .ok (a.transport.handle a.shared x r).2.1) := by
  obtain ⟨response, ho⟩ := Transport.handle_post (t := a.transport) (s := a.shared) (x := x) hm
  simp only [resume, hs, hx]
  rw [← Prod.eta (a.transport.handle a.shared x r), ho]

-- What a foreign post over the session gets.
structure MeetsForeign (a : App) (r : Request) (id : String) (h : Handle) : Prop where
  refused     : ∀ fresh v, payload r = .ok v →
    (∀ method i, Mcp.Message.classify (Mcp.seen v) ≠ .unsupported method i) →
    a.transport.FixesPorts → r.header? "origin" ≠ some "" →
    ∃ e : Refusal, e.isBare ∧ 400 ≤ (e.response id).status ∧ a.handle fresh r =
      ({ a with gateway := a.gateway.settle h }, answered (e.response id))
  unsupported : ∀ fresh v method i, payload r = .ok v →
    Mcp.Message.classify (Mcp.seen v) = .unsupported method i → ¬Mcp.torn v →
    a.handle fresh r = (a, answered (.json 200 none (Mcp.methodNotFound method i)))
  unencodable : ∀ fresh v method i, payload r = .ok v →
    Mcp.Message.classify (Mcp.seen v) = .unsupported method i → Mcp.torn v →
    a.handle fresh r = (a, .error .unencodable)
  unreadable  : ∀ fresh e, payload r = .error e → a.handle fresh r = (a, .error (.unreadable e))
  -- Not even then does anything change, unless the session's transport has ended anyway.
  unchanged   : ∀ fresh x, a.gateway.store.session? h = some x → x.terminated = false →
    a.transport.FixesPorts → r.header? "origin" ≠ some "" → (a.handle fresh r).1 = a

theorem meetsForeign (hs : a.gateway.store.Sound) (hl : a.transport.hosts ≠ [])
    (ha : a.Addresses r id h) (hf : a.transport.Foreign r) : MeetsForeign a r id h := by
  obtain ⟨x, hx, hid, _⟩ := hs.keyed ha.live
  have hrefused : ∀ fresh v, payload r = .ok v →
      (∀ method i, Mcp.Message.classify (Mcp.seen v) ≠ .unsupported method i) →
      a.transport.FixesPorts → r.header? "origin" ≠ some "" →
      ∃ e : Refusal, e.isBare ∧ 400 ≤ (e.response id).status ∧ a.handle fresh r =
        ({ a with gateway := a.gateway.settle h }, answered (e.response id)) := by
    intro fresh v hp hc hports ho
    obtain ⟨e, hb, he⟩ := Transport.exists_secure_of_not_fits hl
      (Transport.not_fits_of_foreign hports ho hf)
    refine ⟨e, hb, by rw [Refusal.response_status]; exact e.status_ge, ?_⟩
    rw [ha.handle_eq_resume hs hp, resume_of_post ha.post (shortcut?_of_not_unsupported hc) hx,
      Transport.handle_of_secure he, hid, answered]
  have hunreadable : ∀ fresh e, payload r = .error e →
      a.handle fresh r = (a, .error (.unreadable e)) := by
    intro fresh e hp
    rw [ha.handle_eq_multiplex, multiplex, hp]
  constructor
  case refused     => exact hrefused
  case unsupported =>
    intro fresh v method i hp hc ht
    rw [ha.handle_of_unsupported hs hp hc, if_neg ht]
  case unencodable =>
    intro fresh v method i hp hc ht
    rw [ha.handle_of_unsupported hs hp hc, if_pos ht]
  case unreadable  => exact hunreadable
  case unchanged =>
    intro fresh y hy ht hports ho
    cases hp : payload r
    case error e => rw [hunreadable fresh e hp]
    case ok v    =>
      by_cases hc : ∃ method i, Mcp.Message.classify (Mcp.seen v) = .unsupported method i
      case pos =>
        obtain ⟨method, i, hc⟩ := hc
        rw [ha.handle_of_unsupported hs hp hc]
      case neg =>
        push Not at hc
        obtain ⟨e, _, _, he⟩ := hrefused fresh v hp hc hports ho
        rw [he, Gateway.settle_of_active hy ht]

-- Requests take the gateway no other ways than starts and ends of sessions do.
theorem exists_resume_eq_after : ∃ ys, (a.resume h r v).1.gateway = a.gateway.after ys := by
  rw [resume]
  split
  case h_1 => exact ⟨[], rfl⟩
  case h_2 => exact ⟨[], rfl⟩
  case h_3 =>
    split
    case h_1 => exact ⟨[.settle h], rfl⟩
    case h_2 => exact ⟨[.terminate h, .settle h], rfl⟩

theorem exists_start_eq_after : ∃ ys, (a.start fresh r).1.gateway = a.gateway.after ys := by
  rw [start]
  split
  case h_1                => exact ⟨[], rfl⟩
  case h_2 gateway h hres =>
    have hi : a.gateway.step (.insert fresh) = gateway :=
      (Gateway.step_insert_of_ok (Gateway.reserve_eq_ok_iff.mp hres).2).1
    obtain ⟨ys, hys⟩ := Gateway.exists_conclude_eq_after (g := gateway) (h := h)
      (e := .completed ((a.transport.handle a.shared (.fresh fresh) r).2.1.map (·.status)))
    exact ⟨.insert fresh :: ys, hys.trans (by rw [← hi]; rfl)⟩

theorem exists_handle_eq_after : ∃ ys, (a.handle fresh r).1.gateway = a.gateway.after ys := by
  have hm : a.handle fresh r = a.multiplex fresh r ∨ (a.handle fresh r).1 = a :=
    handle_eq_multiplex_or
  rcases hm with hm | hm
  case inr => exact ⟨[], by rw [hm]; rfl⟩
  case inl =>
    rw [hm]
    cases hp : payload r
    case error => exact ⟨[], by rw [multiplex, hp]; rfl⟩
    case ok v  =>
      rw [multiplex_of_ok hp]
      cases a.route r v
      case resume h => exact exists_resume_eq_after
      case start    => exact exists_start_eq_after
      all_goals exact ⟨[], rfl⟩

theorem exists_receive_eq_after : ∃ ys, (a.receive rs).gateway = a.gateway.after ys := by
  induction rs generalizing a
  case nil          => exact ⟨[], rfl⟩
  case cons x rs hi =>
    have ⟨ys, hys⟩ : ∃ ys, (a.handle x.1 x.2).1.gateway = a.gateway.after ys :=
      exists_handle_eq_after
    have ⟨zs, hzs⟩ : ∃ zs, ((a.handle x.1 x.2).1.receive rs).gateway =
        (a.handle x.1 x.2).1.gateway.after zs := hi
    exact ⟨ys ++ zs, by rw [Gateway.after_append, ← hys, ← hzs]; rfl⟩

theorem named_receive (hg : a.gateway = Gateway.stopped.after xs) :
    (a.receive rs).gateway.store.Named := by
  have ⟨ys, hys⟩ : ∃ ys, (a.receive rs).gateway = a.gateway.after ys := exists_receive_eq_after
  rw [hys, hg, ← Gateway.after_append]
  exact Gateway.named_stopped

-- Starts and ends of sessions may have come in any order before, and then any requests.
theorem foreign_posts_met (hg : a.gateway = Gateway.stopped.after xs) (hl : a.transport.hosts ≠ [])
    (ha : (a.receive rs).Addresses r id h) (hf : a.transport.Foreign r) :
    MeetsForeign (a.receive rs) r id h := by
  have ⟨ys, hys⟩ : ∃ ys, (a.receive rs).gateway = a.gateway.after ys := exists_receive_eq_after
  have hn : (a.receive rs).gateway.store.Named := by
    rw [hys, hg, ← Gateway.after_append]
    exact Gateway.named_stopped
  have ht : (a.receive rs).transport = a.transport := sameSetup_receive.transport
  exact meetsForeign hn.toSound (ht.symm ▸ hl) ha (ht.symm ▸ hf)

end App

-- A page on the host asks over a session that somebody else has opened.
def Request.intrusion (host method : String) : Request where
  server  := "http://localhost"
  method  := "POST"
  path    := "/mcp"
  query   := ""
  headers := [("host", host), ("content-type", "application/json"),
    ("accept", "application/json"), ("mcp-session-id", "3e7a")]
  body    := (Json.render .compact (.object [("jsonrpc", .string "2.0"), ("id", .string "2"),
    ("method", .string method)])).toUTF8

namespace App

-- The workshop's server with one open session.
def busyWorkshop : App :=
  { workshop with gateway := Gateway.stopped.after [.run, .insert "3e7a", .activate 0] }

theorem addresses_intrusion {host method : String} :
    (busyWorkshop.receive []).Addresses (.intrusion host method) "3e7a" 0 where
  path  := by
    have hp : workshop.path.takes "/mcp" := by decide
    exact hp
  post  := rfl
  named := rfl
  id_ne := by decide
  live  := List.mem_singleton.mpr rfl

theorem foreign_intrusion {method : String} :
    busyWorkshop.transport.Foreign (.intrusion "stranger.example" method) := by
  refine .inl fun host hh => ?_
  obtain rfl : "stranger.example" = host := Option.some.inj hh
  decide +kernel

theorem foreign_posts_met_busy :
    busyWorkshop.gateway = Gateway.stopped.after [.run, .insert "3e7a", .activate 0] ∧
      busyWorkshop.transport.hosts ≠ [] ∧
      (busyWorkshop.receive []).Addresses (.intrusion "stranger.example" "tools/list") "3e7a" 0 ∧
      busyWorkshop.transport.Foreign (.intrusion "stranger.example" "tools/list") ∧
      MeetsForeign (busyWorkshop.receive [])
        (.intrusion "stranger.example" "tools/list") "3e7a" 0 := by
  have hl : busyWorkshop.transport.hosts ≠ [] := by decide +kernel
  exact ⟨rfl, hl, addresses_intrusion, foreign_intrusion,
    foreign_posts_met rfl hl addresses_intrusion foreign_intrusion⟩

theorem payload_intrusion {host method : String} :
    payload (.intrusion host method) = .ok (JsonOf.raw (.object [("jsonrpc", .string "2.0"),
      ("id", .string "2"), ("method", .string method)])) := by
  have hp : Json.Plain 1 (.object [("jsonrpc", .string "2.0"), ("id", .string "2"),
      ("method", .string method)]) := by
    refine .object (by simp) ?_
    simp only [List.forall_mem_cons]
    exact ⟨.string, .string, .string, by simp⟩
  refine payload_of_readBytes rfl ?_
  simp only [Request.intrusion]
  exact Json.readBytes_render hp (by decide)

theorem classify_intrusion :
    Mcp.Message.classify (Mcp.seen (JsonOf.raw (.object [("jsonrpc", .string "2.0"),
      ("id", .string "2"), ("method", .string "logging/setLevel")]))) =
      .unsupported "logging/setLevel" (.text "2") := by
  rw [Mcp.seen_raw]
  rfl

-- A method that no session handles is asked for.
theorem foreign_post_answered :
    ¬∀ (a : App) (xs : List Gateway.Segment) (r : Request) (id fresh : String) (h : Handle)
      (response : Response), a.gateway = Gateway.stopped.after xs → a.transport.hosts ≠ [] →
        a.Addresses r id h → a.transport.Foreign r →
          (a.handle fresh r).2 = answered response →
            ¬(200 ≤ response.status ∧ response.status < 300) := by
  intro hc
  have hl : busyWorkshop.transport.hosts ≠ [] := by decide +kernel
  have hs : busyWorkshop.gateway.store.Named := Gateway.named_stopped
  have hm : MeetsForeign busyWorkshop (.intrusion "stranger.example" "logging/setLevel") "3e7a" 0 :=
    meetsForeign hs.toSound hl addresses_intrusion foreign_intrusion
  have hu := hm.unsupported "90b6" _ "logging/setLevel" (.text "2") payload_intrusion
    classify_intrusion (by simp [Mcp.torn_raw])
  exact hc busyWorkshop _ _ "3e7a" "90b6" 0 _ rfl hl addresses_intrusion foreign_intrusion
    (congrArg Prod.snd hu) (by decide)

end App
end ComponentCatalog.Http
