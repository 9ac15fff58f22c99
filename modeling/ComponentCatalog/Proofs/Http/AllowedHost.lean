import ComponentCatalog.Proofs.Http.Isolation
import ComponentCatalog.Proofs.Settings

namespace ComponentCatalog.Http

-- The status of a misdirected request.
theorem Refusal.status_eq_iff {e : Refusal} : e.status = 421 ↔ e = .host := by
  cases e <;> simp [status]

namespace Transport

variable {t : Transport} {s : Shared} {x : Session} {r : Request} {response : Response}
  {e : Refusal} {host id : String} {α β : Type} {u : Except Refusal α}
  {f : α → Except Refusal β}

theorem hostFits_of_mem (hh : r.header? "host" = some host) (hn : host ≠ "") (hm : host ∈ t.hosts) :
    t.hostFits r := by
  simp [hostFits, allows, hh, hn, hm]

-- Checks in a row do not mind the host if none of them does.
theorem bind_ne_host (hu : u ≠ .error .host) (hf : ∀ a, f a ≠ .error .host) :
    u >>= f ≠ .error .host := by
  cases u
  case error => exact fun h => hu <| congrArg _ (Except.error.inj h)
  case ok a  => exact hf a

theorem secure_ne_host (hf : t.hostFits r) : t.secure r ≠ .error .host := by
  unfold secure
  repeat' split
  all_goals simp_all

theorem checkVersion_ne_host : checkVersion r ≠ .error .host := by
  unfold checkVersion
  repeat' split
  all_goals simp

theorem checkAccept_ne_host : t.checkAccept r ≠ .error .host := by
  unfold checkAccept
  repeat' split
  all_goals simp

theorem checkMediaType_ne_host : checkMediaType r ≠ .error .host := by
  unfold checkMediaType
  dsimp only
  split <;> simp

theorem envelope?_ne_host : envelope? r ≠ .error .host := by
  unfold envelope?
  repeat' split
  all_goals simp

theorem post_ne_host : t.post r ≠ .error .host := by
  refine bind_ne_host checkAccept_ne_host fun _ => ?_
  refine bind_ne_host checkMediaType_ne_host fun _ => ?_
  refine bind_ne_host envelope?_ne_host fun e => ?_
  split
  case isTrue  => exact nofun
  case isFalse => exact bind_ne_host checkVersion_ne_host fun _ => nofun

theorem response_status_ne (he : e ≠ .host) : (e.response id).status ≠ 421 := by
  rw [Refusal.response_status]
  exact fun h => he (Refusal.status_eq_iff.mp h)

theorem handlePost_status_ne : (t.handlePost s id r).2.status ≠ 421 := by
  unfold handlePost
  split
  case h_1 e he =>
    refine response_status_ne ?_
    rintro rfl
    exact post_ne_host he
  case h_2 =>
    dsimp only [reply]
    split <;> exact (by decide : 200 ≠ 421)
  case h_3 => exact (by decide : 202 ≠ 421)

theorem handleGet_status_ne (h : handleGet id r = some response) : response.status ≠ 421 := by
  have hc : (do unless accepts r Response.streamType do throw .acceptsNoStream
                checkVersion r : Except Refusal Unit) ≠ .error .host := by
    split
    case isTrue  => exact checkVersion_ne_host
    case isFalse => exact nofun
  unfold handleGet at h
  dsimp only at h
  split at h
  case h_1 e he =>
    cases h
    refine response_status_ne ?_
    rintro rfl
    exact hc he
  case h_2 =>
    split at h <;> cases h
    exact (by decide : 200 ≠ 421)

theorem handleDelete_status_ne : (handleDelete id r).1.status ≠ 421 := by
  unfold handleDelete
  split
  case h_1 e he =>
    refine response_status_ne ?_
    rintro rfl
    exact checkVersion_ne_host he
  case h_2 => exact (by decide : 200 ≠ 421)

-- A transport answers nothing of the kind to a host that it allows.
theorem handle_status_ne (hf : t.hostFits r) (h : (t.handle s x r).2.1 = some response) :
    response.status ≠ 421 := by
  unfold handle at h
  split at h
  case h_1 e he =>
    cases h
    refine response_status_ne ?_
    rintro rfl
    exact secure_ne_host hf he
  case h_2 =>
    split at h
    case isTrue  => cases h; exact response_status_ne nofun
    case isFalse =>
      split at h
      case h_1 => cases h; exact handlePost_status_ne
      case h_2 => exact handleGet_status_ne h
      case h_3 => cases h; exact handleDelete_status_ne
      case h_4 => cases h; exact response_status_ne nofun

end Transport

open SessionStore

namespace App

variable {a b : App} {records : List Component} {fresh id host : String} {r : Request}
  {h k : Handle} {v : RawJson} {rs : Arrivals} {response : Response}

-- The host that a request is for. None is as good as a nameless one.
def hostOf (r : Request) : String :=
  (r.header? "host").getD ""

-- A post to the application's path that names no session and asks for a new one.
structure Asks (a : App) (r : Request) : Prop where
  path        : a.path.takes r.path
  post        : r.method = "POST"
  sessionless : Route.namesNoSession r.session?
  opening     : ∃ v, payload r = .ok v ∧ Mcp.isInitialize (Mcp.seen v)

theorem Asks.handle_eq (ha : a.Asks r) :
    a.handle fresh r =
      if hostAllowed a.transport.hosts (some (hostOf r)) then a.start fresh r
      else (a, answered (.plain 421 "Invalid Host header")) := by
  obtain ⟨v, hv, hi⟩ := ha.opening
  have hm : methods.contains r.method := by rw [ha.post]; decide
  rw [handle, if_pos ha.path, if_pos hm, multiplex_opening hv ha.post ha.sessionless hi, hostOf]

theorem hostAllowed_of_route_eq_start (hr : a.route r v = .start) :
    hostAllowed a.transport.hosts (some (hostOf r)) :=
  (Route.of_eq_start_iff.mp hr).2.2.2

theorem not_hostAllowed_of_route_eq_rejectHost {misled : Option String}
    (hr : a.route r v = .rejectHost misled) :
    ¬hostAllowed a.transport.hosts (some (hostOf r)) :=
  (Route.of_eq_rejectHost_iff.mp hr).2.2.2.1

-- A session is there after the request that was not there before.
def Creates (a : App) (fresh : String) (r : Request) : Prop :=
  ∃ h, a.gateway.store.session? h = none ∧ ((a.handle fresh r).1.gateway.store.session? h).isSome

theorem not_creates_of_next_eq
    (hn : (a.handle fresh r).1.gateway.store.next = a.gateway.store.next) : ¬a.Creates fresh r := by
  rintro ⟨h, hb, ha⟩
  obtain ⟨x, hx⟩ := Option.isSome_iff_exists.mp ha
  have hl : h < a.gateway.store.next := hn ▸ lt_next_of_session? hx
  exact absurd hl <| Nat.not_lt.mpr (List.getElem?_eq_none_iff.mp hb)

theorem next_resume (hs : a.gateway.store.Settled) (hm : (id, h) ∈ a.gateway.store.live) :
    (a.resume h r v).1.gateway.store.next = a.gateway.store.next := by
  rcases resume_gateway (r := r) (v := v) hs hm with hg | hg
  case inl => rw [hg]
  case inr => rw [hg]; exact List.length_modify _ _ _

theorem hostAllowed_of_creates (ha : a.Ready records) (hc : a.Creates fresh r) :
    hostAllowed a.transport.hosts (some (hostOf r)) := by
  have hm : a.handle fresh r = a.multiplex fresh r ∨ (a.handle fresh r).1 = a :=
    handle_eq_multiplex_or
  rcases hm with hh | hh
  case inr => exact absurd hc <| not_creates_of_next_eq (by rw [hh])
  case inl =>
    cases hp : payload r
    case error => exact absurd hc <| not_creates_of_next_eq (by rw [hh, multiplex, hp])
    case ok v  =>
      rw [multiplex_of_ok hp] at hh
      cases hr : a.route r v <;> rw [hr] at hh
      case start    => exact hostAllowed_of_route_eq_start hr
      case resume h =>
        obtain ⟨id, _, _, hm⟩ := (route_eq_resume_iff ha.settled.toSound).mp hr
        exact absurd hc <| not_creates_of_next_eq (by rw [hh]; exact next_resume ha.settled hm)
      all_goals exact absurd hc <| not_creates_of_next_eq (by rw [hh])

theorem resume_status_ne (hf : a.transport.hostFits r)
    (h : (a.resume k r v).2 = .ok (some response)) : response.status ≠ 421 := by
  rw [resume_answer] at h
  split at h
  case h_1 hs =>
    cases (shortcut_of_eq_some hs).2 <;> cases h
    exact (by decide : 200 ≠ 421)
  case h_2    => cases h; exact (by decide : 500 ≠ 421)
  case h_3    => exact Transport.handle_status_ne hf (Except.ok.inj h)

theorem start_status_ne (hf : a.transport.hostFits r)
    (h : (a.start fresh r).2 = .ok (some response)) : response.status ≠ 421 := by
  unfold start at h
  split at h
  case h_1 => cases h
  case h_2 => exact Transport.handle_status_ne hf (Except.ok.inj h)

theorem multiplex_status_ne (hf : a.transport.hostFits r)
    (hh : hostAllowed a.transport.hosts (some (hostOf r)))
    (h : (a.multiplex fresh r).2 = .ok (some response)) : response.status ≠ 421 := by
  cases hp : payload r
  case error => rw [multiplex, hp] at h; cases h
  case ok v  =>
    rw [multiplex_of_ok hp] at h
    cases hr : a.route r v <;> rw [hr] at h
    case resume k     => exact resume_status_ne hf h
    case start        => exact start_status_ne hf h
    case rejectHost   => exact absurd hh (not_hostAllowed_of_route_eq_rejectHost hr)
    case rejectPost   => cases h; exact (by decide : 400 ≠ 421)
    case rejectRequest => cases h; exact (by decide : 400 ≠ 421)

-- Whatever is asked for at an allowed host, the answer is not that the request is misdirected.
theorem handle_status_ne (hf : a.transport.hostFits r)
    (hh : hostAllowed a.transport.hosts (some (hostOf r)))
    (h : (a.handle fresh r).2 = .ok (some response)) : response.status ≠ 421 := by
  unfold handle at h
  repeat' split at h
  case isTrue.isTrue           => exact multiplex_status_ne hf hh h
  case isTrue.isFalse          => cases h; exact (by decide : 405 ≠ 421)
  case isFalse.isTrue          => cases h; exact (by decide : 307 ≠ 421)
  case isFalse.isFalse         => cases h; exact (by decide : 404 ≠ 421)

-- What the settings make of the hosts that requests are for.
structure GuardsHosts (settings : Settings) (a : App) : Prop where
  creates  : ∀ fresh r, a.Creates fresh r →
    ∃ host, r.header? "host" = some host ∧ settings.Allows host
  -- A session is asked for at another host, or at none.
  stray    : ∀ fresh r, a.Asks r → (∀ host, r.header? "host" = some host → ¬settings.Allows host) →
    a.handle fresh r = (a, answered (.plain 421 "Invalid Host header"))
  asked    : ∀ fresh r host, a.Asks r → r.header? "host" = some host → settings.Allows host →
    a.gateway.store.Unused fresh →
    ∃ response, (a.handle fresh r).2 = answered response ∧ response.status ≠ 421
  welcome  : ∀ fresh r host response, r.header? "host" = some host → settings.Allows host →
    (a.handle fresh r).2 = .ok (some response) → response.status ≠ 421

theorem guardsHosts {settings : Settings} (ha : a.Ready records)
    (hs : a.transport.hosts = settings.allowedHosts) (hn : settings.host ≠ "") :
    GuardsHosts settings a := by
  have hallowed : ∀ host, hostAllowed a.transport.hosts (some host) ↔ settings.Allows host := by
    intro host
    have hne : settings.allowedHosts ≠ [] :=
      List.ne_nil_of_mem (Settings.mem_allowedHosts_iff.mpr ⟨settings.host, by simp, .inl rfl⟩)
    rw [hs, ← Settings.mem_allowedHosts_iff]
    simp [hostAllowed, hne]
  have hwelcome : ∀ fresh r host response, r.header? "host" = some host → settings.Allows host →
      (a.handle fresh r).2 = .ok (some response) → response.status ≠ 421 := by
    intro fresh r host response hh hal hanswer
    have hf : a.transport.hostFits r :=
      Transport.hostFits_of_mem hh (Settings.ne_empty_of_allows hn hal)
        (hs ▸ Settings.mem_allowedHosts_iff.mpr hal)
    exact handle_status_ne hf ((hallowed _).mpr (by rwa [hostOf, hh])) hanswer
  constructor
  case welcome => exact hwelcome
  case creates =>
    intro fresh r hc
    have hal : settings.Allows (hostOf r) := (hallowed _).mp (hostAllowed_of_creates ha hc)
    cases hh : r.header? "host"
    case some host => exact ⟨host, rfl, by rwa [hostOf, hh] at hal⟩
    case none =>
      rw [hostOf, hh] at hal
      exact absurd rfl (Settings.ne_empty_of_allows hn hal)
  case stray =>
    intro fresh r hasks hh
    rw [hasks.handle_eq, if_neg]
    rw [hallowed]
    intro hal
    cases hr : r.header? "host"
    case some host => exact hh host hr (by rwa [hostOf, hr] at hal)
    case none =>
      rw [hostOf, hr] at hal
      exact absurd rfl (Settings.ne_empty_of_allows hn hal)
  case asked =>
    intro fresh r host hasks hh hal hu
    have hstart : a.handle fresh r = a.start fresh r := by
      rw [hasks.handle_eq, if_pos ((hallowed _).mpr (by rwa [hostOf, hh]))]
    obtain ⟨_, response, _, hs⟩ := start_of_unused ha.running hu hasks.post
    refine ⟨response, by rw [hstart, hs]; rfl, hwelcome fresh r host response hh hal ?_⟩
    rw [hstart, hs]

theorem hosts_guarded {settings : Settings} {cwd : List String} {env : Environment}
    {given : Option String} {port : Option Int} {projectRoot componentsDir : Option Path}
    {enabled : List Operation} {dir root : Path} {d : Disk}
    (he : Settings.ofEnvironment cwd env given port projectRoot componentsDir = .ok settings)
    (hc : create settings enabled (.cold (.standard dir root) d) = .ok b) (hr : b.run = .ok a) :
    (∀ s : Settings, s.allowedHosts.Nodup ∧ ∀ host, host ∈ s.allowedHosts ↔ s.Allows host) ∧
      GuardsHosts settings (a.receive rs) := by
  refine ⟨fun s => ⟨Settings.allowedHosts_nodup, fun _ => Settings.mem_allowedHosts_iff⟩, ?_⟩
  have ⟨records, ha⟩ : ∃ records, a.Ready records := (started_of_create hc hr).exists_ready
  have hs : (a.receive rs).transport.hosts = settings.allowedHosts := by
    rw [sameSetup_receive.transport, eq_of_create hc hr]
  exact guardsHosts ha.receive hs (Settings.host_ne_empty he)

-- A server for everyone on the machine that knows its name.
def workshopEnv : Environment :=
  [("HOST", "workshop"), ("PORT", "8080")]

def workshopSettings : Settings where
  host          := "workshop"
  port          := 8080
  path          := "/mcp"
  projectRoot   := ⟨.root, ["srv"]⟩
  componentsDir := some ⟨.root, ["srv", "src", "components"]⟩
  jsonResponse  := true

def workshop : App where
  path      := ⟨"/mcp", "/mcp".toList.map .inl⟩
  transport := ⟨workshopSettings.allowedHosts, workshopSettings.allowedOrigins, true⟩
  shared    := ⟨Operation.all, .cold (.standard ⟨.none, []⟩ ⟨.none, []⟩) ⟨.folder [], []⟩⟩
  gateway   := .stopped

theorem hosts_guarded_workshop :
    Settings.ofEnvironment ["srv"] workshopEnv none none none none = .ok workshopSettings ∧
      create workshopSettings Operation.all workshop.catalog = .ok workshop ∧
      workshop.run = .ok { workshop with gateway := ⟨.empty, true⟩ } ∧
      GuardsHosts workshopSettings
        (App.receive { workshop with gateway := ⟨.empty, true⟩ } Arrivals.visit) := by
  have he : Settings.ofEnvironment ["srv"] workshopEnv none none none none =
      .ok workshopSettings := by decide +kernel
  have hp : PathTemplate.ofString? workshopSettings.path = .ok workshop.path :=
    PathTemplate.ofString?_of_plain (by decide) (by decide)
  have hc : create workshopSettings Operation.all workshop.catalog = .ok workshop := by
    rw [create, hp]
    rfl
  have hr : workshop.run = .ok { workshop with gateway := ⟨.empty, true⟩ } := rfl
  exact ⟨he, hc, hr, (hosts_guarded he hc hr).2⟩

end App
end ComponentCatalog.Http
