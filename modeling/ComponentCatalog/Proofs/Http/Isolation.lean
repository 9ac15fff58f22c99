import ComponentCatalog.Proofs.Http.Opening
import ComponentCatalog.Proofs.Http.Renaming
import ComponentCatalog.Proofs.Http.Setup

namespace ComponentCatalog.Http

open SessionStore

namespace Request

def carries (id : String) (r : Request) : Bool :=
  r.session? = some id

end Request

namespace App

def receive (a : App) (rs : Arrivals) : App :=
  rs.foldl (fun a x => (a.handle x.1 x.2).1) a

def answers (a : App) : Arrivals → List Answered
  | []      => []
  | x :: rs => (a.handle x.1 x.2).2 :: (a.handle x.1 x.2).1.answers rs

-- The answers to the requests that carry the id, while the others are handled as well.
def answersTo (a : App) (id : String) : Arrivals → List Answered
  | []      => []
  | x :: rs =>
    let (next, answer) := a.handle x.1 x.2
    if x.2.carries id then answer :: next.answersTo id rs else next.answersTo id rs

def Answered.rename (id id' : String) (answer : Answered) : Answered :=
  answer.map (·.map (·.rename id id'))

variable {a b : App} {records : List Component} {id id' fresh fresh' : String} {r r' : Request}
  {h h' : Handle} {v : RawJson}

-- Between two requests.
structure Ready (records : List Component) (a : App) : Prop where
  running : a.gateway.running
  settled : a.gateway.store.Settled
  steady  : a.catalog.Steady records

theorem steady_resume (hs : a.catalog.Steady records) :
    (a.resume h r v).1.catalog.Steady records := by
  unfold resume
  split
  case h_1 => exact hs
  case h_2 => exact hs
  case h_3 x _ _ =>
    have hh : (a.transport.handle a.shared x r).1.catalog.Steady records :=
      Transport.steady_handle hs
    split
    case h_1 he => rw [he] at hh; exact hh
    case h_2 he => rw [he] at hh; exact hh

theorem steady_start (hs : a.catalog.Steady records) :
    (a.start fresh r).1.catalog.Steady records := by
  unfold start
  split
  case h_1 => exact hs
  case h_2 => exact Transport.steady_handle hs

theorem steady_multiplex (hs : a.catalog.Steady records) :
    (a.multiplex fresh r).1.catalog.Steady records := by
  cases hp : payload r
  case error => rw [multiplex, hp]; exact hs
  case ok v  =>
    rw [multiplex_of_ok hp]
    cases a.route r v
    case resume h => exact steady_resume hs
    case start    => exact steady_start hs
    all_goals exact hs

-- A request for another path, or with another method, is none for the sessions.
theorem handle_eq_multiplex_or :
    a.handle fresh r = a.multiplex fresh r ∨ (a.handle fresh r).1 = a := by
  unfold handle
  repeat' split
  case isTrue.isTrue => exact .inl rfl
  all_goals exact .inr rfl

theorem Ready.handle (ha : a.Ready records) : (a.handle fresh r).1.Ready records := by
  rcases handle_eq_multiplex_or with h | h
  case inr => exact h ▸ ha
  case inl =>
    rw [h]
    let e : Exchange := ⟨a, fresh, r⟩
    have hs : e.Steps := Exchange.steps ha.settled ha.running
    have hn : e.next.gateway.store.Settled := Exchange.settled_next ha.settled ha.running
    exact ⟨hs.running.trans ha.running, hn, steady_multiplex ha.steady⟩

end App

namespace Exchange

variable {e : Exchange} {id : String}

theorem HandsOut.unused (ho : e.HandsOut id) (hs : e.store.Settled) (hr : e.app.gateway.running) :
    e.fresh = id ∧ e.store.Unused id := by
  have he := (steps hs hr).effect
  generalize e.next.gateway.store = s at he
  cases he
  case enrolls hu hh      => exact ⟨hh.unique ho, hh.unique ho ▸ hu⟩
  case stays hn           => exact absurd ho (hn id)
  case turnsAway hn       => exact absurd ho (hn id)
  case retires hn         => exact absurd ho (hn id)

theorem used_next (hs : e.store.Settled) (hr : e.app.gateway.running) (hu : ¬e.store.Unused id) :
    ¬e.next.gateway.store.Unused id := by
  have he := (steps hs hr).effect
  generalize e.next.gateway.store = s at he
  cases he
  case stays      => exact hu
  case enrolls    => simp_all [Unused]
  case turnsAway  => simp_all [Unused]
  case retires    => simp_all [Unused]; grind

end Exchange

namespace App

variable {a b : App} {records : List Component} {id id' fresh fresh' : String} {r r' : Request}

theorem used_handle (ha : a.Ready records) (hu : ¬a.gateway.store.Unused id) :
    ¬(a.handle fresh r).1.gateway.store.Unused id := by
  rcases handle_eq_multiplex_or with h | h
  case inr => rw [h]; exact hu
  case inl =>
    have hn : ¬(Exchange.next ⟨a, fresh, r⟩).gateway.store.Unused id :=
      Exchange.used_next ha.settled ha.running hu
    rw [h]
    exact hn

-- A request that does not carry the id of a session leaves the session as it is.
theorem live_handle (ha : a.Ready records) (hu : ¬a.gateway.store.Unused id)
    (hr : r.carries id = false) :
    id ∈ (a.handle fresh r).1.gateway.store.ids ↔ id ∈ a.gateway.store.ids := by
  rcases handle_eq_multiplex_or with h | h
  case inr => rw [h]
  case inl =>
    let e : Exchange := ⟨a, fresh, r⟩
    have ho : ¬e.HandsOut id := fun ho => hu (ho.unused ha.settled ha.running).2
    have he : ¬e.Ends id := fun he => of_decide_eq_false hr he.named
    have hm : id ∈ e.next.gateway.store.ids ↔ e.HandsOut id ∨ id ∈ e.store.ids ∧ ¬e.Ends id :=
      Exchange.mem_ids_next_iff ha.settled ha.running
    rw [h]
    refine hm.trans ?_
    simp only [ho, he, false_or, not_false_eq_true, and_true, e]

-- Two runs in which a session stands alike, under the id `id` in the one and `id'` in the other.
structure Paired (records : List Component) (id id' : String) (a b : App) : Prop where
  left   : a.Ready records
  right  : b.Ready records
  setup  : SameSetup a b
  used   : ¬a.gateway.store.Unused id
  live   : id ∈ a.gateway.store.ids ↔ id' ∈ b.gateway.store.ids

theorem Paired.shared (hp : Paired records id id' a b) :
    Transport.Shared.Alike records a.shared b.shared :=
  ⟨hp.setup.enabled, hp.left.steady, hp.right.steady⟩

theorem Paired.other (hp : Paired records id id' a b) (hr : r.carries id = false) :
    Paired records id id' (a.handle fresh r).1 b :=
  ⟨hp.left.handle, hp.right, sameSetup_handle.trans hp.setup, used_handle hp.left hp.used,
    (live_handle hp.left hp.used hr).trans hp.live⟩

theorem payload_alike (hr : r.Alike r') : payload r = payload r' := by
  simp only [payload, hr.method, hr.body]

theorem shortcut?_alike (hr : r.Alike r') : shortcut? r v = shortcut? r' v := by
  simp only [shortcut?, hr.method]

theorem redirect_alike (hr : r.Alike r') : redirect r = redirect r' := by
  have hh := hr.headers "host" (by decide)
  simp only [redirect, Location.ofRequest, Location.host, hh, hr.server, hr.query, hr.path]

theorem rename_of_session_none {response : Response} (h : response.session = none) :
    response.rename id id' = response := by
  cases response
  simp_all [Response.rename]

theorem answered_alike {response : Response} (h : response.session = none) :
    (answered response).rename id id' = answered response :=
  congrArg answered (rename_of_session_none h)

-- What a shortcut answers names no session.
theorem rename_shortcut? {answer : Answered} (h : shortcut? r v = some answer) :
    answer.rename id id' = answer := by
  cases (shortcut_of_eq_some h).2
  case answered    => exact answered_alike rfl
  case unencodable => rfl

-- What is left of the store after the transport of a live session has handled a request.
def storeAfter (a : App) (id : String) (h : Handle) : Transport.Effect → SessionStore
  | .none      => a.gateway.store
  | .terminate => a.gateway.store.retire id h

theorem resume_eq {x : Session} {shared : Transport.Shared} {response : Option Response}
    {effect : Transport.Effect} (ha : a.gateway.store.Settled)
    (hm : (id, h) ∈ a.gateway.store.live) (hx : a.gateway.store.session? h = some x)
    (hs : shortcut? r v = none)
    (hh : a.transport.handle a.shared x r = (shared, response, effect)) :
    a.resume h r v =
      ({ a with shared, gateway := { a.gateway with store := a.storeAfter id h effect } },
        .ok response) := by
  have ⟨y, hy, _, _, ht⟩ := ha.active hm
  simp only [resume, hs, hx, hh]
  cases effect
  case none      => simp only [Gateway.settle_of_active hy ht, storeAfter]
  case terminate => simp only [Gateway.settle_terminate ha.toSound hm, storeAfter]

theorem mem_ids_storeAfter {effect : Transport.Effect} (hm : (id, h) ∈ a.gateway.store.live) :
    id ∈ (a.storeAfter id h effect).ids ↔ effect = .none := by
  cases effect
  case none      => simpa [storeAfter] using mem_ids_iff.mpr ⟨h, hm⟩
  case terminate => simp [storeAfter]

theorem Paired.resume (hp : Paired records id id' a b) (hr : r.Alike r')
    (hm : (id, h) ∈ a.gateway.store.live) (hm' : (id', h') ∈ b.gateway.store.live) :
    (b.resume h' r' v).2 = (a.resume h r v).2.rename id id' ∧
      (id ∈ (a.resume h r v).1.gateway.store.ids ↔
        id' ∈ (b.resume h' r' v).1.gateway.store.ids) := by
  obtain ⟨x, hx, hi, _, ht⟩ := hp.left.settled.active hm
  obtain ⟨x', hx', hi', _, ht'⟩ := hp.right.settled.active hm'
  cases hs : shortcut? r v
  case some answer =>
    have hs' : shortcut? r' v = some answer := shortcut?_alike hr ▸ hs
    have hn : answer.rename id id' = answer := rename_shortcut? hs
    simp only [App.resume, hs, hs', hn, hp.live, and_self]
  case none =>
    have hs' : shortcut? r' v = none := shortcut?_alike hr ▸ hs
    obtain ⟨u, u', response, effect, hh, hh', _⟩ :=
      a.transport.handle_alike hr hp.shared (ht.trans ht'.symm)
    rw [hp.setup.transport, hi, hi'] at hh'
    rw [resume_eq hp.left.settled hm hx hs hh, resume_eq hp.right.settled hm' hx' hs' hh']
    exact ⟨rfl, (mem_ids_storeAfter hm).trans (mem_ids_storeAfter hm').symm⟩

theorem multiplex_live (ha : a.gateway.store.Settled) (hi : id ≠ "") (hc : r.session? = some id)
    (hm : (id, h) ∈ a.gateway.store.live) (hv : payload r = .ok v) :
    a.multiplex fresh r = a.resume h r v := by
  have hr : a.route r v = .resume h := (route_eq_resume_iff ha.toSound).mpr ⟨id, hc, hi, hm⟩
  rw [multiplex_of_ok hv, hr]

-- The answer to a request that names a session which is not live.
def refusal (r : Request) : Response :=
  if r.method ≠ "POST" then .plain 400 "Invalid or missing session ID"
  else .json 400 none Mcp.badSession

theorem multiplex_not_live (ha : a.gateway.store.Settled) (hi : id ≠ "")
    (hc : r.session? = some id) (hm : id ∉ a.gateway.store.ids) (hv : payload r = .ok v) :
    a.multiplex fresh r = (a, answered (refusal r)) := by
  have hg : a.gateway.store.get? r.session? = none := by
    refine ha.get?_eq_none_iff.mpr fun i hs _ => ?_
    cases hc.symm.trans hs
    exact hm
  have hn : Route.namesNoSession r.session? = false := by simp [Route.namesNoSession, hc, hi]
  rw [multiplex_of_ok hv, App.route, Route.of_eq_of_none hg, hn, refusal]
  by_cases hp : r.method = "POST" <;> simp [hp]

theorem Paired.multiplex (hp : Paired records id id' a b) (hi : id ≠ "") (hi' : id' ≠ "")
    (hr : r.Alike r') (hc : r.session? = some id) (hc' : r'.session? = some id') :
    (b.multiplex fresh' r').2 = (a.multiplex fresh r).2.rename id id' ∧
      (id ∈ (a.multiplex fresh r).1.gateway.store.ids ↔
        id' ∈ (b.multiplex fresh' r').1.gateway.store.ids) := by
  cases hv : payload r
  case error e =>
    have hv' : payload r' = .error e := payload_alike hr ▸ hv
    simp only [App.multiplex, hv, hv']
    exact ⟨rfl, hp.live⟩
  case ok v    =>
    have hv' : payload r' = .ok v := payload_alike hr ▸ hv
    by_cases hl : id ∈ a.gateway.store.ids
    case pos =>
      obtain ⟨h, hm⟩ := mem_ids_iff.mp hl
      obtain ⟨h', hm'⟩ := mem_ids_iff.mp (hp.live.mp hl)
      rw [multiplex_live hp.left.settled hi hc hm hv,
        multiplex_live hp.right.settled hi' hc' hm' hv']
      exact hp.resume hr hm hm'
    case neg =>
      have hl' : id' ∉ b.gateway.store.ids := fun hm => hl (hp.live.mpr hm)
      have hrefusal : (refusal r).rename id id' = refusal r' := by
        rw [rename_of_session_none (by rw [refusal]; split <;> rfl), refusal, refusal, hr.method]
      rw [multiplex_not_live hp.left.settled hi hc hl hv,
        multiplex_not_live hp.right.settled hi' hc' hl' hv']
      exact ⟨congrArg answered hrefusal.symm, hp.live⟩

theorem Paired.handle (fresh fresh' : String) (hp : Paired records id id' a b) (hi : id ≠ "")
    (hi' : id' ≠ "") (hr : r.Alike r') (hc : r.session? = some id)
    (hc' : r'.session? = some id') :
    (b.handle fresh' r').2 = (a.handle fresh r).2.rename id id' ∧
      (id ∈ (a.handle fresh r).1.gateway.store.ids ↔
        id' ∈ (b.handle fresh' r').1.gateway.store.ids) := by
  simp only [App.handle, hp.setup.path, hr.path, hr.method, redirect_alike hr]
  split
  case isTrue =>
    split
    case isTrue  => exact hp.multiplex hi hi' hr hc hc'
    case isFalse => exact ⟨(answered_alike rfl).symm, hp.live⟩
  case isFalse =>
    split
    case isTrue  => exact ⟨(answered_alike rfl).symm, hp.live⟩
    case isFalse => exact ⟨(answered_alike rfl).symm, hp.live⟩

-- The two runs stay alike when each handles the session's next request.
theorem Paired.own (fresh fresh' : String) (hp : Paired records id id' a b) (hi : id ≠ "")
    (hi' : id' ≠ "") (hr : r.Alike r') (hc : r.session? = some id)
    (hc' : r'.session? = some id') :
    (b.handle fresh' r').2 = (a.handle fresh r).2.rename id id' ∧
      Paired records id id' (a.handle fresh r).1 (b.handle fresh' r').1 := by
  have ⟨ha, hl⟩ := hp.handle fresh fresh' hi hi' hr hc hc'
  refine ⟨ha, hp.left.handle, hp.right.handle, ?_, used_handle hp.left hp.used, hl⟩
  exact (sameSetup_handle.trans hp.setup).trans sameSetup_handle.symm

-- A request of the one run is what a request of the other is, but for the session's name.
structure Readdressed (id' : String) (x x' : String × Request) : Prop where
  alike   : x.2.Alike x'.2
  session : x'.2.session? = some id'

theorem Paired.answers {rs solo : Arrivals} (hp : Paired records id id' a b) (hi : id ≠ "")
    (hi' : id' ≠ "") (hs : List.Forall₂ (Readdressed id') (rs.filter (·.2.carries id)) solo) :
    b.answers solo = (a.answersTo id rs).map (·.rename id id') := by
  induction rs generalizing a b solo
  case nil =>
    cases hs
    rfl
  case cons x rs hr =>
    cases hx : x.2.carries id
    case false =>
      rw [List.filter_cons_of_neg (by simp [hx])] at hs
      simp only [answersTo, hx]
      exact hr (hp.other hx) hs
    case true =>
      rw [List.filter_cons_of_pos (by simp [hx])] at hs
      cases hs
      case cons x' solo hh ht =>
        have ⟨ha, hn⟩ := hp.own x.1 x'.1 hi hi' hh.alike (of_decide_eq_true hx) hh.session
        simp only [answersTo, hx, if_true, App.answers, List.map_cons, ha, hr hn ht]

-- A request for the application's path that opens a session, whose id its answer tells.
structure Opens (a : App) (x : String × Request) (id : String) : Prop where
  path     : a.path.takes x.2.path
  handsOut : Exchange.HandsOut ⟨a, x.1, x.2⟩ id

theorem Opens.handle_eq (ho : Opens a (fresh, r) id) (hs : SameSetup a b) :
    b.handle fresh' r = b.multiplex fresh' r := by
  have hpost : r.method = "POST" := ho.handsOut.post
  have hm : methods.contains r.method := by rw [hpost]; decide
  rw [App.handle, if_pos (hs.path ▸ ho.path), if_pos hm]

-- Every application of the same setup starts a session for the request.
theorem Opens.multiplex_eq (ho : Opens a (fresh, r) id) (hs : SameSetup a b) :
    b.multiplex fresh' r = b.start fresh' r := by
  obtain ⟨v, hv, hi⟩ := ho.handsOut.opening
  have hn : Route.namesNoSession r.session? := ho.handsOut.sessionless
  have hpost : r.method = "POST" := ho.handsOut.post
  have hh : hostAllowed a.transport.hosts (some ((r.header? "host").getD "")) := by
    by_contra hh
    obtain ⟨response, ha, hl, _⟩ := ho.handsOut.answered
    rw [Exchange.answer, multiplex_opening hv hpost hn hi, if_neg hh] at ha
    cases ha
    exact absurd hl (by decide)
  rw [multiplex_opening hv hpost hn hi, if_pos (hs.transport ▸ hh)]

theorem Opens.paired (ho : Opens a (fresh, r) id) (ha : a.Ready records) (hb : b.Ready records)
    (hs : SameSetup a b) (hu' : b.gateway.store.Unused id') :
    (b.handle id' r).2 = (a.handle fresh r).2.rename id id' ∧
      Paired records id id' (a.handle fresh r).1 (b.handle id' r).1 := by
  have ⟨hf, hu⟩ := ho.handsOut.unused ha.settled ha.running
  dsimp only at hf
  subst hf
  have hpost : r.method = "POST" := ho.handsOut.post
  have ⟨shared, response, hh, hstart⟩ := start_of_unused ha.running hu hpost
  have ⟨shared', response', hh', hstart'⟩ := start_of_unused hb.running hu' hpost
  have hrename : response' = response.rename fresh id' := by
    have hshared : Transport.Shared.Alike records a.shared b.shared :=
      ⟨hs.enabled, ha.steady, hb.steady⟩
    have ⟨_, _, _, _, h, h', _⟩ : ∃ u u' answer effect,
        a.transport.handle a.shared (.fresh fresh) r = (u, answer, effect) ∧
        a.transport.handle b.shared (.fresh id') r =
          (u', answer.map (·.rename fresh id'), effect) ∧
        Transport.Shared.Alike records u u' := a.transport.handle_alike .refl hshared rfl
    cases hh.symm.trans h
    rw [hs.transport] at h'
    cases hh'.symm.trans h'
    rfl
  have hl : response.status < 400 := by
    have ⟨other, ha, hl, _⟩ := ho.handsOut.answered
    rw [Exchange.answer, ho.multiplex_eq .refl, hstart] at ha
    cases ha
    exact hl
  have hl' : response'.status < 400 := hrename ▸ hl
  rw [← ho.multiplex_eq .refl, ← ho.handle_eq .refl, if_pos hl] at hstart
  rw [← ho.multiplex_eq hs, ← ho.handle_eq hs, if_pos hl'] at hstart'
  refine ⟨by rw [hstart, hstart', hrename]; rfl, ha.handle, hb.handle, ?_, ?_, ?_⟩
  case refine_1 => exact (sameSetup_handle.trans hs).trans sameSetup_handle.symm
  case refine_2 => simp [hstart, Unused]
  case refine_3 => simp [hstart, hstart']

-- An application that has just been started over some files.
structure Started (dir root : Path) (d : Disk) (a : App) : Prop where
  gateway : Gateway.stopped.run = .ok a.gateway
  catalog : a.catalog = .cold (.standard dir root) d

theorem started_of_create {dir root : Path} {d : Disk} {settings : Settings}
    {enabled : List Operation} (hc : create settings enabled (.cold (.standard dir root) d) = .ok a)
    (hr : a.run = .ok b) : Started dir root d b := by
  rw [eq_of_create hc hr]
  exact ⟨rfl, rfl⟩

theorem Started.gateway_eq {dir root : Path} {d : Disk} (hs : Started dir root d a) :
    a.gateway = ⟨.empty, true⟩ :=
  (Except.ok.inj hs.gateway).symm

theorem Started.exists_ready {dir root : Path} {d : Disk} (hs : Started dir root d a) :
    ∃ records, a.Ready records := by
  have ⟨records, hr⟩ := Catalog.exists_steady_cold dir root d
  exact ⟨records, by rw [hs.gateway_eq], by rw [hs.gateway_eq]; exact .empty, hs.catalog ▸ hr⟩

theorem Ready.receive {rs : Arrivals} (ha : a.Ready records) : (a.receive rs).Ready records := by
  induction rs generalizing a
  case nil          => exact ha
  case cons x rs hi => exact hi ha.handle

theorem sameSetup_receive {rs : Arrivals} : SameSetup (a.receive rs) a := by
  induction rs generalizing a
  case nil          => exact .refl
  case cons x rs hi => exact hi.trans sameSetup_handle

theorem sessions_isolated {dir root : Path} {d : Disk} {before after solo : Arrivals}
    (hs : Started dir root d a) (ho : (a.receive before).Opens (fresh, r) id) (hi : id ≠ "")
    (hi' : id' ≠ "") (hsolo : List.Forall₂ (Readdressed id') (after.filter (·.2.carries id)) solo) :
    a.answers ((id', r) :: solo) =
      (((a.receive before).handle fresh r).2 ::
        ((a.receive before).handle fresh r).1.answersTo id after).map (·.rename id id') := by
  obtain ⟨records, ha⟩ := hs.exists_ready
  have hu : a.gateway.store.Unused id' := by
    simp [hs.gateway_eq, Unused, ids, SessionStore.empty]
  obtain ⟨hanswer, hp⟩ := ho.paired ha.receive ha sameSetup_receive hu
  rw [App.answers, List.map_cons, hanswer, hp.answers hi hi' hsolo]

-- Somebody asks for a session that never was.
abbrev knocked : App :=
  untouched.receive [("81d0", .deletion "c5f2")]

-- Somebody else opens a session, and the first one ends.
def Arrivals.crowd : Arrivals :=
  [("90b6", .opening), ("a1f4", .deletion "3e7a")]

theorem started_untouched : Started ⟨.none, []⟩ ⟨.none, []⟩ ⟨.folder [], []⟩ untouched :=
  ⟨rfl, rfl⟩

theorem opens_knocked : knocked.Opens ("3e7a", .opening) "3e7a" := by
  have ⟨records, hr⟩ := started_untouched.exists_ready
  have ha : knocked.Ready records := hr.receive
  have hs : SameSetup knocked untouched := sameSetup_receive
  have ho : OpeningPost knocked.transport .opening := hs.transport ▸ openingPost_opening
  exact ⟨by decide, ho.handsOut ha.running ⟨by decide +kernel, by decide +kernel⟩⟩

theorem sessions_isolated_crowd :
    Started ⟨.none, []⟩ ⟨.none, []⟩ ⟨.folder [], []⟩ untouched ∧
      knocked.Opens ("3e7a", .opening) "3e7a" ∧
      "3e7a" ≠ "" ∧ "5d11" ≠ "" ∧
      List.Forall₂ (Readdressed "5d11") (Arrivals.crowd.filter (·.2.carries "3e7a"))
        [("02c8", .deletion "5d11")] ∧
      untouched.answers [("5d11", .opening), ("02c8", .deletion "5d11")] =
        ((knocked.handle "3e7a" .opening).2 ::
          (knocked.handle "3e7a" .opening).1.answersTo
            "3e7a" Arrivals.crowd).map (·.rename "3e7a" "5d11") := by
  have hs : List.Forall₂ (Readdressed "5d11") (Arrivals.crowd.filter (·.2.carries "3e7a"))
      [("02c8", .deletion "5d11")] := by
    have hf : Arrivals.crowd.filter (·.2.carries "3e7a") = [("a1f4", .deletion "3e7a")] := rfl
    rw [hf]
    refine .cons ⟨⟨rfl, rfl, rfl, rfl, rfl, fun name hn => ?_⟩, rfl⟩ .nil
    simp [Request.header?, Request.deletion, hn]
  have hi : "3e7a" ≠ "" := by decide
  have hi' : "5d11" ≠ "" := by decide
  exact ⟨started_untouched, opens_knocked, hi, hi', hs,
    sessions_isolated started_untouched opens_knocked hi hi' hs⟩

end App
end ComponentCatalog.Http
