import ComponentCatalog.Proofs.Session.Segment

namespace ComponentCatalog

-- The opening request got an answer that is no refusal, and its handling came to an end.
def StartEnd.Succeeds : StartEnd → Prop
  | .completed (some status) => status < 400
  | _                        => False

namespace SessionStore

variable {s s' : SessionStore} {id : String} {h h' : Handle} {x : Session} {f : Session → Session}
  {out : List (String × Handle)}

-- The session of a start that has not been concluded yet. Maybe somebody else has closed it.
structure Starts (s : SessionStore) (id : String) (h : Handle) (x : Session) : Prop where
  session : s.session? h = some x
  id_eq   : x.id = id
  stage   : ((id, h) ∈ s.live ∧ x.state = .opening) ∨ (id ∈ s.retired ∧ x.state = .closed)

namespace Starts

theorem of_place : (s.place id).Starts id s.next (.fresh id) where
  session := by rw [session?_place, if_pos rfl]
  id_eq   := rfl
  stage   := .inl ⟨by simp [SessionStore.place, next], rfl⟩

theorem place (hs : s.Starts id h x) : (s.place id').Starts id h x where
  session := make_session? hs.session
  id_eq   := hs.id_eq
  stage   := hs.stage.imp_left fun ⟨hm, ho⟩ => ⟨List.mem_append_left _ hm, ho⟩

theorem modify_ne (hs : s.Starts id h x) (hn : h' ≠ h) : (s.modify h' f).Starts id h x where
  session := by rw [session?_modify, if_neg hn, hs.session]
  id_eq   := hs.id_eq
  stage   := hs.stage

theorem terminate (h' : Handle) (hs : s.Starts id h x) :
    ∃ y, (s.modify h' .terminate).Starts id h y := by
  by_cases hn : h' = h
  case neg => exact ⟨x, hs.modify_ne hn⟩
  case pos =>
    refine ⟨x.terminate, ?_, hs.id_eq, hs.stage⟩
    rw [session?_modify, if_pos hn, hs.session]
    rfl

theorem takes (hs : s.Starts id h x) (hn : s.Sound) (ht : Takes s s' out) :
    ∃ y, s'.Starts id h y := by
  have hx := ht.closed h
  rw [hs.session] at hx
  by_cases ho : h ∈ out.map Prod.snd
  case pos =>
    obtain ⟨⟨i, _⟩, hm, heq⟩ := List.mem_map.mp ho
    cases heq
    obtain ⟨y, hy, hi, _⟩ := hn.keyed (ht.live.mem_iff.mpr (List.mem_append_left _ hm))
    cases hs.session.symm.trans hy
    have hid : id ∈ out.map Prod.fst := List.mem_map.mpr ⟨_, hm, hi.symm.trans hs.id_eq⟩
    refine ⟨x.close, by rw [hx, if_pos ho]; rfl, hs.id_eq, .inr ⟨?_, rfl⟩⟩
    rw [ht.retired]
    exact List.mem_append_right _ hid
  case neg =>
    refine ⟨x, by rw [hx, if_neg ho], hs.id_eq, ?_⟩
    rcases hs.stage with ⟨hm, hstate⟩ | ⟨hr, hstate⟩
    case inr => exact .inr ⟨ht.retired ▸ List.mem_append_left _ hr, hstate⟩
    case inl =>
      rcases List.mem_append.mp (ht.live.mem_iff.mp hm) with hm | hm
      case inl => exact absurd (List.mem_map.mpr ⟨_, hm, rfl⟩) ho
      case inr => exact .inl ⟨hm, hstate⟩

end Starts
end SessionStore

namespace Gateway

open SessionStore

variable {g g' : Gateway} {id : String} {h h' : Handle} {x : Segment} {y : Session}
  {xs ys : List Segment} {e : StartEnd}

theorem starts_insert (hi : g.insert id = .ok (g', h)) : g'.store.Starts id h (.fresh id) := by
  by_cases hu : g.store.Unused id
  case neg => cases (insert_of_used hu).symm.trans hi
  case pos =>
    cases (insert_of_unused hu).symm.trans hi
    exact .of_place

theorem starts_close (h' : Handle) (hs : g.store.Starts id h y) (hn : g.store.Named) :
    ∃ y, (g.close h').store.Starts id h y := by
  rcases close_cases (h := h') hn with he | ⟨_, _, ht, _⟩
  case inl => exact ⟨y, he.symm ▸ hs⟩
  case inr => exact hs.takes hn.toSound ht

-- Only the start itself can make the session active.
theorem starts_step (hs : g.store.Starts id h y) (hn : g.store.Named) (hx : x ≠ .activate h) :
    ∃ y, (g.step x).store.Starts id h y := by
  cases x
  case run          => exact ⟨y, by rw [step_run_store]; exact hs⟩
  case activate h'  => exact ⟨y, hs.modify_ne fun he => hx (congrArg _ he)⟩
  case terminate h' => exact hs.terminate h'
  case close h'     => exact starts_close h' hs hn
  case clear        => exact hs.takes hn.toSound clear_takes
  case stop         => exact ⟨y, hs⟩
  case insert id'   =>
    rcases step_insert_cases g id' with he | ⟨_, he⟩
    case inl => exact ⟨y, he.symm ▸ hs⟩
    case inr => exact ⟨y, he.symm ▸ hs.place⟩
  case settle h'    =>
    rw [step, settle]
    split
    case isTrue  => exact starts_close h' hs hn
    case isFalse => exact ⟨y, hs⟩

theorem starts_after (hs : g.store.Starts id h y) (hn : g.store.Named) (ha : .activate h ∉ xs) :
    ∃ y, (g.after xs).store.Starts id h y := by
  induction xs generalizing g y
  case nil          => exact ⟨y, hs⟩
  case cons x xs hi =>
    rw [List.mem_cons, not_or] at ha
    have ⟨_, hs⟩ := starts_step hs hn (Ne.symm ha.1)
    exact hi hs (named_step hn) ha.2

-- The session is gone for good, and all others are as before.
structure Discards (g g' : Gateway) (id : String) (h : Handle) : Prop where
  gone     : id ∉ g'.store.ids
  retired  : id ∈ g'.store.retired
  closed   : ∃ y, g'.store.session? h = some y ∧ y.id = id ∧ y.state = .closed
  sessions : ∀ h' ≠ h, g'.store.session? h' = g.store.session? h'
  entries  : ∀ id', ∀ h' ≠ h, (id', h') ∈ g'.store.live ↔ (id', h') ∈ g.store.live
  ids      : ∀ id' ≠ id, id' ∈ g'.store.retired ↔ id' ∈ g.store.retired
  running  : g'.running = g.running

theorem discards_close (hs : g.store.Starts id h y) (hn : g.store.Named) :
    Discards g (g.close h) id h := by
  obtain ⟨z, hz⟩ := starts_close h hs hn
  -- What is left of the session's entry would be found and taken out.
  have hgone : id ∉ (g.close h).store.ids := by
    have hi : y.id = id := hs.id_eq
    rw [close, hs.session]
    simp only [hi, remove]
    split
    case h_1 hl => exact lookup_eq_none_iff_not_mem.mp hl
    case h_2    => simp [SessionStore.ids, SessionStore.modify]
  have hretired : id ∈ (g.close h).store.retired ∧ z.state = .closed :=
    hz.stage.resolve_left fun hl => hgone (mem_ids_iff.mpr ⟨h, hl.1⟩)
  have hclosed : ∃ y, (g.close h).store.session? h = some y ∧ y.id = id ∧ y.state = .closed :=
    ⟨z, hz.session, hz.id_eq, hretired.2⟩
  rcases close_cases (h := h) hn with he | ⟨id', hm, ht, hr⟩
  case inl =>
    exact ⟨hgone, hretired.1, hclosed, by simp [he], by simp [he], by simp [he], by rw [he]⟩
  case inr =>
    obtain ⟨x, hx, hid, _⟩ := hn.keyed hm
    cases hs.session.symm.trans hx
    cases hs.id_eq.symm.trans hid
    refine ⟨hgone, hretired.1, hclosed, ?_, ?_, ?_, hr⟩
    case refine_1 => exact fun h' hne => by rw [ht.closed, if_neg (by simpa using hne)]
    case refine_2 => exact fun id' h' hne => by simp [ht.live.mem_iff, hne]
    case refine_3 => exact fun id' hne => by simp [ht.retired, hne]

theorem discards_conclude (hs : g.store.Starts id h y) (hn : g.store.Named) (he : ¬e.Succeeds)
    (hi : e ≠ .interrupted) : Discards g (g.conclude h e) id h := by
  have hconclude : g.conclude h e = (g.terminate h).close h := by
    cases e
    case interrupted => exact absurd rfl hi
    case completed status =>
      cases status
      case none   => rfl
      case some _ => exact if_neg he
  have ⟨_, hs⟩ := hs.terminate h
  have hd : Discards (g.terminate h) ((g.terminate h).close h) id h :=
    discards_close hs (named_step (x := .terminate h) hn)
  rw [hconclude]
  refine { hd with sessions := fun h' hne => ?_ }
  rw [hd.sessions h' hne, terminate, session?_modify, if_neg (Ne.symm hne)]

-- What becomes of a session of id `id` that is to be started, by how its start ends.
structure Concludes (g : Gateway) (id : String) (h : Handle) : Prop where
  refused     : ∀ e : StartEnd, ¬e.Succeeds → e ≠ .interrupted → Discards g (g.conclude h e) id h
  -- The transport was ended before.
  closed      : Discards g (g.close h) id h
  interrupted : g.conclude h .interrupted = g ∧ ∃ y, g.store.Starts id h y

theorem start_concludes (hi : (stopped.after xs).insert id = .ok (g, h))
    (ha : .activate h ∉ ys) : Concludes (g.after ys) id h := by
  have hg : g = (stopped.after xs).step (.insert id) := by rw [step, hi]; rfl
  have hn : g.store.Named := hg ▸ named_step named_stopped
  obtain ⟨y, hs⟩ := starts_after (starts_insert hi) hn ha
  have hn : (g.after ys).store.Named := named_after hn
  exact {
    refused     := fun _ => discards_conclude hs hn
    closed      := discards_close hs hn
    interrupted := ⟨rfl, y, hs⟩ }

-- Somebody else's session is opened before and ended meanwhile.
theorem start_concludes_crowd :
    ∃ g, (stopped.after [.run, .insert "81d0", .activate 0]).insert "3e7a" = .ok (g, 1) ∧
      .activate 1 ∉ [Segment.insert "90b6", .terminate 0, .settle 0] ∧
      Concludes (g.after [.insert "90b6", .terminate 0, .settle 0]) "3e7a" 1 := by
  have ⟨g, hi⟩ : ∃ g, (stopped.after [.run, .insert "81d0", .activate 0]).insert "3e7a" =
      .ok (g, 1) := ⟨_, rfl⟩
  have ha : .activate 1 ∉ [Segment.insert "90b6", .terminate 0, .settle 0] := by simp
  exact ⟨g, hi, ha, start_concludes hi ha⟩

-- A client goes away while its opening request is handled.
theorem start_interrupted :
    ¬∀ (xs ys : List Segment) (id : String) (g : Gateway) (h : Handle) (e : StartEnd),
      (stopped.after xs).insert id = .ok (g, h) → .activate h ∉ ys → ¬e.Succeeds →
        Discards (g.after ys) ((g.after ys).conclude h e) id h := by
  intro hd
  have hgone := (hd [.run] [] "3e7a" _ 0 .interrupted rfl List.not_mem_nil id).gone
  exact hgone (List.mem_singleton.mpr rfl)

end Gateway
end ComponentCatalog
