import ComponentCatalog.Proofs.Session.Store
import ComponentCatalog.Session.Gateway

namespace ComponentCatalog

namespace SessionStore

variable {s : SessionStore} {id id' : String} {h h' : Handle} {x : Session}

-- The handle of the next session.
def next (s : SessionStore) : Handle :=
  s.known.length

def enroll (s : SessionStore) (id : String) : SessionStore where
  known   := s.known ++ [(Session.fresh id).activate]
  live    := s.live ++ [(id, s.next)]
  retired := s.retired

def turnAway (s : SessionStore) (id : String) : SessionStore where
  known   := s.known ++ [(Session.fresh id).terminate.close]
  live    := s.live
  retired := s.retired ++ [id]

def retire (s : SessionStore) (id : String) (h : Handle) : SessionStore where
  known   := s.known.modify h (·.terminate.close)
  live    := s.live.filter (·.1 ≠ id)
  retired := s.retired ++ [id]

-- Between two requests every live session is active, and its transport takes requests.
structure Settled (s : SessionStore) : Prop extends s.Sound where
  active : ∀ {id h}, (id, h) ∈ s.live →
    ∃ x, s.session? h = some x ∧ x.id = id ∧ x.state = .active ∧ x.terminated = false

theorem Settled.empty : empty.Settled where
  toSound := .empty
  active  := by simp [SessionStore.empty]

theorem lt_next_of_session? (hx : s.session? h = some x) : h < s.next :=
  (List.getElem?_eq_some_iff.mp hx).1

theorem session?_enroll_next :
    (s.enroll id).session? s.next = some (Session.fresh id).activate := by
  simp [session?, enroll, next]

theorem session?_enroll_of_lt (hl : h < s.next) : (s.enroll id).session? h = s.session? h :=
  List.getElem?_append_left hl

theorem session?_turnAway_of_lt (hl : h < s.next) : (s.turnAway id).session? h = s.session? h :=
  List.getElem?_append_left hl

theorem session?_retire :
    (s.retire id h).session? h' =
      if h = h' then (s.session? h').map (·.terminate.close) else s.session? h' := by
  simp only [session?, retire, List.getElem?_modify]
  split <;> simp

@[simp]
theorem ids_enroll : (s.enroll id).ids = s.ids ++ [id] := by
  simp [ids, enroll]

@[simp]
theorem ids_turnAway : (s.turnAway id).ids = s.ids := rfl

@[simp]
theorem mem_ids_retire : id' ∈ (s.retire id h).ids ↔ id' ∈ s.ids ∧ id' ≠ id := by
  simp only [ids, retire, List.mem_map, List.mem_filter]
  grind

@[simp]
theorem retired_enroll : (s.enroll id).retired = s.retired := rfl

@[simp]
theorem retired_turnAway : (s.turnAway id).retired = s.retired ++ [id] := rfl

@[simp]
theorem retired_retire : (s.retire id h).retired = s.retired ++ [id] := rfl

theorem Sound.retire_distinct (hs : s.Sound) : (s.retire id h).ids.Nodup :=
  hs.distinct.sublist (List.filter_sublist.map _)

namespace Settled

theorem enroll (hs : s.Settled) (hu : s.Unused id) : (s.enroll id).Settled := by
  have active : ∀ {i h}, (i, h) ∈ (s.enroll id).live →
      ∃ x, (s.enroll id).session? h = some x ∧ x.id = i ∧ x.state = .active ∧
        x.terminated = false := by
    intro i h hm
    rcases List.mem_append.mp hm with hm | hm
    case inl =>
      have ⟨x, hx, hr⟩ := hs.active hm
      exact ⟨x, (session?_enroll_of_lt (lt_next_of_session? hx)).trans hx, hr⟩
    case inr =>
      cases List.mem_singleton.mp hm
      exact ⟨_, session?_enroll_next, rfl, rfl, rfl⟩
  refine { active, distinct := ?distinct, keyed := ?keyed, disjoint := ?disjoint }
  case distinct =>
    rw [ids_enroll]
    exact List.nodup_append.mpr ⟨hs.distinct, List.nodup_singleton _, by grind [hu.1]⟩
  case keyed =>
    intro i h hm
    have ⟨x, hx, hi, ha, _⟩ := active hm
    exact ⟨x, hx, hi, by simp [Session.isLive, ha]⟩
  case disjoint =>
    intro i hr
    rw [ids_enroll, List.mem_append, List.mem_singleton, not_or]
    exact ⟨hs.disjoint hr, fun he => hu.2 (he ▸ hr)⟩

theorem turnAway (hs : s.Settled) (hu : s.Unused id) : (s.turnAway id).Settled where
  distinct := hs.distinct
  keyed hm := by
    have ⟨x, hx, hr⟩ := hs.keyed hm
    exact ⟨x, (session?_turnAway_of_lt (lt_next_of_session? hx)).trans hx, hr⟩
  disjoint hr := by
    rcases List.mem_append.mp hr with hr | hr
    case inl => exact hs.disjoint hr
    case inr => exact List.mem_singleton.mp hr ▸ hu.1
  active hm := by
    have ⟨x, hx, hr⟩ := hs.active hm
    exact ⟨x, (session?_turnAway_of_lt (lt_next_of_session? hx)).trans hx, hr⟩

theorem retire (hs : s.Settled) (hm : (id, h) ∈ s.live) : (s.retire id h).Settled := by
  have keep : ∀ {i h'}, (i, h') ∈ (s.retire id h).live →
      (i, h') ∈ s.live ∧ (s.retire id h).session? h' = s.session? h' := by
    intro i h' hm'
    have ⟨hm', hi⟩ := List.mem_filter.mp hm'
    refine ⟨hm', ?_⟩
    rw [session?_retire, if_neg]
    rintro rfl
    exact of_decide_eq_true hi (hs.handle_injective hm' hm)
  refine {
    distinct := hs.retire_distinct, keyed := ?keyed, disjoint := ?disjoint, active := ?active }
  case keyed =>
    intro i h' hm'
    have ⟨hm', he⟩ := keep hm'
    exact he ▸ hs.keyed hm'
  case disjoint =>
    intro i hr hi
    have ⟨hi, hn⟩ := mem_ids_retire.mp hi
    rcases List.mem_append.mp hr with hr | hr
    case inl => exact hs.disjoint hr hi
    case inr => exact hn (List.mem_singleton.mp hr)
  case active =>
    intro i h' hm'
    have ⟨hm', he⟩ := keep hm'
    exact he ▸ hs.active hm'

end Settled
end SessionStore

namespace Gateway

open SessionStore

variable {g : Gateway} {id : String} {h : Handle}

theorem insert_of_unused (hu : g.store.Unused id) :
    g.insert id =
      .ok ({ g with store := {
          known   := g.store.known ++ [.fresh id]
          live    := g.store.live ++ [(id, g.store.next)]
          retired := g.store.retired } }, g.store.next) := by
  have hu' : (g.store.make id).1.Unused id := hu
  simp only [insert, add_of_unused hu']
  rfl

theorem insert_of_used (hu : ¬g.store.Unused id) : g.insert id = .error (.alreadyUsed id) := by
  have hu' : ¬(g.store.make id).1.Unused id := hu
  simp only [insert, add_of_used hu']
  rfl

theorem reserve_of_running (hr : g.running) : g.reserve id = (g.insert id).mapError .session := by
  simp [reserve, hr]

-- The opening request of a new session decides whether the session stays.
theorem conclude_reserve (hr : g.running) (hu : g.store.Unused id) (status : Nat) :
    ∃ g', g.reserve id = .ok (g', g.store.next) ∧
      g'.conclude g.store.next (.completed (some status)) =
        { g with store := if status < 400 then g.store.enroll id else g.store.turnAway id } := by
  refine ⟨_, by rw [reserve_of_running hr, insert_of_unused hu]; rfl, ?_⟩
  have hf : g.store.live.filter (·.1 ≠ id) = g.store.live := by
    refine List.filter_eq_self.mpr fun e he => decide_eq_true ?_
    rintro rfl
    exact hu.1 (List.mem_map_of_mem he)
  have hl : g.store.live.lookup id = none := lookup_eq_none_iff_not_mem.mpr hu.1
  simp only [conclude]
  split
  case isTrue => simp [activate, modify_last, enroll, next]
  case isFalse =>
    have hl' : (g.store.live ++ [(id, g.store.next)]).lookup id = some g.store.next := by
      simp [List.lookup_append, hl]
    have hx : (Session.fresh id).terminate.id = id := rfl
    simp only [terminate, close, next, modify_last, session?_last, hx] at hl' ⊢
    rw [remove_of_lookup hl']
    simp only [List.filter_append, hf, modify_last, turnAway]
    simp

theorem settle_of_active {x : Session} (hx : g.store.session? h = some x)
    (ht : x.terminated = false) : g.settle h = g := by
  simp [settle, hx, ht]

-- A session whose transport has ended with a request is retired.
theorem settle_terminate (hs : g.store.Sound) (hm : (id, h) ∈ g.store.live) :
    (g.terminate h).settle h = { g with store := g.store.retire id h } := by
  have ⟨x, hx, hi, _⟩ := hs.keyed hm
  have hl : g.store.live.lookup id = some h := hs.lookup_eq_some_iff.mpr hm
  have ht : (g.terminate h).store.session? h = some x.terminate := by
    simp [terminate, session?_modify, hx]
  simp only [settle, ht, close]
  simp [terminate, remove, Session.terminate, hi, hl, retire, List.modify_modify_eq,
    Function.comp_def, SessionStore.modify]

end Gateway
end ComponentCatalog
