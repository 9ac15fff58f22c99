import ComponentCatalog.Proofs.Session.Gateway
import ComponentCatalog.Proofs.Session.Lifetime

namespace ComponentCatalog

namespace SessionStore

variable {s s' : SessionStore} {id : String} {h h' : Handle} {x : Session} {f : Session → Session}
  {out : List (String × Handle)}

-- The ids of all sessions are in use, and no two sessions have the same.
structure Named (s : SessionStore) : Prop extends s.Sound where
  used   : ∀ {h x}, s.session? h = some x → ¬s.Unused x.id
  unique : ∀ {h h' x x'}, s.session? h = some x → s.session? h' = some x' → x.id = x'.id → h = h'

theorem Named.empty : empty.Named where
  toSound := .empty
  used    := by simp [session?, SessionStore.empty]
  unique  := by simp [session?, SessionStore.empty]

theorem not_unused_iff : ¬s.Unused id ↔ id ∈ s.ids ∨ id ∈ s.retired := by
  rw [Unused, not_and_or, not_not, not_not]

-- All ids of the store count as given, and no session as taken out yet.
theorem Sound.kept (hs : s.Sound) : Kept s (s.ids ++ s.retired) [] where
  toSound := hs
  given   := fun _ => List.mem_append
  closed  := by simp
  once    := .nil

theorem Takes.unused_iff (ht : Takes s s' out) (hs : s.Sound) : s'.Unused id ↔ s.Unused id := by
  have hk : Kept s' (s.ids ++ s.retired) (out.map Prod.snd) := hs.kept.takes ht
  rw [← not_iff_not, not_unused_iff, not_unused_iff, ← hk.given, List.mem_append]

-- What is taken out keeps its id.
theorem Takes.exists_session? (ht : Takes s s' out) (hx : s'.session? h = some x) :
    ∃ y, s.session? h = some y ∧ y.id = x.id := by
  rw [ht.closed] at hx
  split at hx
  case isFalse => exact ⟨x, hx, rfl⟩
  case isTrue  =>
    obtain ⟨y, hy, rfl⟩ := Option.map_eq_some_iff.mp hx
    exact ⟨y, hy, rfl⟩

theorem session?_place :
    (s.place id).session? h = if h = s.next then some (.fresh id) else s.session? h := by
  simp only [session?, place, next, List.getElem?_append]
  grind

theorem exists_session?_modify (hi : ∀ x, (f x).id = x.id)
    (hx : (s.modify h f).session? h' = some x) : ∃ y, s.session? h' = some y ∧ y.id = x.id := by
  rw [session?_modify] at hx
  split at hx
  case isFalse => exact ⟨x, hx, rfl⟩
  case isTrue  =>
    obtain ⟨y, hy, rfl⟩ := Option.map_eq_some_iff.mp hx
    exact ⟨y, hy, (hi y).symm⟩

namespace Named

-- Sessions may change as long as they keep their ids and do not end.
theorem modify (hs : s.Named) (hi : ∀ x, (f x).id = x.id)
    (hl : ∀ x : Session, x.isLive → (f x).isLive) : (s.modify h f).Named where
  distinct := hs.distinct
  disjoint := hs.disjoint
  keyed    := by
    intro id h' hm
    obtain ⟨y, hy, hid, hlive⟩ := hs.keyed hm
    rw [session?_modify]
    split
    case isTrue  => exact ⟨f y, by rw [hy]; rfl, (hi y).trans hid, hl y hlive⟩
    case isFalse => exact ⟨y, hy, hid, hlive⟩
  used     := by
    intro h' x hx
    obtain ⟨y, hy, hid⟩ := exists_session?_modify hi hx
    exact hid ▸ hs.used hy
  unique   := by
    intro h₁ h₂ x₁ x₂ hx₁ hx₂ he
    obtain ⟨y₁, hy₁, hid₁⟩ := exists_session?_modify hi hx₁
    obtain ⟨y₂, hy₂, hid₂⟩ := exists_session?_modify hi hx₂
    exact hs.unique hy₁ hy₂ (by rw [hid₁, hid₂, he])

theorem takes (hs : s.Named) (ht : Takes s s' out) : s'.Named where
  toSound := ht.sound hs.toSound
  used    := by
    intro h x hx
    obtain ⟨y, hy, hid⟩ := ht.exists_session? hx
    exact (ht.unused_iff hs.toSound).not.mpr (hid ▸ hs.used hy)
  unique  := by
    intro h₁ h₂ x₁ x₂ hx₁ hx₂ he
    obtain ⟨y₁, hy₁, hid₁⟩ := ht.exists_session? hx₁
    obtain ⟨y₂, hy₂, hid₂⟩ := ht.exists_session? hx₂
    exact hs.unique hy₁ hy₂ (by rw [hid₁, hid₂, he])

theorem place (hs : s.Named) (hu : s.Unused id) : (s.place id).Named where
  toSound := (hs.kept.gives hu).toSound
  used    := by
    intro h x hx
    rw [not_unused_iff, ids_place, List.mem_append]
    rw [session?_place] at hx
    split at hx
    case isTrue  =>
      cases hx
      exact .inl (.inr (List.mem_singleton.mpr rfl))
    case isFalse => exact (not_unused_iff.mp (hs.used hx)).imp_left .inl
  unique  := by
    intro h₁ h₂ x₁ x₂ hx₁ hx₂ he
    have hne : ∀ {h x}, s.session? h = some x → x.id ≠ id :=
      fun hx hid => hs.used hx (hid ▸ hu)
    rw [session?_place] at hx₁ hx₂
    split at hx₁ <;> split at hx₂
    case isTrue.isTrue h₁ h₂   => rw [h₁, h₂]
    case isTrue.isFalse        => cases hx₁; exact absurd he.symm (hne hx₂)
    case isFalse.isTrue        => cases hx₂; exact absurd he (hne hx₁)
    case isFalse.isFalse       => exact hs.unique hx₁ hx₂ he

end Named
end SessionStore

namespace Gateway

open SessionStore

-- Starts of sessions, ends of transports and of loops, and the server's own start and end may be
-- interleaved in any order.
inductive Segment
  | run
  -- a request that was let in brings a new session
  | insert (id : String)
  | activate (h : Handle)
  | terminate (h : Handle)
  | close (h : Handle)
  | settle (h : Handle)
  | clear
  | stop

def step (g : Gateway) : Segment → Gateway
  | .run         => (g.run.toOption).getD g
  | .insert id   => ((g.insert id).toOption.map Prod.fst).getD g
  | .activate h  => g.activate h
  | .terminate h => g.terminate h
  | .close h     => g.close h
  | .settle h    => g.settle h
  | .clear       => g.clear.1
  | .stop        => g.stop

def after (g : Gateway) (xs : List Segment) : Gateway :=
  xs.foldl step g

variable {g : Gateway} {h h' : Handle} {id : String} {e : StartEnd} {x : Segment}
  {xs : List Segment}

theorem after_append {ys : List Segment} : g.after (xs ++ ys) = (g.after xs).after ys := by
  simp [after]

-- The ends of a start, of a loop and of the server consist of these segments.
theorem exists_conclude_eq_after : ∃ xs, g.conclude h e = g.after xs := by
  cases e
  case interrupted => exact ⟨[], rfl⟩
  case completed status =>
    cases status
    case none => exact ⟨[.terminate h, .close h], rfl⟩
    case some status =>
      by_cases hs : status < 400
      case pos => exact ⟨[.activate h], if_pos hs⟩
      case neg => exact ⟨[.terminate h, .close h], if_neg hs⟩

theorem loopEnded_eq_after : g.loopEnded h = g.after [.close h] := rfl

theorem shutdown_eq_after :
    g.shutdown = g.after (.clear :: g.clear.2.map .terminate ++ [.stop]) := by
  simp only [shutdown, after, List.foldl_append, List.foldl_cons, List.foldl_map, List.foldl_nil]
  rfl

theorem step_run_store : (g.step .run).store = g.store := by
  rw [step, run]
  split <;> rfl

theorem step_insert_cases (g : Gateway) (id : String) :
    g.step (.insert id) = g ∨
      g.store.Unused id ∧ g.step (.insert id) = { g with store := g.store.place id } := by
  by_cases hu : g.store.Unused id
  case pos => exact .inr ⟨hu, by rw [step, insert_of_unused hu]; rfl⟩
  case neg => exact .inl (by rw [step, insert_of_used hu]; rfl)

theorem reserve_eq_ok_iff {g' : Gateway} :
    g.reserve id = .ok (g', h) ↔ g.running ∧ g.insert id = .ok (g', h) := by
  cases hr : g.running
  case false => simp [reserve, hr]
  case true  =>
    rw [reserve_of_running hr]
    cases g.insert id <;> simp [Except.mapError]

-- A session comes in, and nothing else happens.
theorem step_insert_of_ok {g' : Gateway} (hi : g.insert id = .ok (g', h)) :
    g.step (.insert id) = g' ∧ g'.running = g.running := by
  by_cases hu : g.store.Unused id
  case neg => cases (insert_of_used hu).symm.trans hi
  case pos =>
    rw [step, hi]
    cases (insert_of_unused hu).symm.trans hi
    exact ⟨rfl, rfl⟩

theorem clear_takes : Takes g.store g.clear.1.store g.store.live :=
  takes_removeAll

-- A session that is still in the store is taken out of it, and nothing else happens.
theorem close_cases (hs : g.store.Named) :
    g.close h = g ∨ ∃ id, (id, h) ∈ g.store.live ∧
      Takes g.store (g.close h).store [(id, h)] ∧ (g.close h).running = g.running := by
  rw [close]
  cases hx : g.store.session? h
  case none   => exact .inl rfl
  case some x =>
    cases hl : g.store.live.lookup x.id
    case none    => exact .inl (by simp only [remove, hl])
    case some h' =>
      have hm : (x.id, h') ∈ g.store.live := hs.lookup_eq_some_iff.mp hl
      obtain ⟨y, hy, hid, _⟩ := hs.keyed hm
      cases hs.unique hy hx hid
      exact .inr ⟨x.id, hm, takes_remove hs.distinct hl, rfl⟩

theorem named_close (hs : g.store.Named) : (g.close h).store.Named := by
  rcases close_cases hs with he | ⟨id, _, ht, _⟩
  case inl => exact he.symm ▸ hs
  case inr => exact hs.takes ht

theorem named_step (hs : g.store.Named) : (g.step x).store.Named := by
  cases x
  case run         => rw [step_run_store]; exact hs
  case activate h  => exact hs.modify (fun _ => rfl) (fun _ _ => rfl)
  case terminate h => exact hs.modify (fun _ => rfl) (fun _ hl => hl)
  case close h     => exact named_close hs
  case clear       => exact hs.takes clear_takes
  case stop        => exact hs
  case insert id   =>
    rcases step_insert_cases g id with he | ⟨hu, he⟩
    case inl => exact he.symm ▸ hs
    case inr => exact he.symm ▸ hs.place hu
  case settle h    =>
    rw [step, settle]
    split
    case isTrue  => exact named_close hs
    case isFalse => exact hs

theorem named_after (hs : g.store.Named) : (g.after xs).store.Named := by
  induction xs generalizing g
  case nil          => exact hs
  case cons x xs hi => exact hi (named_step hs)

theorem named_stopped : (stopped.after xs).store.Named :=
  named_after .empty

end Gateway
end ComponentCatalog
