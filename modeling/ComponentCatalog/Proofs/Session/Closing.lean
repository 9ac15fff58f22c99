import ComponentCatalog.Proofs.Session.Traffic
import Mathlib.Data.List.Perm.Subperm

namespace ComponentCatalog

namespace SessionStore

variable {s s' s'' : SessionStore} {id : String} {h h' : Handle} {x y z : Session}
  {f : Session → Session} {out : List (String × Handle)}

-- What becomes of a session that nobody activates.
structure Becomes (s s' : SessionStore) (h : Handle) (x y : Session) : Prop where
  session : s'.session? h = some y
  id_eq   : y.id = x.id
  stage   : (y.state = x.state ∧ ((x.id, h) ∈ s'.live ↔ (x.id, h) ∈ s.live)) ∨
    ((x.id, h) ∈ s.live ∧ y.state = .closed)

namespace Becomes

theorem refl (hx : s.session? h = some x) : Becomes s s h x x where
  session := hx
  id_eq   := rfl
  stage   := .inl ⟨rfl, Iff.rfl⟩

theorem trans (h₁ : Becomes s s' h x y) (h₂ : Becomes s' s'' h y z) : Becomes s s'' h x z where
  session := h₂.session
  id_eq   := h₂.id_eq.trans h₁.id_eq
  stage   := by
    have h₂ := h₂.stage
    rw [h₁.id_eq] at h₂
    rcases h₁.stage with ⟨hy, hm⟩ | ⟨hm, hy⟩
    case inl =>
      rcases h₂ with ⟨hz, hm'⟩ | ⟨hm', hz⟩
      case inl => exact .inl ⟨hz.trans hy, hm'.trans hm⟩
      case inr => exact .inr ⟨hm.mp hm', hz⟩
    case inr =>
      rcases h₂ with ⟨hz, _⟩ | ⟨_, hz⟩
      case inl => exact .inr ⟨hm, hz.trans hy⟩
      case inr => exact .inr ⟨hm, hz⟩

theorem modify_ne (hx : s.session? h = some x) (hn : h' ≠ h) : Becomes s (s.modify h' f) h x x where
  session := by rw [session?_modify, if_neg hn, hx]
  id_eq   := rfl
  stage   := .inl ⟨rfl, Iff.rfl⟩

theorem terminate (hx : s.session? h = some x) (h' : Handle) :
    ∃ y, Becomes s (s.modify h' .terminate) h x y := by
  by_cases hn : h' = h
  case neg => exact ⟨x, modify_ne hx hn⟩
  case pos =>
    refine ⟨x.terminate, ?_, rfl, .inl ⟨rfl, Iff.rfl⟩⟩
    rw [session?_modify, if_pos hn, hx]
    rfl

theorem place (hx : s.session? h = some x) : Becomes s (s.place id) h x x where
  session := make_session? hx
  id_eq   := rfl
  stage   := by
    have hn : h ≠ s.known.length := Nat.ne_of_lt (lt_next_of_session? hx)
    refine .inl ⟨rfl, ?_⟩
    simp [SessionStore.place, hn]

theorem takes (hs : s.Sound) (hx : s.session? h = some x) (ht : Takes s s' out) :
    ∃ y, Becomes s s' h x y := by
  have hc := ht.closed h
  rw [hx] at hc
  have hlive : ∀ {i}, (i, h) ∈ s.live ↔ (i, h) ∈ out ∨ (i, h) ∈ s'.live := by
    intro i
    rw [ht.live.mem_iff, List.mem_append]
  by_cases ho : h ∈ out.map Prod.snd
  case pos =>
    obtain ⟨⟨i, _⟩, hm, rfl⟩ := List.mem_map.mp ho
    have hm := hlive.mpr (.inl hm)
    obtain ⟨y, hy, hi, _⟩ := hs.keyed hm
    cases hx.symm.trans hy
    exact ⟨x.close, hc.trans (if_pos ho), rfl, .inr ⟨hi ▸ hm, rfl⟩⟩
  case neg =>
    have hout : (x.id, h) ∉ out := fun hm => ho (List.mem_map.mpr ⟨_, hm, rfl⟩)
    exact ⟨x, hc.trans (if_neg ho), rfl, .inl ⟨rfl, (hlive.trans (or_iff_right hout)).symm⟩⟩

end Becomes
end SessionStore

namespace Gateway

open SessionStore

variable {g : Gateway} {id : String} {h h' : Handle} {x : Segment} {xs : List Segment}
  {y z : Session}

-- What a segment does to the store.
inductive Works (s : SessionStore) : Segment → SessionStore → Prop
  | keeps {x : Segment} : Works s x s
  | activates {h : Handle} : Works s (.activate h) (s.modify h .activate)
  | terminates {x : Segment} {h : Handle} : Works s x (s.modify h .terminate)
  | takes {x : Segment} {s' out} (ht : Takes s s' out) : Works s x s'
  | places {id : String} : Works s (.insert id) (s.place id)

theorem works_close (hn : g.store.Named) : Works g.store x (g.close h).store := by
  rcases close_cases (h := h) hn with he | ⟨_, _, ht, _⟩
  case inl => exact he.symm ▸ .keeps
  case inr => exact .takes ht

theorem works_step (hn : g.store.Named) : Works g.store x (g.step x).store := by
  cases x
  case run         => exact step_run_store.symm ▸ .keeps
  case activate h  => exact .activates
  case terminate h => exact .terminates
  case close h     => exact works_close hn
  case clear       => exact .takes clear_takes
  case stop        => exact .keeps
  case insert id   =>
    rcases step_insert_cases g id with he | ⟨_, he⟩
    case inl => exact he.symm ▸ .keeps
    case inr => exact he.symm ▸ .places
  case settle h    =>
    rw [step, settle]
    split
    case isTrue  => exact works_close hn
    case isFalse => exact .keeps

theorem becomes_step (hn : g.store.Named) (hy : g.store.session? h = some y)
    (hx : x ≠ .activate h) : ∃ z, Becomes g.store (g.step x).store h y z := by
  have hw : Works g.store x (g.step x).store := works_step hn
  generalize (g.step x).store = s' at hw ⊢
  cases hw
  case keeps        => exact ⟨y, .refl hy⟩
  case activates h' => exact ⟨y, .modify_ne hy fun he => hx (congrArg _ he)⟩
  case terminates   => exact Becomes.terminate hy _
  case takes ht     => exact Becomes.takes hn.toSound hy ht
  case places       => exact ⟨y, .place hy⟩

theorem becomes_after (hn : g.store.Named) (hy : g.store.session? h = some y)
    (ha : .activate h ∉ xs) : ∃ z, Becomes g.store (g.after xs).store h y z := by
  induction xs generalizing g y
  case nil          => exact ⟨y, .refl hy⟩
  case cons x xs hi =>
    rw [List.mem_cons, not_or] at ha
    have ⟨z, hz⟩ := becomes_step hn hy (Ne.symm ha.1)
    have ⟨w, hw⟩ := hi (named_step hn) hz.session ha.2
    exact ⟨w, hz.trans hw⟩

theorem step_insert (hu : g.store.Unused id) :
    g.step (.insert id) = { g with store := g.store.place id } := by
  rw [step, insert_of_unused hu]
  rfl

-- Only insertions bring new sessions.
theorem exists_session?_step (hn : g.store.Named) (hx : ∀ id, x ≠ .insert id)
    (hz : (g.step x).store.session? h = some z) : ∃ y, g.store.session? h = some y := by
  have hw : Works g.store x (g.step x).store := works_step hn
  generalize (g.step x).store = s' at hw hz
  cases hw
  case keeps      => exact ⟨z, hz⟩
  case activates  =>
    exact (exists_session?_modify (f := .activate) (fun _ => rfl) hz).imp fun _ hy => hy.1
  case terminates =>
    exact (exists_session?_modify (f := .terminate) (fun _ => rfl) hz).imp fun _ hy => hy.1
  case takes ht   => exact (ht.exists_session? hz).imp fun _ hy => hy.1
  case places id  => exact absurd rfl (hx id)

theorem retired_subset_step (hn : g.store.Named) : g.store.retired ⊆ (g.step x).store.retired := by
  have hw : Works g.store x (g.step x).store := works_step hn
  generalize (g.step x).store = s' at hw ⊢
  cases hw
  case takes ht => exact ht.retired ▸ List.subset_append_left _ _
  all_goals exact List.Subset.refl _

theorem retired_subset_after (hn : g.store.Named) :
    g.store.retired ⊆ (g.after xs).store.retired := by
  induction xs generalizing g
  case nil          => exact List.Subset.refl _
  case cons x xs hi => exact List.Subset.trans (retired_subset_step hn) (hi (named_step hn))

theorem exists_session?_after (hn : g.store.Named) (hx : ∀ id, .insert id ∉ xs)
    (hz : (g.after xs).store.session? h = some z) : ∃ y, g.store.session? h = some y := by
  induction xs generalizing g
  case nil          => exact ⟨z, hz⟩
  case cons x xs hi =>
    simp only [List.mem_cons, not_or] at hx
    have ⟨y, hy⟩ := hi (named_step hn) (fun id => (hx id).2) hz
    exact exists_session?_step hn (fun id => Ne.symm (hx id).1) hy

end Gateway

namespace Task

variable {g : Gateway} {id : String} {hs : List Handle}

theorem mem_endingSegments {x : Gateway.Segment} (hm : x ∈ endingSegments hs) :
    x = .stop ∨ ∃ h, x = .terminate h := by
  cases hs
  case nil  => exact .inl (List.mem_singleton.mp hm)
  case cons => exact .inr ⟨_, List.mem_singleton.mp hm⟩

theorem filterMap_endingRest : (endingRest hs).filterMap start? = [] := by
  cases hs <;> simp [endingRest, start?]

theorem rest_entering (hu : g.store.Unused id) :
    (entering id).rest g = if g.running then [.awaiting g.store.next] else [] := by
  rw [rest, Gateway.insert_of_unused hu]

theorem rest_entering_cases (g : Gateway) (id : String) :
    (entering id).rest g = [] ∨
      g.store.Unused id ∧ (entering id).rest g = [.awaiting g.store.next] := by
  by_cases hu : g.store.Unused id
  case neg => exact .inl (by rw [rest, Gateway.insert_of_used hu])
  case pos =>
    rw [rest_entering hu]
    split
    case isTrue  => exact .inr ⟨hu, rfl⟩
    case isFalse => exact .inl rfl

end Task

-- A start stays the same start until it is over.
theorem Move.filterMap_rest {g : Gateway} {m : Move} (hn : ∀ id, m ≠ .proceed (.entering id)) :
    (m.rest g).filterMap Task.start? = [] ∨
      (m.rest g).filterMap Task.start? = (m.task?.bind Task.start?).toList := by
  cases m
  case resolve name =>
    refine .inl ?_
    cases hg : g.store.get? name <;> simp [Move.rest, hg, Task.start?]
  case proceed task =>
    cases task
    case entering id => exact absurd rfl (hn id)
    case awaiting h  => exact .inr rfl
    case server      => exact .inl Task.filterMap_endingRest
    case ending hs   => exact .inl Task.filterMap_endingRest
    case serving h   =>
      rw [Move.rest, Task.rest]
      split <;> exact .inl rfl
    all_goals exact .inl rfl
  all_goals exact .inl rfl

namespace Traffic

open SessionStore

variable {t : Traffic} {m m' : Move} {ms ms' : List Move} {id : String} {h : Handle}
  {x y : Session} {task : Task}

theorem step_run_or_eq : (t.step m).gateway = t.gateway ∨
    t.allows m ∧ (t.step m).gateway = t.gateway.after (m.segments t.gateway) := by
  by_cases ha : t.allows m
  case pos => exact .inr ⟨ha, by rw [step_of_allows ha]⟩
  case neg => exact .inl (by rw [step_of_not_allows ha])

theorem named_step (hn : t.store.Named) : (t.step m).store.Named := by
  rcases step_run_or_eq with he | ⟨_, he⟩
  case inl => rw [store, he]; exact hn
  case inr => rw [store, he]; exact Gateway.named_after hn

-- A start of the session comes to a good end.
def Opens (t : Traffic) (h : Handle) (m : Move) : Prop :=
  m = .proceed (.opening h) ∧ .opening h ∈ t.tasks

-- The only move with a segment, where there is only one.
def mover? : Gateway.Segment → Option Move
  | .run                                                 => some .run
  | .insert id                                           => some (.proceed (.entering id))
  | .activate h                                          => some (.proceed (.opening h))
  | .terminate _ | .close _ | .settle _ | .clear | .stop => none

theorem eq_of_mem_segments {g : Gateway} {x : Gateway.Segment} (hx : x ∈ m.segments g)
    (hm : mover? x = some m') : m = m' := by
  cases m
  case run          => cases List.mem_singleton.mp hx; exact Option.some.inj hm
  case refuse h     => cases List.mem_singleton.mp hx; cases hm
  case hangUp h     => cases List.mem_singleton.mp hx; cases hm
  case proceed task =>
    cases task
    all_goals grind [Move.segments, Task.segments, Task.mem_endingSegments, mover?]
  all_goals cases hx

theorem Opens.step_eq (ho : t.Opens h m) : (t.step m).gateway = t.gateway.activate h := by
  obtain ⟨rfl, hm⟩ := ho
  rw [step_proceed hm]
  rfl

theorem becomes_step (hn : t.store.Named) (hx : t.store.session? h = some x) (ho : ¬t.Opens h m) :
    ∃ y, Becomes t.store (t.step m).store h x y := by
  rcases step_run_or_eq with he | ⟨ha, he⟩
  case inl => exact ⟨x, by rw [store, store, he]; exact .refl hx⟩
  case inr =>
    rw [store, store, he]
    refine Gateway.becomes_after hn hx fun hm => ho ?_
    obtain rfl := eq_of_mem_segments hm rfl
    exact ⟨rfl, allows_proceed.mp ha⟩

-- A start brings its session into the store.
structure Enters (t : Traffic) (id : String) (m : Move) : Prop where
  move   : m = .proceed (.entering id)
  task   : .entering id ∈ t.tasks
  unused : t.store.Unused id

theorem Enters.step_eq (he : t.Enters id m) :
    (t.step m).gateway = { t.gateway with store := t.store.place id } := by
  obtain ⟨rfl, hm, hu⟩ := he
  rw [step_proceed hm]
  exact Gateway.step_insert hu

theorem exists_session?_step (hn : t.store.Named) (hy : (t.step m).store.session? h = some y) :
    (∃ x, t.store.session? h = some x) ∨
      ∃ id, t.Enters id m ∧ h = t.store.next ∧ y = .fresh id := by
  by_cases hi : ∃ id, t.Enters id m
  case pos =>
    obtain ⟨id, hi⟩ := hi
    rw [store, hi.step_eq, session?_place] at hy
    split at hy
    case isTrue hh => exact .inr ⟨id, hi, hh, (Option.some.inj hy).symm⟩
    case isFalse   => exact .inl ⟨y, hy⟩
  case neg =>
    refine .inl ?_
    rcases step_run_or_eq with he | ⟨ha, he⟩
    all_goals rw [store, he] at hy
    case inl => exact ⟨y, hy⟩
    case inr =>
      by_cases hins : ∃ id, .insert id ∈ m.segments t.gateway
      case neg =>
        push Not at hins
        exact Gateway.exists_session?_after hn hins hy
      case pos =>
        obtain ⟨id, hins⟩ := hins
        obtain rfl := eq_of_mem_segments hins rfl
        have hu : ¬t.store.Unused id := fun hu => hi ⟨id, rfl, allows_proceed.mp ha, hu⟩
        have hstep : t.gateway.after [.insert id] = t.gateway :=
          (Gateway.step_insert_cases t.gateway id).resolve_right fun hs => hu hs.1
        exact ⟨y, by rwa [Move.segments, Task.segments, hstep] at hy⟩

-- The sessions whose starts are going on.
def starting (t : Traffic) : List Handle :=
  t.tasks.filterMap Task.start?

theorem task_mem_of_allows (ha : t.allows m) (he : m.task? = some task) : task ∈ t.tasks := by
  simp only [allows, he, Option.all_some, Bool.and_eq_true] at ha
  exact of_decide_eq_true ha.1

theorem exists_starting_perm (ha : t.allows m) :
    ∃ kept, t.starting.Perm ((m.task?.bind Task.start?).toList ++ kept) ∧
      (t.step m).starting = (m.rest t.gateway).filterMap Task.start? ++ kept := by
  refine ⟨(m.task?.elim t.tasks t.tasks.erase).filterMap Task.start?, ?_, ?_⟩
  case refine_1 =>
    cases he : m.task?
    case none      => simp [starting]
    case some task =>
      have hp := (List.perm_cons_erase (task_mem_of_allows ha he)).filterMap Task.start?
      refine hp.trans (.of_eq ?_)
      cases hs : task.start? <;> simp [hs]
  case refine_2 => rw [step_of_allows ha, starting, List.filterMap_append]

-- Only a start that comes into the store adds to them.
theorem starting_step (t : Traffic) (m : Move) :
    (t.step m).starting.Subperm t.starting ∨
      ∃ id, t.Enters id m ∧ (t.step m).starting.Perm (t.store.next :: t.starting) := by
  by_cases ha : t.allows m
  case neg => exact .inl (by rw [step_of_not_allows ha])
  case pos =>
    obtain ⟨kept, hold, hnew⟩ := exists_starting_perm ha
    have hnone : (m.rest t.gateway).filterMap Task.start? = [] →
        (t.step m).starting.Subperm t.starting := by
      intro hr
      rw [hnew, hr]
      exact (List.sublist_append_right _ _).subperm.trans hold.symm.subperm
    by_cases hn : ∃ id, m = .proceed (.entering id)
    case neg =>
      push Not at hn
      rcases Move.filterMap_rest hn with hr | hr
      case inl => exact .inl (hnone hr)
      case inr => exact .inl (by rw [hnew, hr]; exact hold.symm.subperm)
    case pos =>
      obtain ⟨id, rfl⟩ := hn
      rcases Task.rest_entering_cases t.gateway id with hr | ⟨hu, hr⟩
      case inl => exact .inl (hnone (by rw [Move.rest, hr]; rfl))
      case inr =>
        refine .inr ⟨id, ⟨rfl, allows_proceed.mp ha, hu⟩, ?_⟩
        rw [hnew, Move.rest, hr]
        exact hold.symm.cons _

theorem Opens.starting_perm (ho : t.Opens h m) : t.starting.Perm (h :: (t.step m).starting) := by
  obtain ⟨rfl, hm⟩ := ho
  rw [step_proceed hm]
  exact (List.perm_cons_erase hm).filterMap Task.start?

theorem Opens.session? (ho : t.Opens h m) (hx : t.store.session? h = some x) :
    (t.step m).store.session? h = some x.activate := by
  rw [store, ho.step_eq, Gateway.activate, session?_modify, if_pos rfl, hx]
  rfl

-- Every session has one start, which makes it active in its end.
structure Orderly (t : Traffic) : Prop where
  named   : t.store.Named
  once    : t.starting.Nodup
  pending : ∀ h ∈ t.starting, ∃ x, t.store.session? h = some x ∧ x.state ≠ .active
  fresh   : ∀ {h x}, t.store.session? h = some x → x.state = .opening → (x.id, h) ∈ t.store.live

namespace Orderly

theorem of_idle : idle.Orderly where
  named   := .empty
  once    := .nil
  pending := by simp [starting, idle]
  fresh   := by simp [idle, Gateway.stopped, SessionStore.empty, SessionStore.session?]

theorem once_step (ho : t.Orderly) : (t.step m).starting.Nodup := by
  rcases starting_step t m with hs | ⟨_, _, hs⟩
  case inl =>
    have hcount := List.nodup_iff_count_le_one.mp ho.once
    exact List.nodup_iff_count_le_one.mpr fun h => Nat.le_trans (hs.count_le h) (hcount h)
  case inr =>
    refine hs.nodup_iff.mpr (List.nodup_cons.mpr ⟨fun hm => ?_, ho.once⟩)
    obtain ⟨x, hx, _⟩ := ho.pending _ hm
    exact absurd (lt_next_of_session? hx) (Nat.lt_irrefl _)

theorem pending_step (ho : t.Orderly) (hm : h ∈ (t.step m).starting) :
    ∃ y, (t.step m).store.session? h = some y ∧ y.state ≠ .active := by
  have hn : ¬t.Opens h m := by
    intro hop
    have hnodup := hop.starting_perm.nodup_iff.mp ho.once
    exact (List.nodup_cons.mp hnodup).1 hm
  have old : h ∈ t.starting → ∃ y, (t.step m).store.session? h = some y ∧ y.state ≠ .active := by
    intro hold
    obtain ⟨x, hx, hactive⟩ := ho.pending h hold
    obtain ⟨y, hy⟩ := becomes_step ho.named hx hn
    refine ⟨y, hy.session, ?_⟩
    rcases hy.stage with ⟨he, _⟩ | ⟨_, he⟩
    case inl => exact he ▸ hactive
    case inr => simp [he]
  rcases starting_step t m with hs | ⟨id, he, hs⟩
  case inl => exact old (hs.subset hm)
  case inr =>
    rcases List.mem_cons.mp (hs.mem_iff.mp hm) with rfl | hm
    case inr => exact old hm
    case inl =>
      refine ⟨.fresh id, ?_, by simp [Session.fresh]⟩
      rw [store, he.step_eq, session?_place, if_pos rfl]

theorem fresh_step (ho : t.Orderly) (hy : (t.step m).store.session? h = some y)
    (hs : y.state = .opening) : (y.id, h) ∈ (t.step m).store.live := by
  rcases exists_session?_step ho.named hy with ⟨x, hx⟩ | ⟨id, he, rfl, rfl⟩
  case inr => simp [store, he.step_eq, SessionStore.place, Session.fresh, next]
  case inl =>
    by_cases hop : t.Opens h m
    case pos =>
      cases (hop.session? hx).symm.trans hy
      cases hs
    case neg =>
      obtain ⟨z, hz⟩ := becomes_step ho.named hx hop
      cases hz.session.symm.trans hy
      rcases hz.stage with ⟨he, hm⟩ | ⟨_, he⟩
      case inl => exact hz.id_eq ▸ hm.mpr (ho.fresh hx (he.symm.trans hs))
      case inr => cases hs.symm.trans he

theorem step (ho : t.Orderly) : (t.step m).Orderly where
  named   := named_step ho.named
  once    := ho.once_step
  pending := fun _ => ho.pending_step
  fresh   := ho.fresh_step

theorem of_after : (idle.after ms).Orderly := by
  induction ms using List.reverseRecOn
  case nil                      => exact of_idle
  case append_singleton ms m hi => exact after_concat ▸ hi.step

end Orderly

-- How a move changes the state of a session.
inductive Change (t : Traffic) (m : Move) (h : Handle) : SessionState → SessionState → Prop
  | keeps (state) : Change t m h state state
  | opens (ho : t.Opens h m) : Change t m h .opening .active
  | closes {state} (hs : state ≠ .closed) : Change t m h state .closed
  | reopens (ho : t.Opens h m) : Change t m h .closed .active

-- A start comes to a good end after its session was closed.
def Reopens (h : Handle) (t : Traffic) (m : Move) : Prop :=
  t.Opens h m ∧ ∃ x, t.store.session? h = some x ∧ x.state = .closed

theorem change_step (hn : t.store.Named) (hx : t.store.session? h = some x) :
    ∃ y, (t.step m).store.session? h = some y ∧ y.id = x.id ∧ Change t m h x.state y.state := by
  by_cases ho : t.Opens h m
  case pos =>
    refine ⟨x.activate, ho.session? hx, rfl, ?_⟩
    have hactive : x.activate.state = .active := rfl
    rw [hactive]
    cases x.state
    case opening => exact .opens ho
    case active  => exact .keeps _
    case closed  => exact .reopens ho
  case neg =>
    obtain ⟨y, hy⟩ := becomes_step hn hx ho
    refine ⟨y, hy.session, hy.id_eq, ?_⟩
    rcases hy.stage with ⟨he, _⟩ | ⟨hm, he⟩
    case inl => exact he ▸ .keeps _
    case inr =>
      obtain ⟨z, hz, _, hl⟩ := hn.keyed hm
      cases hx.symm.trans hz
      exact he ▸ .closes (of_decide_eq_true hl)

theorem retired_subset_step (hn : t.store.Named) : t.store.retired ⊆ (t.step m).store.retired := by
  rcases step_run_or_eq with he | ⟨_, he⟩
  all_goals rw [store, store, he]
  case inl => exact List.Subset.refl _
  case inr => exact Gateway.retired_subset_after hn

namespace Orderly

-- Each session is either in the store or retired.
theorem standing (ho : t.Orderly) (hx : t.store.session? h = some x) :
    ((x.id, h) ∈ t.store.live ∧ x.id ∉ t.store.retired ∧ x.state ≠ .closed) ∨
      (x.id ∉ t.store.ids ∧ x.id ∈ t.store.retired ∧ x.state ≠ .opening) := by
  rcases not_unused_iff.mp (ho.named.used hx) with hi | hr
  case inl =>
    obtain ⟨h', hm⟩ := mem_ids_iff.mp hi
    obtain ⟨y, hy, hid, hl⟩ := ho.named.keyed hm
    cases ho.named.unique hy hx hid
    cases hx.symm.trans hy
    exact .inl ⟨hm, fun hr => ho.named.disjoint hr hi, of_decide_eq_true hl⟩
  case inr =>
    have hi : x.id ∉ t.store.ids := ho.named.disjoint hr
    exact .inr ⟨hi, hr, fun hs => hi (mem_ids_iff.mpr ⟨h, ho.fresh hx hs⟩)⟩

theorem live_iff (ho : t.Orderly) (hx : t.store.session? h = some x) :
    (x.id, h) ∈ t.store.live ↔ x.id ∉ t.store.retired := by
  have := ho.standing hx
  have := @mem_ids_iff t.store x.id
  grind

theorem retired_of_closed (ho : t.Orderly) (hx : t.store.session? h = some x)
    (hc : x.state = .closed) : x.id ∈ t.store.retired := by
  have := ho.standing hx
  grind

theorem closed_step (ho : t.Orderly) (hx : t.store.session? h = some x) (hc : x.state = .closed)
    (hs : h ∉ t.starting) :
    h ∉ (t.step m).starting ∧ ∃ y, (t.step m).store.session? h = some y ∧ y.state = .closed := by
  have hn : ¬t.Opens h m := fun hop => hs (hop.starting_perm.mem_iff.mpr List.mem_cons_self)
  constructor
  case left =>
    intro hm
    rcases starting_step t m with hsub | ⟨_, _, hperm⟩
    case inl => exact hs (hsub.subset hm)
    case inr =>
      rcases List.mem_cons.mp (hperm.mem_iff.mp hm) with rfl | hm
      case inl => exact Nat.lt_irrefl _ (lt_next_of_session? hx)
      case inr => exact hs hm
  case right =>
    obtain ⟨y, hy⟩ := becomes_step ho.named hx hn
    refine ⟨y, hy.session, ?_⟩
    rcases hy.stage with ⟨he, _⟩ | ⟨_, he⟩
    case inl => exact he.trans hc
    case inr => exact he

theorem closed_after (ho : t.Orderly) (hx : t.store.session? h = some x) (hc : x.state = .closed)
    (hs : h ∉ t.starting) : ∃ y, (t.after ms).store.session? h = some y ∧ y.state = .closed := by
  induction ms generalizing t x
  case nil          => exact ⟨x, hx, hc⟩
  case cons m ms hi =>
    obtain ⟨hs, y, hy, hc⟩ := ho.closed_step hx hc hs
    exact hi ho.step hy hc hs

theorem retired_after (ho : t.Orderly) : t.store.retired ⊆ (t.after ms).store.retired := by
  induction ms generalizing t
  case nil          => exact List.Subset.refl _
  case cons m ms hi => exact List.Subset.trans (retired_subset_step ho.named) (hi ho.step)

theorem after (ho : t.Orderly) : (t.after ms).Orderly := by
  induction ms generalizing t
  case nil          => exact ho
  case cons m ms hi => exact hi ho.step

end Orderly

-- The session has left the store and is active all the same.
def Revived (t : Traffic) (h : Handle) : Prop :=
  ∃ x, t.store.session? h = some x ∧ x.state = .active ∧ x.id ∈ t.store.retired

theorem Opens.retired_eq (ho : t.Opens h m) : (t.step m).store.retired = t.store.retired := by
  rw [store, ho.step_eq]
  rfl

theorem Revived.step (ho : t.Orderly) (hr : t.Revived h) : (t.step m).Revived h := by
  obtain ⟨x, hx, ha, hr⟩ := hr
  have hr' : x.id ∈ (t.step m).store.retired := retired_subset_step ho.named hr
  by_cases hop : t.Opens h m
  case pos => exact ⟨x.activate, hop.session? hx, rfl, hr'⟩
  case neg =>
    obtain ⟨y, hy⟩ := becomes_step ho.named hx hop
    refine ⟨y, hy.session, ?_, hy.id_eq ▸ hr'⟩
    rcases hy.stage with ⟨he, _⟩ | ⟨hm, _⟩
    case inl => exact he.trans ha
    case inr => exact absurd hr ((ho.live_iff hx).mp hm)

theorem Reopens.revived (ho : t.Orderly) (hr : Reopens h t m) : (t.step m).Revived h := by
  obtain ⟨hop, x, hx, hc⟩ := hr
  have hr : x.id ∈ t.store.retired := ho.retired_of_closed hx hc
  exact ⟨x.activate, hop.session? hx, rfl, hop.retired_eq ▸ hr⟩

theorem revived_cases (ho : t.Orderly) (hr : (t.step m).Revived h) :
    t.Revived h ∨ Reopens h t m := by
  obtain ⟨y, hy, ha, hr⟩ := hr
  rcases exists_session?_step ho.named hy with ⟨x, hx⟩ | ⟨id, _, _, rfl⟩
  case inr => cases ha
  case inl =>
    by_cases hop : t.Opens h m
    case pos =>
      cases (hop.session? hx).symm.trans hy
      have hr : x.id ∈ t.store.retired := hop.retired_eq ▸ hr
      cases hs : x.state
      case opening => exact absurd hr ((ho.live_iff hx).mp (ho.fresh hx hs))
      case active  => exact .inl ⟨x, hx, hs, hr⟩
      case closed  => exact .inr ⟨hop, x, hx, hs⟩
    case neg =>
      obtain ⟨z, hz⟩ := becomes_step ho.named hx hop
      cases hz.session.symm.trans hy
      rcases hz.stage with ⟨he, hm⟩ | ⟨_, he⟩
      case inr => cases ha.symm.trans he
      case inl =>
        have hl : (x.id, h) ∉ t.store.live :=
          fun hl => (ho.step.live_iff hy).mp (hz.id_eq ▸ hm.mpr hl) hr
        exact .inl ⟨x, hx, he ▸ ha, not_not.mp ((ho.live_iff hx).not.mp hl)⟩

theorem revived_iff : (idle.after ms).Revived h ↔ Happened (Reopens h) ms := by
  induction ms using List.reverseRecOn
  case nil =>
    refine iff_of_false ?_ not_happened_nil
    rintro ⟨_, hx, _⟩
    cases hx
  case append_singleton ms m hi =>
    rw [after_concat, happened_concat, ← hi]
    constructor
    case mp => exact revived_cases .of_after
    case mpr =>
      rintro (hr | hr)
      case inl => exact hr.step .of_after
      case inr => exact hr.revived .of_after

-- The end of a start does not look whether its session was closed meanwhile, and makes it active
-- anyway.
structure Closing (t : Traffic) (reopened : Handle → Prop) : Prop where
  standing : ∀ h x, t.store.session? h = some x →
    ((x.id, h) ∈ t.store.live ∧ x.id ∉ t.store.retired ∧ x.state ≠ .closed) ∨
      (x.id ∉ t.store.ids ∧ x.id ∈ t.store.retired ∧ x.state ≠ .opening)
  change   : ∀ m h x, t.store.session? h = some x →
    ∃ y, (t.step m).store.session? h = some y ∧ y.id = x.id ∧ Change t m h x.state y.state
  closed   : ∀ h x, t.store.session? h = some x → ¬reopened h →
    (x.state = .closed ↔ x.id ∈ t.store.retired)
  revived  : ∀ h, reopened h ↔ t.Revived h
  -- The start of an active session is over.
  started  : ∀ h x, t.store.session? h = some x → x.state = .active → h ∉ t.starting
  final    : ∀ h x, t.store.session? h = some x → x.state = .closed → h ∉ t.starting →
    ∀ ms, ∃ y, (t.after ms).store.session? h = some y ∧ y.state = .closed
  retired  : ∀ id ∈ t.store.retired, ∀ ms,
    id ∈ (t.after ms).store.retired ∧ (t.after ms).store.get? (some id) = none

theorem closing (ms : List Move) : Closing (idle.after ms) fun h => Happened (Reopens h) ms := by
  have ho : (idle.after ms).Orderly := .of_after
  exact {
    standing := fun _ _ => ho.standing
    change   := fun _ _ _ => change_step ho.named
    closed   := by
      intro h x hx hn
      have hs := ho.standing hx
      refine ⟨ho.retired_of_closed hx, fun hr => ?_⟩
      cases hstate : x.state
      case opening => exact absurd hstate (hs.resolve_left fun hl => hl.2.1 hr).2.2
      case active  => exact absurd (revived_iff.mp ⟨x, hx, hstate, hr⟩) hn
      case closed  => rfl
    revived  := fun _ => revived_iff.symm
    started  := by
      intro h x hx ha hm
      obtain ⟨y, hy, hn⟩ := ho.pending h hm
      cases hx.symm.trans hy
      exact hn ha
    final    := fun _ _ hx hc hs _ => ho.closed_after hx hc hs
    retired  := by
      intro id hr ms'
      have hr : id ∈ ((idle.after ms).after ms').store.retired := ho.retired_after hr
      refine ⟨hr, ho.after.named.get?_eq_none_iff.mpr ?_⟩
      intro id' he _
      exact Option.some.inj he ▸ ho.after.named.disjoint hr }

-- The session is closed by a client that knows it before its start comes to its end.
theorem closed_reopens :
    ¬∀ ms ms' h x y, (idle.after ms).store.session? h = some x → x.state = .closed →
      ((idle.after ms).after ms').store.session? h = some y → y.state = .closed := by
  intro hc
  have hclosed := hc [.run, .letIn "3e7a", .proceed (.entering "3e7a"), .proceed (.awaiting 0),
    .resolve (some "3e7a"), .hangUp 0, .proceed (.serving 0), .proceed (.leaving 0)]
    [.proceed (.opening 0)] 0 _ _ rfl rfl rfl
  cases hclosed

end Traffic
end ComponentCatalog
