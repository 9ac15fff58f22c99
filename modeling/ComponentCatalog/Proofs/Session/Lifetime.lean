import ComponentCatalog.Proofs.Session.Store
import Mathlib.Data.List.Induction

namespace ComponentCatalog.SessionStore

-- What is done to a store from outside. Each addition is of a new session.
inductive Step
  | add (id : String)
  | activate (id : String)
  | get (name : Option String)
  | remove (id : String)
  | removeAll

inductive Result
  | done
  | added (h : Handle)
  | refused (e : SessionError)
  | found (h : Option Handle)
  | removed (h : Option Handle)
  | cleared (hs : List Handle)

-- Only a session of the store can be activated.
def step (s : SessionStore) : Step → SessionStore × Result
  | .add id      =>
    let (made, h) := s.make id
    match made.add id h with
    | .ok s    => (s, .added h)
    | .error e => (made, .refused e)
  | .activate id =>
    match s.live.lookup id with
    | some h => (s.modify h .activate, .done)
    | none   => (s, .done)
  | .get name    => (s, .found (s.get? name))
  | .remove id   =>
    let (s, h) := s.remove id
    (s, .removed h)
  | .removeAll   =>
    let (s, hs) := s.removeAll
    (s, .cleared hs)

def after (s : SessionStore) (xs : List Step) : SessionStore :=
  xs.foldl (fun s x => (s.step x).1) s

-- A step and what it answers.
abbrev Moment := Step × Result

namespace Moment

def added? : Moment → Option String
  | (.add id, .added _) => some id
  | _                   => none

def takenOut : Moment → List Handle
  | (_, .removed h)  => h.toList
  | (_, .cleared hs) => hs
  | _                => []

end Moment

def history (s : SessionStore) : List Step → List Moment
  | []      => []
  | x :: xs => (x, (s.step x).2) :: (s.step x).1.history xs

variable {s s' : SessionStore} {x : Step} {xs : List Step}

theorem after_concat : s.after (xs ++ [x]) = ((s.after xs).step x).1 := by
  simp [after]

theorem after_append {ys : List Step} : s.after (xs ++ ys) = (s.after xs).after ys := by
  simp [after]

theorem history_append {ys : List Step} :
    s.history (xs ++ ys) = s.history xs ++ (s.after xs).history ys := by
  induction xs generalizing s
  case nil          => rfl
  case cons y xs hi => simp [history, hi, after]

theorem history_concat :
    s.history (xs ++ [x]) = s.history xs ++ [(x, ((s.after xs).step x).2)] := by
  simp [history_append, history]

-- The ids that sessions were added under, and the sessions that were taken out.
def given (ms : List Moment) : List String :=
  ms.filterMap Moment.added?

def taken (ms : List Moment) : List Handle :=
  ms.flatMap Moment.takenOut

theorem given_concat {ms : List Moment} {m : Moment} :
    given (ms ++ [m]) = given ms ++ m.added?.toList := by
  simp only [given, List.filterMap_append]
  cases h : m.added? <;> simp [h]

theorem taken_concat {ms : List Moment} {m : Moment} :
    taken (ms ++ [m]) = taken ms ++ m.takenOut := by
  simp [taken]

-- The store with a new session of an id that is still unused.
def place (s : SessionStore) (id : String) : SessionStore where
  known   := s.known ++ [.fresh id]
  live    := s.live ++ [(id, s.known.length)]
  retired := s.retired

-- `out` has left the live entries, its ids are retired, and its sessions are closed.
structure Takes (s s' : SessionStore) (out : List (String × Handle)) : Prop where
  live    : s.live.Perm (out ++ s'.live)
  retired : s'.retired = s.retired ++ out.map Prod.fst
  closed  : ∀ h, s'.session? h =
    if h ∈ out.map Prod.snd then (s.session? h).map .close else s.session? h

-- What a step does, with the ids that it gives away and the sessions that it takes out.
inductive Effect (s s' : SessionStore) : List String → List Handle → Prop
  | keeps (hl : s'.live = s.live) (hr : s'.retired = s.retired)
    (hk : ∀ h y, s.session? h = some y → s'.session? h = some y) : Effect s s' [] []
  | activates (id h) (hm : (id, h) ∈ s.live) (he : s' = s.modify h .activate) : Effect s s' [] []
  | gives (id) (hu : s.Unused id) (he : s' = s.place id) : Effect s s' [id] []
  | takes (out) (ht : Takes s s' out) : Effect s s' [] (out.map Prod.snd)

variable {id : String} {h : Handle} {hs : List Handle} {y : Session}

-- Closing a session twice is closing it once.
theorem session?_foldl_close :
    (hs.foldl (·.modify · .close) s).session? h =
      if h ∈ hs then (s.session? h).map .close else s.session? h := by
  induction hs generalizing s
  case nil => rfl
  case cons h' hs hi =>
    rw [List.foldl_cons, hi, session?_modify]
    by_cases he : h' = h
    case pos =>
      have hc : Session.close ∘ Session.close = Session.close := rfl
      simp [he, hc]
    case neg => simp [he, Ne.symm he]

@[simp]
theorem live_foldl_close : (hs.foldl (·.modify · .close) s).live = s.live := by
  induction hs generalizing s
  case nil       => rfl
  case cons _ hi => rw [List.foldl_cons, hi, modify_live]

@[simp]
theorem retired_foldl_close : (hs.foldl (·.modify · .close) s).retired = s.retired := by
  induction hs generalizing s
  case nil       => rfl
  case cons _ hi => rw [List.foldl_cons, hi, modify_retired]

theorem make_session? (hy : s.session? h = some y) :
    (s.make id).1.session? h = some y := by
  have ⟨hl, _⟩ := List.getElem?_eq_some_iff.mp hy
  exact (List.getElem?_append_left hl).trans hy

-- The entry of an id in front, and those of all other ids behind it.
theorem perm_filter_ne (hn : s.ids.Nodup) (hm : (id, h) ∈ s.live) :
    s.live.Perm ((id, h) :: s.live.filter (·.1 ≠ id)) := by
  obtain ⟨l₁, l₂, he⟩ := List.append_of_mem hm
  rw [ids, he, List.map_append, List.map_cons, List.nodup_middle, List.nodup_cons] at hn
  have hf : (l₁ ++ l₂).filter (·.1 ≠ id) = l₁ ++ l₂ := by
    refine List.filter_eq_self.mpr fun e hme => decide_eq_true ?_
    rintro rfl
    exact hn.1 (List.map_append ▸ List.mem_map.mpr ⟨e, hme, rfl⟩)
  have hr : s.live.filter (·.1 ≠ id) = l₁ ++ l₂ := by
    rw [he, List.filter_append, List.filter_cons_of_neg (by simp), ← List.filter_append, hf]
  rw [hr, he]
  exact List.perm_middle

theorem takes_remove (hn : s.ids.Nodup) (hl : s.live.lookup id = some h) :
    Takes s (s.remove id).1 [(id, h)] := by
  rw [remove_of_lookup hl]
  constructor
  case live    => exact perm_filter_ne hn (mem_of_lookup hl)
  case retired => simp
  case closed  =>
    intro h'
    rw [session?_modify]
    simp [session?, eq_comm]

theorem takes_removeAll : Takes s s.removeAll.1 s.live := by
  constructor
  case live    => simp [removeAll]
  case retired => simp [removeAll, ids]
  case closed  => exact fun h => session?_foldl_close

theorem effect_step (hs : s.Sound) :
    Effect s (s.step x).1 (Moment.added? (x, (s.step x).2)).toList
      (Moment.takenOut (x, (s.step x).2)) := by
  cases x
  case get name => exact .keeps rfl rfl fun _ _ hy => hy
  case removeAll => exact .takes s.live takes_removeAll
  case add id =>
    by_cases hu : s.Unused id
    case pos =>
      have hu' : (s.make id).1.Unused id := hu
      simp only [step, add_of_unused hu']
      exact .gives id hu rfl
    case neg =>
      have hu' : ¬(s.make id).1.Unused id := hu
      simp only [step, add_of_used hu']
      exact .keeps rfl rfl fun _ _ hy => make_session? hy
  case activate id =>
    cases hl : s.live.lookup id
    case none =>
      simp only [step, hl]
      exact .keeps rfl rfl fun _ _ hy => hy
    case some h =>
      simp only [step, hl]
      exact .activates id h (mem_of_lookup hl) rfl
  case remove id =>
    cases hl : s.live.lookup id
    case none =>
      simp only [step, remove, hl]
      exact .keeps rfl rfl fun _ _ hy => hy
    case some h =>
      have he : (s.remove id).2 = some h := by rw [remove_of_lookup hl]
      simp only [step, he]
      exact .takes [(id, h)] (takes_remove hs.distinct hl)

-- The ids that were given away are live or retired, and the sessions that were taken out are closed
-- and their ids retired.
structure Kept (s : SessionStore) (ids : List String) (hs : List Handle) : Prop
    extends s.Sound where
  given  : ∀ id, id ∈ ids ↔ id ∈ s.ids ∨ id ∈ s.retired
  closed : ∀ h ∈ hs, ∃ y, s.session? h = some y ∧ y.state = .closed ∧ y.ended ∧ y.id ∈ s.retired
  once   : hs.Nodup

theorem kept_empty : Kept empty [] [] where
  toSound := .empty
  given   := by simp [SessionStore.ids, empty]
  closed  := by simp
  once    := .nil

variable {gs : List String} {ts : List Handle}

theorem Kept.keeps (hk : Kept s gs ts) (hl : s'.live = s.live) (hr : s'.retired = s.retired)
    (hp : ∀ h y, s.session? h = some y → s'.session? h = some y) : Kept s' gs ts := by
  have hi : s'.ids = s.ids := by rw [ids, hl, ids]
  constructor
  case once  => exact hk.once
  case given => rw [hi, hr]; exact hk.given
  case closed =>
    intro h hm
    obtain ⟨y, hy, hc⟩ := hk.closed h hm
    exact ⟨y, hp h y hy, hr ▸ hc⟩
  case toSound =>
    constructor
    case distinct => exact hi ▸ hk.distinct
    case disjoint => rw [hi, hr]; exact hk.disjoint
    case keyed =>
      intro id h hm
      obtain ⟨y, hy, hc⟩ := hk.keyed (hl ▸ hm)
      exact ⟨y, hp h y hy, hc⟩

theorem Kept.activates (hk : Kept s gs ts) (hm : (id, h) ∈ s.live) :
    Kept (s.modify h .activate) gs ts := by
  constructor
  case once  => exact hk.once
  case given => exact hk.given
  case closed =>
    intro h' hm'
    have ⟨y, hy, hc, hr⟩ := hk.closed h' hm'
    have ⟨z, hz, _, hl⟩ := hk.keyed hm
    -- The activated session is live, and this one is closed.
    have hne : h ≠ h' := by
      rintro rfl
      cases hy.symm.trans hz
      simp [Session.isLive, hc] at hl
    exact ⟨y, by rw [session?_modify, if_neg hne, hy], hc, hr⟩
  case toSound =>
    refine ⟨hk.distinct, ?_, hk.disjoint⟩
    intro id' h' hm'
    have ⟨y, hy, hi, hl⟩ := hk.keyed hm'
    rw [session?_modify]
    split
    case isTrue  =>
      exact ⟨y.activate, by rw [hy]; rfl, hi, by simp [Session.isLive, Session.activate]⟩
    case isFalse => exact ⟨y, hy, hi, hl⟩

theorem ids_place : (s.place id).ids = s.ids ++ [id] := by
  simp [ids, place]

theorem Kept.gives (hk : Kept s gs ts) (hu : s.Unused id) :
    Kept (s.place id) (gs ++ [id]) ts := by
  have hp : ∀ h y, s.session? h = some y → (s.place id).session? h = some y := by
    intro h y hy
    have hm : (s.make id).1.session? h = some y := make_session? hy
    exact hm
  constructor
  case once => exact hk.once
  case given =>
    intro i
    rw [ids_place, List.mem_append, List.mem_append, hk.given]
    exact or_right_comm
  case closed =>
    intro h hm
    have ⟨y, hy, hc⟩ := hk.closed h hm
    exact ⟨y, hp h y hy, hc⟩
  case toSound =>
    constructor
    case distinct =>
      rw [ids_place]
      exact List.nodup_append.mpr ⟨hk.distinct, List.nodup_singleton _, by grind [hu.1]⟩
    case disjoint =>
      intro i hr
      rw [ids_place, List.mem_append, List.mem_singleton, not_or]
      exact ⟨hk.disjoint hr, fun he => hu.2 (he ▸ hr)⟩
    case keyed =>
      intro i h hm
      rcases List.mem_append.mp hm with hm | hm
      case inl =>
        have ⟨y, hy, hc⟩ := hk.keyed hm
        exact ⟨y, hp h y hy, hc⟩
      case inr =>
        cases List.mem_singleton.mp hm
        exact ⟨.fresh id, by simp [session?, place], rfl, by simp [Session.isLive, Session.fresh]⟩

theorem Sound.handles_nodup (hs : s.Sound) : (s.live.map Prod.snd).Nodup := by
  refine (List.Nodup.of_map _ hs.distinct).map_on ?_
  rintro ⟨i, h⟩ hm ⟨j, _⟩ hm' rfl
  rw [hs.handle_injective hm hm']

namespace Takes

variable {out : List (String × Handle)}

theorem ids_perm (ht : Takes s s' out) : s.ids.Perm (out.map Prod.fst ++ s'.ids) := by
  simpa [ids] using ht.live.map Prod.fst

theorem taken_subset (ht : Takes s s' out) : out ⊆ s.live :=
  fun _ he => ht.live.mem_iff.mpr (List.mem_append_left _ he)

theorem left_subset (ht : Takes s s' out) : s'.live ⊆ s.live :=
  fun _ he => ht.live.mem_iff.mpr (List.mem_append_right _ he)

theorem sound (ht : Takes s s' out) (hs : s.Sound) : s'.Sound := by
  obtain ⟨_, hn, hd⟩ := List.nodup_append.mp <| ht.ids_perm.nodup_iff.mp hs.distinct
  constructor
  case distinct => exact hn
  case disjoint =>
    intro i hr hi
    rw [ht.retired, List.mem_append] at hr
    rcases hr with hr | hr
    case inl => exact hs.disjoint hr (ht.ids_perm.mem_iff.mpr (List.mem_append_right _ hi))
    case inr => exact hd i hr i hi rfl
  case keyed =>
    intro i h hm
    have ho : h ∉ out.map Prod.snd := by
      intro ho
      obtain ⟨⟨j, _⟩, he, rfl⟩ := List.mem_map.mp ho
      have hji : j = i := hs.handle_injective (ht.taken_subset he) (ht.left_subset hm)
      exact hd j (List.mem_map.mpr ⟨_, he, rfl⟩) i (List.mem_map.mpr ⟨_, hm, rfl⟩) hji
    rw [ht.closed, if_neg ho]
    exact hs.keyed (ht.left_subset hm)

-- No session was taken out before, because all of these were closed then.
theorem not_mem_of_kept (ht : Takes s s' out) (hk : Kept s gs ts) {e : String × Handle}
    (he : e ∈ out) : e.2 ∉ ts := by
  intro hm
  obtain ⟨y, hy, hc, _⟩ := hk.closed _ hm
  obtain ⟨z, hz, _, hl⟩ := hk.keyed (ht.taken_subset he)
  cases hy.symm.trans hz
  simp [Session.isLive, hc] at hl

end Takes

theorem Kept.takes {out : List (String × Handle)} (hk : Kept s gs ts) (ht : Takes s s' out) :
    Kept s' gs (ts ++ out.map Prod.snd) where
  toSound := ht.sound hk.toSound
  given   := by
    intro i
    rw [hk.given, ht.ids_perm.mem_iff, ht.retired, List.mem_append, List.mem_append]
    tauto
  closed  := by
    intro h hm
    rw [ht.closed]
    by_cases ho : h ∈ out.map Prod.snd
    case pos =>
      obtain ⟨⟨i, _⟩, he, rfl⟩ := List.mem_map.mp ho
      obtain ⟨y, hy, hi, _⟩ := hk.keyed (ht.taken_subset he)
      refine ⟨y.close, by rw [if_pos ho, hy]; rfl, rfl, rfl, ?_⟩
      rw [ht.retired]
      exact List.mem_append_right _ (List.mem_map.mpr ⟨_, he, hi.symm⟩)
    case neg =>
      obtain ⟨y, hy, hc, he, hr⟩ := hk.closed h ((List.mem_append.mp hm).resolve_right ho)
      exact ⟨y, by rw [if_neg ho, hy], hc, he, ht.retired ▸ List.mem_append_left _ hr⟩
  once    := by
    have hl : (out.map Prod.snd ++ s'.live.map Prod.snd).Nodup := by
      simpa using (ht.live.map Prod.snd).nodup_iff.mp hk.handles_nodup
    refine List.nodup_append.mpr ⟨hk.once, (List.nodup_append.mp hl).1, ?_⟩
    rintro h hm _ hm' rfl
    obtain ⟨e, he, heh⟩ := List.mem_map.mp hm'
    exact ht.not_mem_of_kept hk he (heh ▸ hm)

theorem Kept.step (hk : Kept s gs ts) :
    Kept (s.step x).1 (gs ++ (Moment.added? (x, (s.step x).2)).toList)
      (ts ++ Moment.takenOut (x, (s.step x).2)) := by
  have he := effect_step (x := x) hk.toSound
  generalize (s.step x).1 = s', (Moment.added? (x, (s.step x).2)).toList = added,
    Moment.takenOut (x, (s.step x).2) = out at he
  cases he
  case keeps hl hr hp         => simpa using hk.keeps hl hr hp
  case activates id h hm he   => simpa [he] using hk.activates hm
  case gives id hu he         => simpa [he] using hk.gives hu
  case takes out ht           => simpa using hk.takes ht

theorem kept_after (xs : List Step) : Kept (empty.after xs) (given (empty.history xs))
    (taken (empty.history xs)) := by
  induction xs using List.reverseRecOn
  case nil => exact kept_empty
  case append_singleton xs x hk =>
    rw [after_concat, history_concat, given_concat, taken_concat]
    exact hk.step

theorem Effect.retired_subset (he : Effect s s' gs ts) : s.retired ⊆ s'.retired := by
  cases he
  case keeps hr _        => exact hr ▸ List.Subset.refl _
  case activates he      => exact he ▸ List.Subset.refl _
  case gives he          => exact he ▸ List.Subset.refl _
  case takes _ ht        => exact ht.retired ▸ List.subset_append_left _ _

theorem retired_subset_after {ys : List Step} :
    (empty.after xs).retired ⊆ ((empty.after xs).after ys).retired := by
  induction ys using List.reverseRecOn
  case nil => exact List.Subset.refl _
  case append_singleton ys x hi =>
    have hk := kept_after (xs ++ ys)
    rw [after_append] at hk
    rw [after_concat]
    exact List.Subset.trans hi (effect_step hk.toSound).retired_subset

theorem taken_subset_after {ys : List Step} :
    taken (empty.history xs) ⊆ taken (empty.history (xs ++ ys)) := by
  simp [history_append, taken]

-- A store after some steps, as the history of these steps tells it.
structure Lifetimes (xs : List Step) : Prop where
  keyed    : ∀ id h, (id, h) ∈ (empty.after xs).live →
    ∃ y, (empty.after xs).session? h = some y ∧ y.id = id ∧ y.isLive
  distinct : (empty.after xs).ids.Nodup
  disjoint : ∀ id ∈ (empty.after xs).retired, id ∉ (empty.after xs).ids
  used     : ∀ id, id ∈ given (empty.history xs) ↔
    id ∈ (empty.after xs).ids ∨ id ∈ (empty.after xs).retired
  -- However the store is used later, these sessions stay closed, and their ids retired.
  closed   : ∀ h ∈ taken (empty.history xs), ∀ ys, ∃ y,
    ((empty.after xs).after ys).session? h = some y ∧ y.state = .closed ∧ y.ended ∧
      y.id ∈ ((empty.after xs).after ys).retired
  retired  : ∀ id ∈ (empty.after xs).retired, ∀ ys, id ∈ ((empty.after xs).after ys).retired
  found    : ∀ name h, (empty.after xs).get? name = some h ↔
    ∃ id, name = some id ∧ id ≠ "" ∧ (id, h) ∈ (empty.after xs).live
  refused  : ∀ id, (∃ e, ((empty.after xs).step (.add id)).2 = .refused e) ↔
    id ∈ given (empty.history xs)
  -- The new session is made, and the store is as before.
  unmoved  : ∀ id ∈ given (empty.history xs), (empty.after xs).step (.add id) =
    (((empty.after xs).make id).1, .refused (.alreadyUsed id))
  removed  : ∀ id h, (id, h) ∈ (empty.after xs).live →
    ((empty.after xs).step (.remove id)).2 = .removed (some h)
  cleared  : ((empty.after xs).step .removeAll).2 = .cleared ((empty.after xs).live.map Prod.snd)
  once     : (taken (empty.history xs)).Nodup

theorem lifetimes (xs : List Step) : Lifetimes xs := by
  have hk := kept_after xs
  have hu : ∀ id, ¬(empty.after xs).Unused id ↔ id ∈ given (empty.history xs) := by
    intro id
    rw [hk.given, Unused, not_and_or, not_not, not_not]
  have hadd : ∀ id ∈ given (empty.history xs), (empty.after xs).step (.add id) =
      (((empty.after xs).make id).1, .refused (.alreadyUsed id)) := by
    intro id hm
    have hn : ¬((empty.after xs).make id).1.Unused id := (hu id).mpr hm
    simp only [step, add_of_used hn]
  constructor
  case keyed    => exact fun _ _ => hk.keyed
  case distinct => exact hk.distinct
  case disjoint => exact fun _ => hk.disjoint
  case used     => exact hk.given
  case closed =>
    intro h hm ys
    rw [← after_append]
    exact (kept_after (xs ++ ys)).closed h (taken_subset_after hm)
  case retired => exact fun _ hr _ => retired_subset_after hr
  case found   => exact fun _ _ => hk.get?_eq_some_iff
  case refused =>
    intro id
    constructor
    case mpr => exact fun hm => ⟨_, congrArg Prod.snd (hadd id hm)⟩
    case mp  =>
      rintro ⟨e, he⟩
      rw [← hu id]
      intro hn
      have hn' : ((empty.after xs).make id).1.Unused id := hn
      simp [step, add_of_unused hn'] at he
  case unmoved => exact hadd
  case removed =>
    intro id h hm
    simp only [step, remove_of_lookup (hk.lookup_eq_some_iff.mpr hm)]
  case cleared => rfl
  case once    => exact hk.once

-- The empty text can be the id of a live session, but names none.
theorem get?_nameless :
    ¬(((empty.after [.add ""]).get? (some "")).isSome ↔ "" ∈ (empty.after [.add ""]).ids) := by
  decide

end ComponentCatalog.SessionStore
