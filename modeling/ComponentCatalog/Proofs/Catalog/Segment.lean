import ComponentCatalog.Proofs.Catalog.Loader
import ComponentCatalog.Catalog.Readers

namespace ComponentCatalog

-- How a load ends: with the record of a source and maybe more records, with the defaults, or
-- without any records.
inductive Ending
  | records (first : Component) (rest : List Component)
  | defaults
  | aborted (reason : String)

def Ending.outcome (defaults : List Component) : Ending → Outcome
  | .records first rest => .loaded (first :: rest)
  | .defaults           => .loaded defaults
  | .aborted reason     => .aborted reason

theorem Ending.ne_nil_of_outcome {defaults records : List Component} {e : Ending}
    (hd : defaults ≠ []) (h : e.outcome defaults = .loaded records) : records ≠ [] := by
  cases e <;> simp only [outcome, Outcome.loaded.injEq, reduceCtorEq] at h
  case records  => simp [← h]
  case defaults => exact h ▸ hd

-- Loads may end in any way, readers in line get the lock in any order or give up, a load may be
-- cancelled, and the cache may be emptied at any time.
inductive Segment
  -- a new reader, and how its load ends if it begins one at once
  | arrive (e : Ending)
  -- a reader in line gets the lock
  | wake (r : Nat) (e : Ending)
  -- a reader in line gives up
  | leave (r : Nat)
  -- the load in progress is cancelled
  | interrupt (reason : String)
  -- the load in progress ends
  | finish
  | invalidate

namespace Loader

-- There are no other ends of a load.
theorem exists_ending (l : Loader) (d : Disk) (n : Nat) :
    ∃ e : Ending, l.load d n = e.outcome l.defaults := by
  cases hs : l.scan n d
  case aborted reason => exact ⟨.aborted reason, by simp [load, hs, Ending.outcome]⟩
  case failed         => exact ⟨.defaults, by simp [load, hs, Ending.outcome]⟩
  case paths ps =>
    rw [load_paths hs]
    by_cases hp : l.Parses d ps
    case neg => exact ⟨.defaults, by rw [records, if_neg hp, Ending.outcome]⟩
    case pos =>
      have hf := forall₂_of_parses hp
      cases hr : l.records d ps
      case cons c cs => exact ⟨.records c cs, rfl⟩
      case nil =>
        rw [hr] at hf
        cases hf
        exact absurd rfl hp.1

end Loader

namespace Cache

@[simp]
theorem answer_loaded {c : Cache} {records : List Component} :
    (c.settle (.loaded records)).answer (.loaded records) = .ok records := rfl

@[simp]
theorem answer_aborted {c : Cache} {reason : String} :
    (c.settle (.aborted reason)).answer (.aborted reason) = .error reason := rfl

end Cache

namespace Readers

variable {defaults : List Component} {s s' : Readers} {x : Segment} {served : Served}

def step (defaults : List Component) (s : Readers) : Segment → Readers × Served
  | .arrive e         => s.arrive fun _ => e.outcome defaults
  | .wake r e         =>
    if s.holder.isNone ∧ r ∈ s.waiting then
      { s with waiting := s.waiting.erase r }.enter (fun _ => e.outcome defaults) r
    else (s, none)
  | .leave r          => ({ s with waiting := s.waiting.erase r }, none)
  | .interrupt reason =>
    ({ s with holder := s.holder.map fun (r, _) => (r, .aborted reason) }, none)
  | .finish           => s.finish
  | .invalidate       => (s.clear, none)

-- Readers of a catalog go through these segments.
theorem arrive_eq_step (l : Loader) (d : Disk) :
    ∃ e, s.arrive (l.load d) = s.step l.defaults (.arrive e) := by
  have ⟨e, he⟩ := l.exists_ending d (s.cache.loads + 1)
  exact ⟨e, by simp [step, arrive, enter, Cache.begin, he]⟩

theorem wake_eq_step (l : Loader) (d : Disk) {r : Nat} {rs : List Nat} (hh : s.holder = none)
    (hw : s.waiting = r :: rs) : ∃ e, s.wake (l.load d) = s.step l.defaults (.wake r e) := by
  have ⟨e, he⟩ := l.exists_ending d (s.cache.loads + 1)
  exact ⟨e, by simp [step, wake, hh, hw, enter, Cache.begin, he]⟩

-- What a segment makes of the cache and of the load in progress.
inductive Effect (defaults : List Component) (s : Readers) (x : Segment) (s' : Readers) :
    Served → Prop
  | idles (hc : s'.cache = s.cache) (hh : s'.holder = s.holder) : Effect defaults s x s' none
  | hits (r : Nat) (hp : s.cache.phase = .populated) (hc : s'.cache = s.cache)
    (hh : s'.holder = s.holder) : Effect defaults s x s' (some (r, .ok s.cache.records))
  | begins (r : Nat) (e : Ending) (hp : s.cache.phase ≠ .populated) (hn : s.holder = none)
    (hc : s'.cache = s.cache.begin) (hh : s'.holder = some (r, e.outcome defaults)) :
    Effect defaults s x s' none
  | interrupts (r : Nat) (o : Outcome) (reason : String) (hs : s.holder = some (r, o))
    (hc : s'.cache = s.cache) (hh : s'.holder = some (r, .aborted reason)) :
    Effect defaults s x s' none
  | ends (r : Nat) (o : Outcome) (hs : s.holder = some (r, o)) (hc : s'.cache = s.cache.settle o)
    (hh : s'.holder = none) : Effect defaults s x s' (some (r, (s.cache.settle o).answer o))
  | clears (hx : x = .invalidate) (hc : s'.cache = s.cache.clear) (hh : s'.holder = s.holder) :
    Effect defaults s x s' none

theorem effect_enter {s₀ : Readers} {r : Nat} {e : Ending} (hc : s.cache = s₀.cache)
    (hs : s₀.holder = none) (hh : s.holder = none) :
    Effect defaults s₀ x (s.enter (fun _ => e.outcome defaults) r).1
      (s.enter (fun _ => e.outcome defaults) r).2 := by
  by_cases hp : s.cache.phase = .populated
  case pos =>
    rw [enter, if_pos hp, hc]
    exact .hits r (hc ▸ hp) hc (hh.trans hs.symm)
  case neg =>
    rw [enter, if_neg hp]
    exact .begins r e (hc ▸ hp) hs (congrArg Cache.begin hc) rfl

theorem effect_arrive {e : Ending} :
    Effect defaults s (.arrive e) (s.step defaults (.arrive e)).1
      (s.step defaults (.arrive e)).2 := by
  simp only [step, arrive]
  by_cases hp : s.cache.phase = .populated
  case pos =>
    rw [if_pos hp]
    exact .hits _ hp rfl rfl
  case neg =>
    rw [if_neg hp]
    split
    case isFalse => exact .idles rfl rfl
    case isTrue hi =>
      have hn : s.holder = none := by simpa [idle] using (Bool.and_eq_true_iff.mp hi).1
      exact effect_enter rfl hn hn

theorem effect_finish : Effect defaults s x s.finish.1 s.finish.2 := by
  cases h : s.holder
  case none => simp only [finish, h]; exact .idles rfl rfl
  case some held =>
    have ⟨r, o⟩ := held
    simp only [finish, h]
    exact .ends r o h rfl rfl

theorem effect_step : Effect defaults s x (s.step defaults x).1 (s.step defaults x).2 := by
  cases x
  case arrive e => exact effect_arrive
  case leave r  => exact .idles rfl rfl
  case finish   => exact effect_finish
  case invalidate => exact .clears rfl rfl rfl
  case wake r e =>
    simp only [step]
    split
    case isFalse => exact .idles rfl rfl
    case isTrue h =>
      have hn : s.holder = none := Option.isNone_iff_eq_none.mp h.1
      exact effect_enter rfl hn hn
  case interrupt reason =>
    cases h : s.holder
    case none      => simp only [step, h]; exact .idles rfl h.symm
    case some held => simp only [step, h]; exact .interrupts held.1 held.2 reason h rfl rfl

-- What always holds between two segments.
structure Steady (s : Readers) : Prop where
  populated : s.cache.phase = .populated ↔ s.cache.records ≠ []
  stamped   : s.cache.stamped ↔ s.cache.records ≠ []
  loading   : s.cache.phase = .loading → s.holder.isSome
  holding   : ∀ r o, s.holder = some (r, o) → s.cache.phase ≠ .populated
  brings    : ∀ r records, s.holder = some (r, .loaded records) → records ≠ []

theorem steady_initial : Steady initial := by
  constructor <;> simp [initial, Cache.initial]

theorem Steady.records_eq_nil (hs : s.Steady) (hp : s.cache.phase ≠ .populated) :
    s.cache.records = [] := by
  by_contra hr
  exact hp <| hs.populated.mpr hr

theorem Steady.of_eq (hs : s.Steady) (hc : s'.cache = s.cache) (hh : s'.holder = s.holder) :
    s'.Steady where
  populated := hc ▸ hs.populated
  stamped   := hc ▸ hs.stamped
  loading   := hc ▸ hh ▸ hs.loading
  holding   := hc ▸ hh ▸ hs.holding
  brings    := hh ▸ hs.brings

theorem Steady.settle {r : Nat} {o : Outcome} (hs : s.Steady) (hh : s.holder = some (r, o))
    (hc : s'.cache = s.cache.settle o) (hn : s'.holder = none) : s'.Steady := by
  cases o
  case loaded records =>
    have hr := hs.brings r records hh
    constructor <;> simp [hc, hn, Cache.settle, hr]
  case aborted reason =>
    have hr := hs.records_eq_nil (hs.holding r _ hh)
    have ht := hs.stamped
    constructor <;> simp_all [Cache.settle]

theorem Steady.step (hd : defaults ≠ []) (hs : s.Steady) : (s.step defaults x).1.Steady := by
  have he : Effect defaults s x (s.step defaults x).1 (s.step defaults x).2 := effect_step
  generalize (s.step defaults x).1 = s', (s.step defaults x).2 = served at he
  cases he
  case idles hc hh      => exact hs.of_eq hc hh
  case hits hc hh       => exact hs.of_eq hc hh
  case ends hh₀ hc hh   => exact hs.settle hh₀ hc hh
  case begins r e hp hn hc hh =>
    have hr := hs.records_eq_nil hp
    have ht := hs.stamped
    constructor
    case brings =>
      intro r' records h
      rw [hh, Option.some.injEq, Prod.mk.injEq] at h
      exact e.ne_nil_of_outcome hd h.2
    all_goals simp_all [Cache.begin]
  case interrupts r o reason hh₀ hc hh =>
    have hp := hs.holding r o hh₀
    refine ⟨hc ▸ hs.populated, hc ▸ hs.stamped, fun _ => by simp [hh], fun _ _ _ => hc ▸ hp, ?_⟩
    simp [hh]
  case clears hc hh =>
    refine ⟨?_, ?_, ?_, ?_, hh ▸ hs.brings⟩
    all_goals simp [hc, Cache.clear]

end Readers
end ComponentCatalog
