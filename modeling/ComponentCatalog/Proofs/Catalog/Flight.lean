import ComponentCatalog.Proofs.Catalog.Segment
import Mathlib.Data.List.Induction

namespace ComponentCatalog.Readers

-- What a segment has done.
structure Moment where
  before : Readers
  after  : Readers
  served : Served

namespace Moment

-- A reader loads that did not load before.
def begins (m : Moment) : Bool :=
  m.after.holder.any fun h => m.before.holder.all (·.1 ≠ h.1)

-- Nobody loads any more.
def ended? (m : Moment) : Option (Nat × Outcome) :=
  if m.after.holder.isNone then m.before.holder else none

end Moment

-- The loads that have begun, those that have ended, and the answers that readers have got.
structure Tally where
  begun    : Nat
  ended    : List (Nat × Outcome)
  answered : List (Nat × Answer)

namespace Tally

def none : Tally where
  begun    := 0
  ended    := []
  answered := []

def add (t : Tally) (m : Moment) : Tally where
  begun    := t.begun + m.begins.toNat
  ended    := t.ended ++ m.ended?.toList
  answered := t.answered ++ m.served.toList

def of (ms : List Moment) : Tally :=
  ms.foldl add none

theorem of_concat {ms : List Moment} {m : Moment} : of (ms ++ [m]) = (of ms).add m := by
  simp [of]

end Tally

variable {defaults : List Component} {s s' : Readers} {served : Served} {x : Segment}
  {xs : List Segment} {t : Tally}

def after (defaults : List Component) (s : Readers) (xs : List Segment) : Readers :=
  xs.foldl (fun s x => (s.step defaults x).1) s

def history (defaults : List Component) (s : Readers) : List Segment → List Moment
  | []      => []
  | x :: xs =>
    ⟨s, (s.step defaults x).1, (s.step defaults x).2⟩ :: (s.step defaults x).1.history defaults xs

theorem after_concat :
    s.after defaults (xs ++ [x]) = ((s.after defaults xs).step defaults x).1 := by
  simp [after]

theorem history_concat :
    s.history defaults (xs ++ [x]) = s.history defaults xs ++
      [⟨s.after defaults xs, ((s.after defaults xs).step defaults x).1,
        ((s.after defaults xs).step defaults x).2⟩] := by
  induction xs generalizing s
  case nil          => rfl
  case cons y xs hi => simp [history, hi, after]

def Runs (defaults : List Component) (s s' : Readers) : Prop :=
  ∃ xs, s.after defaults xs = s'

namespace Runs

variable {s'' : Readers} {l : Loader} {d : Disk}

theorem refl : Runs defaults s s :=
  ⟨[], rfl⟩

theorem step (x : Segment) : Runs defaults s (s.step defaults x).1 :=
  ⟨[x], rfl⟩

theorem trans (h : Runs defaults s s') (h' : Runs defaults s' s'') : Runs defaults s s'' := by
  obtain ⟨xs, hxs⟩ := h
  obtain ⟨ys, hys⟩ := h'
  exact ⟨xs ++ ys, by rw [after, List.foldl_append, ← hys, ← hxs, after, after]⟩

theorem arrive : Runs l.defaults s (s.arrive (l.load d)).1 := by
  obtain ⟨e, he⟩ := s.arrive_eq_step l d
  exact he ▸ .step (.arrive e)

theorem turn : Runs l.defaults s (s.turn (l.load d)).1 := by
  cases hh : s.holder
  case some =>
    simp only [Readers.turn, hh]
    exact .step .finish
  case none =>
    simp only [Readers.turn, hh]
    cases hw : s.waiting
    case nil =>
      rw [wake, hh, hw]
      exact .refl
    case cons r rs =>
      obtain ⟨e, he⟩ := wake_eq_step l d hh hw
      exact he ▸ .step (.wake r e)

theorem arriveMany {n : Nat} : Runs l.defaults s (fetchMany.arriveMany (l.load d) n s).1 := by
  induction n generalizing s
  case zero      => exact .refl
  case succ n hi => exact .trans .arrive hi

theorem serve {first n : Nat} : Runs l.defaults s (serve (l.load d) first n s).1 := by
  induction n generalizing s
  case zero => exact .refl
  case succ n hi =>
    have ht : Runs l.defaults s (s.turn (l.load d)).1 := .turn
    rw [Readers.serve]
    split
    case isFalse => exact .refl
    case isTrue =>
      split
      case _ s' he =>
        have ht : Runs l.defaults s s' := by rwa [he] at ht
        exact .trans ht hi
      case _ s' r answer he =>
        have ht : Runs l.defaults s s' := by rwa [he] at ht
        split
        case isTrue  => exact .trans ht hi
        case isFalse =>
          cases answer
          case error reason => exact .trans ht .turn
          case ok records   => exact .trans ht hi

-- Simultaneous reads of a catalog are one of the many orders in which the segments may come.
theorem fetchMany {n : Nat} : Runs l.defaults s (s.fetchMany (l.load d) n).1 := by
  have hm : Runs l.defaults s (Readers.fetchMany.arriveMany (l.load d) n s).1 := arriveMany
  rw [Readers.fetchMany]
  exact hm.trans serve

end Runs

-- Nothing has been loaded, or everyone has what the only load has brought.
inductive Calm (s : Readers) (t : Tally) : Prop
  | unloaded : t.ended = [] → t.answered = [] → s.cache.phase ≠ .populated → Calm s t
  | loaded (r : Nat) : t.ended = [(r, .loaded s.cache.records)] → s.cache.phase = .populated →
    (∀ a ∈ t.answered, a.2 = .ok s.cache.records) → Calm s t

-- What is known of readers that have come to `s` through the segments `xs`.
structure Reached (xs : List Segment) (s : Readers) (t : Tally) : Prop where
  steady  : s.Steady
  begun   : t.begun = t.ended.length + s.holder.toList.length
  counted : s.cache.loads = t.begun
  source  : s.cache.phase = .populated → ∃ r, (r, .loaded s.cache.records) ∈ t.ended
  served  : ∀ r records, (r, .ok records) ∈ t.answered →
    records ≠ [] ∧ ∃ r', (r', .loaded records) ∈ t.ended
  failed  : ∀ r reason, (r, .error reason) ∈ t.answered → (r, .aborted reason) ∈ t.ended
  calm    : .invalidate ∉ xs → (∀ r reason, (r, .aborted reason) ∉ t.ended) → Calm s t

theorem reached_initial : Reached [] initial .none where
  steady  := steady_initial
  begun   := rfl
  counted := rfl
  source  := by simp [initial, Cache.initial]
  served  := by simp [Tally.none]
  failed  := by simp [Tally.none]
  calm    := fun _ _ => .unloaded rfl rfl (by simp [initial, Cache.initial])

namespace Reached

theorem idles (hr : Reached xs s t) (hs : s'.Steady) (hc : s'.cache = s.cache)
    (hh : s'.holder.toList.length = s.holder.toList.length) : Reached (xs ++ [x]) s' t where
  steady  := hs
  begun   := hh ▸ hr.begun
  counted := hc ▸ hr.counted
  source  := hc ▸ hr.source
  served  := hr.served
  failed  := hr.failed
  calm    := by
    intro hi ha
    cases hr.calm (by simp_all) ha
    case unloaded he hn hp => exact .unloaded he hn (hc ▸ hp)
    case loaded r he hp hn => exact .loaded r (hc ▸ he) (hc ▸ hp) (hc ▸ hn)

theorem clears (hr : Reached xs s t) (hs : s'.Steady) (hc : s'.cache = s.cache.clear)
    (hh : s'.holder = s.holder) : Reached (xs ++ [.invalidate]) s' t where
  steady  := hs
  begun   := hh ▸ hr.begun
  counted := by rw [hc, ← hr.counted, Cache.clear]
  source  := by simp [hc, Cache.clear]
  served  := hr.served
  failed  := hr.failed
  calm    := by simp

theorem hits (hr : Reached xs s t) (hs : s'.Steady) (hp : s.cache.phase = .populated)
    (hc : s'.cache = s.cache) (hh : s'.holder = s.holder) {r : Nat} :
    Reached (xs ++ [x]) s' { t with answered := t.answered ++ [(r, .ok s.cache.records)] } where
  steady  := hs
  begun   := hh ▸ hr.begun
  counted := hc ▸ hr.counted
  source  := hc ▸ hr.source
  served  := by
    intro r' records hm
    rcases List.mem_append.mp hm with hm | hm
    case inl => exact hr.served r' records hm
    case inr =>
      cases List.mem_singleton.mp hm
      exact ⟨hr.steady.populated.mp hp, hr.source hp⟩
  failed  := by
    intro r' reason hm
    exact hr.failed r' reason (by simpa using hm)
  calm    := by
    intro hi ha
    cases hr.calm (by simp_all) ha
    case unloaded hn => exact absurd hp hn
    case loaded r' he _ hn =>
      refine .loaded r' (hc ▸ he) (hc ▸ hp) fun a hm => ?_
      rcases List.mem_append.mp hm with hm | hm
      case inl => exact hc ▸ hn a hm
      case inr => rw [List.mem_singleton.mp hm, hc]

theorem begins (hr : Reached xs s t) (hs : s'.Steady) (hp : s.cache.phase ≠ .populated)
    (hn : s.holder = none) (hc : s'.cache = s.cache.begin) (hh : s'.holder.isSome) :
    Reached (xs ++ [x]) s' { t with begun := t.begun + 1 } where
  steady  := hs
  begun   := by
    have ⟨_, ho⟩ := Option.isSome_iff_exists.mp hh
    simp [hr.begun, hn, ho]
  counted := by simp [hc, Cache.begin, hr.counted]
  source  := by simp [hc, Cache.begin]
  served  := hr.served
  failed  := hr.failed
  calm    := by
    intro hi ha
    cases hr.calm (by simp_all) ha
    case unloaded he hn _ => exact .unloaded he hn (by simp [hc, Cache.begin])
    case loaded hl _      => exact absurd hl hp

theorem loaded (hr : Reached xs s t) (hs : s'.Steady) {r : Nat} {records : List Component}
    (hh : s.holder = some (r, .loaded records)) (hc : s'.cache = s.cache.settle (.loaded records))
    (hn : s'.holder = none) :
    Reached (xs ++ [x]) s' { t with
      ended    := t.ended ++ [(r, .loaded records)]
      answered := t.answered ++ [(r, .ok records)] } where
  steady  := hs
  begun   := by simp [hr.begun, hh, hn]
  counted := by simp [hc, Cache.settle, hr.counted]
  source  := fun _ => ⟨r, by simp [hc, Cache.settle]⟩
  served  := by
    intro r' records' hm
    rcases List.mem_append.mp hm with hm | hm
    case inl =>
      obtain ⟨h₁, r'', h₂⟩ := hr.served r' records' hm
      exact ⟨h₁, r'', List.mem_append_left _ h₂⟩
    case inr =>
      cases List.mem_singleton.mp hm
      exact ⟨hr.steady.brings r records hh, r, by simp⟩
  failed  := by
    intro r' reason hm
    exact List.mem_append_left _ <| hr.failed r' reason (by simpa using hm)
  calm    := by
    intro hi ha
    cases hr.calm (by simp_all) (by simp_all)
    case loaded hl _      => exact absurd hl <| hr.steady.holding r _ hh
    case unloaded he hn _ =>
      exact .loaded r (by simp [he, hc, Cache.settle]) (by simp [hc, Cache.settle])
        (by simp [hn, hc, Cache.settle])

theorem aborted (hr : Reached xs s t) (hs : s'.Steady) {r : Nat} {reason : String}
    (hh : s.holder = some (r, .aborted reason)) (hc : s'.cache = s.cache.settle (.aborted reason))
    (hn : s'.holder = none) :
    Reached (xs ++ [x]) s' { t with
      ended    := t.ended ++ [(r, .aborted reason)]
      answered := t.answered ++ [(r, .error reason)] } where
  steady  := hs
  begun   := by simp [hr.begun, hh, hn]
  counted := by simp [hc, Cache.settle, hr.counted]
  source  := by simp [hc, Cache.settle]
  served  := by
    intro r' records hm
    obtain ⟨h₁, r'', h₂⟩ := hr.served r' records (by simpa using hm)
    exact ⟨h₁, r'', List.mem_append_left _ h₂⟩
  failed  := by
    intro r' reason' hm
    rcases List.mem_append.mp hm with hm | hm
    case inl => exact List.mem_append_left _ <| hr.failed r' reason' hm
    case inr =>
      cases List.mem_singleton.mp hm
      simp
  calm    := fun _ ha => absurd (by simp) (ha r reason)

theorem step (hd : defaults ≠ []) (hr : Reached xs s t) :
    Reached (xs ++ [x]) (s.step defaults x).1
      (t.add ⟨s, (s.step defaults x).1, (s.step defaults x).2⟩) := by
  have hs : (s.step defaults x).1.Steady := hr.steady.step hd
  have he : Effect defaults s x (s.step defaults x).1 (s.step defaults x).2 := effect_step
  generalize (s.step defaults x).1 = s', (s.step defaults x).2 = served at hs he
  cases he
  case idles hc hh =>
    have hr := hr.idles (x := x) hs hc (by rw [hh])
    cases ho : s.holder
    all_goals simpa [Tally.add, Moment.begins, Moment.ended?, hh, ho] using hr
  case clears hx hc hh =>
    cases ho : s.holder
    all_goals simpa [Tally.add, Moment.begins, Moment.ended?, hh, ho, hx] using hr.clears hs hc hh
  case hits r hp hc hh =>
    cases ho : s.holder
    all_goals simpa [Tally.add, Moment.begins, Moment.ended?, hh, ho] using hr.hits hs hp hc hh
  case interrupts r o reason ho hc hh =>
    simpa [Tally.add, Moment.begins, Moment.ended?, hh, ho] using hr.idles hs hc (by simp [hh, ho])
  case begins r e hp hn hc hh =>
    have hr := hr.begins (x := x) hs hp hn hc (by simp [hh])
    simpa [Tally.add, Moment.begins, Moment.ended?, hh, hn] using hr
  case ends r o ho hc hh =>
    cases o
    case loaded =>
      simpa [Tally.add, Moment.begins, Moment.ended?, hh, ho] using hr.loaded hs ho hc hh
    case aborted =>
      simpa [Tally.add, Moment.begins, Moment.ended?, hh, ho] using hr.aborted hs ho hc hh

end Reached

theorem reached (hd : defaults ≠ []) :
    Reached xs (initial.after defaults xs) (.of (initial.history defaults xs)) := by
  induction xs using List.reverseRecOn
  case nil                 => exact reached_initial
  case append_singleton hr =>
    rw [after_concat, history_concat, Tally.of_concat]
    exact hr.step hd

theorem steady_of_runs (hd : defaults ≠ []) (h : Runs defaults initial s) : s.Steady := by
  have ⟨_, hs⟩ := h
  exact hs ▸ (reached hd).steady

-- Loads never overlap, and whoever gets records gets those of a load that has ended.
structure SingleFlight (xs : List Segment) (s : Readers) (t : Tally) : Prop where
  flights     : t.ended.length ≤ t.begun ∧ t.begun ≤ t.ended.length + 1
  loads       : s.cache.loads = t.begun
  populated   : s.cache.phase = .populated ↔ s.cache.stamped
  stamped     : s.cache.stamped ↔ s.cache.records ≠ []
  loading     : s.cache.phase = .loading → t.begun = t.ended.length + 1
  served      : ∀ r records, (r, .ok records) ∈ t.answered →
    records ≠ [] ∧ ∃ r', (r', .loaded records) ∈ t.ended
  failed      : ∀ r reason, (r, .error reason) ∈ t.answered → (r, .aborted reason) ∈ t.ended
  undisturbed : .invalidate ∉ xs → (∀ r reason, (r, .aborted reason) ∉ t.ended) →
    s.cache.loads ≤ 1 ∧ ∃ records, ∀ a ∈ t.answered, a.2 = .ok records

theorem single_flight (hd : defaults ≠ []) :
    SingleFlight xs (initial.after defaults xs) (.of (initial.history defaults xs)) := by
  have hr : Reached xs (initial.after defaults xs) (.of (initial.history defaults xs)) := reached hd
  generalize initial.after defaults xs = s, Tally.of (initial.history defaults xs) = t at hr
  have hl : s.holder.toList.length ≤ 1 := by cases s.holder <;> simp
  have hb := hr.begun
  constructor
  case flights   => omega
  case loads     => exact hr.counted
  case populated => exact hr.steady.populated.trans hr.steady.stamped.symm
  case stamped   => exact hr.steady.stamped
  case served    => exact hr.served
  case failed    => exact hr.failed
  case loading =>
    intro hp
    have ⟨_, hh⟩ := Option.isSome_iff_exists.mp <| hr.steady.loading hp
    simpa [hh] using hb
  case undisturbed =>
    intro hi ha
    have hc := hr.counted
    cases hr.calm hi ha
    case unloaded he hn _ =>
      rw [he, List.length_nil] at hb
      exact ⟨by omega, [], by simp [hn]⟩
    case loaded he hp hn =>
      have hh : s.holder = none := by
        by_contra hh
        have ⟨h, hs⟩ := Option.ne_none_iff_exists'.mp hh
        exact hr.steady.holding h.1 h.2 hs hp
      rw [he, hh] at hb
      exact ⟨Nat.le_of_eq (hc.trans hb), s.cache.records, hn⟩

-- Three readers come, and the cache is emptied. The first load is cancelled, and the reader that
-- came last loads again before the one in the middle is served.
def disturbance : List Segment := [
  .arrive .defaults, .arrive .defaults, .arrive .defaults, .invalidate, .interrupt "cancelled",
  .finish, .wake 2 .defaults, .finish, .wake 1 (.aborted "unused")]

theorem single_flight_disturbance :
    Loader.defaultComponents ≠ [] ∧
      (initial.after Loader.defaultComponents disturbance).cache.loads = 2 ∧
      (Tally.of (initial.history Loader.defaultComponents disturbance)).answered =
        [(0, .error "cancelled"), (2, .ok Loader.defaultComponents),
          (1, .ok Loader.defaultComponents)] ∧
      SingleFlight disturbance (initial.after Loader.defaultComponents disturbance)
        (.of (initial.history Loader.defaultComponents disturbance)) := by
  have hd : Loader.defaultComponents ≠ [] := by simp [Loader.defaultComponents]
  exact ⟨hd, rfl, rfl, single_flight hd⟩

end ComponentCatalog.Readers
