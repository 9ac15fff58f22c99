import ComponentCatalog.Proofs.Catalog.Flight

namespace ComponentCatalog.Readers

namespace Moment

-- The load that begins, with the end that it is going to have.
def begun? (m : Moment) : Option (Nat × Outcome) :=
  if m.begins then m.after.holder else none

end Moment

def loads (ms : List Moment) : List (Nat × Outcome) :=
  ms.filterMap Moment.begun?

variable {defaults records : List Component} {s₀ s s' : Readers} {served : Served} {x : Segment}
  {xs : List Segment} {ms : List Moment} {m : Moment} {r : Nat} {o : Outcome}

theorem loads_concat : loads (ms ++ [m]) = loads ms ++ m.begun?.toList := by
  simp only [loads, List.filterMap_append]
  cases h : m.begun? <;> simp [h]

theorem ended_concat : (Tally.of (ms ++ [m])).ended = (Tally.of ms).ended ++ m.ended?.toList := by
  rw [Tally.of_concat, Tally.add]

theorem answered_concat :
    (Tally.of (ms ++ [m])).answered = (Tally.of ms).answered ++ m.served.toList := by
  rw [Tally.of_concat, Tally.add]

-- The load has begun, or it was in progress before.
def Since (s₀ : Readers) (ms : List Moment) (l : Nat × Outcome) : Prop :=
  l ∈ loads ms ∨ s₀.holder = some l

-- A load has ended with the records that is not older than `s₀`.
def Brought (s₀ : Readers) (ms : List Moment) (records : List Component) : Prop :=
  ∃ r, (r, .loaded records) ∈ (Tally.of ms).ended ∧ Since s₀ ms (r, .loaded records)

theorem Since.concat {l : Nat × Outcome} (h : Since s₀ ms l) : Since s₀ (ms ++ [m]) l := by
  rw [Since, loads_concat, List.mem_append]
  exact h.imp_left .inl

theorem Brought.concat (h : Brought s₀ ms records) : Brought s₀ (ms ++ [m]) records := by
  obtain ⟨r, he, hs⟩ := h
  exact ⟨r, ended_concat ▸ List.mem_append_left _ he, hs.concat⟩

-- No records are left of any older load, neither in the cache nor with a reader.
structure Renewed (s₀ : Readers) (ms : List Moment) (s : Readers) : Prop where
  holding  : ∀ r records, s.holder = some (r, .loaded records) → Since s₀ ms (r, .loaded records)
  filled   : s.cache.phase = .populated → Brought s₀ ms s.cache.records
  answered : ∀ r records, (r, .ok records) ∈ (Tally.of ms).answered → Brought s₀ ms records

theorem renewed_nil (hp : s.cache.phase ≠ .populated) : Renewed s [] s where
  holding  := fun _ _ hh => .inr hh
  filled   := fun h => absurd h hp
  answered := by simp [Tally.of, Tally.none]

namespace Renewed

theorem concat (hr : Renewed s₀ ms s)
    (hh : ∀ r records, m.after.holder = some (r, .loaded records) →
      Since s₀ (ms ++ [m]) (r, .loaded records))
    (hp : m.after.cache.phase = .populated → Brought s₀ (ms ++ [m]) m.after.cache.records)
    (ha : ∀ r records, m.served = some (r, .ok records) → Brought s₀ (ms ++ [m]) records) :
    Renewed s₀ (ms ++ [m]) m.after where
  holding  := hh
  filled   := hp
  answered := by
    intro r records hm
    rw [answered_concat, List.mem_append, Option.mem_toList] at hm
    rcases hm with hm | hm
    case inl => exact (hr.answered r records hm).concat
    case inr => exact ha r records hm

-- The records of the cache and the load in progress stay as they are.
theorem keeps (hr : Renewed s₀ ms s) (hc : m.after.cache = s.cache)
    (hh : m.after.holder = s.holder)
    (ha : ∀ r records, m.served = some (r, .ok records) → Brought s₀ (ms ++ [m]) records) :
    Renewed s₀ (ms ++ [m]) m.after := by
  refine hr.concat (fun r records h => ?_) (fun h => ?_) ha
  case refine_1 => exact (hr.holding r records (hh ▸ h)).concat
  case refine_2 => exact hc ▸ (hr.filled (hc ▸ h)).concat

theorem ends (hr : Renewed s₀ ms s) (hm : m.before = s) (hs : s.holder = some (r, o))
    (hc : m.after.cache = s.cache.settle o) (hh : m.after.holder = none)
    (ha : m.served = some (r, (s.cache.settle o).answer o)) :
    Renewed s₀ (ms ++ [m]) m.after := by
  have hbrought : ∀ records, o = .loaded records → Brought s₀ (ms ++ [m]) records := by
    rintro records rfl
    refine ⟨r, ?_, (hr.holding r records hs).concat⟩
    rw [ended_concat]
    simp [Moment.ended?, hh, hm, hs]
  refine hr.concat (by simp [hh]) ?_ ?_
  all_goals cases o
  case refine_1.loaded records => exact fun _ => hc ▸ hbrought records rfl
  case refine_1.aborted reason => simp [hc, Cache.settle]
  case refine_2.loaded records =>
    intro r' records' h
    cases ha.symm.trans h
    exact hbrought records rfl
  case refine_2.aborted reason =>
    intro r' records' h
    cases ha.symm.trans h

theorem step (hr : Renewed s₀ ms s) :
    Renewed s₀ (ms ++ [⟨s, (s.step defaults x).1, (s.step defaults x).2⟩])
      (s.step defaults x).1 := by
  have he : Effect defaults s x (s.step defaults x).1 (s.step defaults x).2 := effect_step
  generalize (s.step defaults x).1 = s', (s.step defaults x).2 = served at he
  cases he
  case idles hc hh => exact hr.keeps (m := ⟨s, s', none⟩) hc hh nofun
  case hits r hp hc hh =>
    refine hr.keeps (m := ⟨s, s', _⟩) hc hh ?_
    rintro _ _ ⟨⟩
    exact (hr.filled hp).concat
  case begins r e hp hn hc hh =>
    refine hr.concat (m := ⟨s, s', none⟩) ?_ (by simp [hc, Cache.begin]) nofun
    intro r' records h
    refine .inl ?_
    rw [loads_concat, List.mem_append]
    exact .inr (by simp_all [Moment.begun?, Moment.begins])
  case interrupts r o reason hs hc hh =>
    refine hr.concat (m := ⟨s, s', none⟩) (by simp [hh]) (fun h => ?_) nofun
    exact hc ▸ (hr.filled (hc ▸ h)).concat
  case ends r o hs hc hh => exact hr.ends rfl hs hc hh rfl
  case clears hx hc hh =>
    refine hr.concat (m := ⟨s, s', none⟩) (fun r records h => ?_) (by simp [hc, Cache.clear]) nofun
    exact (hr.holding r records (hh ▸ h)).concat

end Renewed

theorem renewed (hp : s.cache.phase ≠ .populated) :
    Renewed s (s.history defaults xs) (s.after defaults xs) := by
  induction xs using List.reverseRecOn
  case nil                 => exact renewed_nil hp
  case append_singleton hr =>
    rw [after_concat, history_concat]
    exact hr.step

-- What an invalidation is good for, if `s` is what it leaves behind. A load that was in progress
-- then still fills the cache as if nothing had happened.
structure Refreshes (s : Readers) (ms : List Moment) : Prop where
  answered  : ∀ r records, (r, .ok records) ∈ (Tally.of ms).answered →
    ∃ r', (r', .loaded records) ∈ (Tally.of ms).ended ∧
      ((r', .loaded records) ∈ loads ms ∨ s.holder = some (r', .loaded records))
  -- Nobody was loading.
  unloading : s.holder = none → ∀ r records, (r, .ok records) ∈ (Tally.of ms).answered →
    ∃ r', (r', .loaded records) ∈ (Tally.of ms).ended ∧ (r', .loaded records) ∈ loads ms

theorem invalidation_refreshes (before after : List Segment) :
    Refreshes (initial.after defaults (before ++ [.invalidate]))
      ((initial.after defaults (before ++ [.invalidate])).history defaults after) := by
  generalize hs : initial.after defaults (before ++ [.invalidate]) = s
  have hp : s.cache.phase ≠ .populated := by
    rw [← hs, after_concat]
    exact nofun
  have hr : Renewed s (s.history defaults after) (s.after defaults after) := renewed hp
  constructor
  case answered  => exact hr.answered
  case unloading =>
    intro hn r records hm
    obtain ⟨r', he, hl | hh⟩ := hr.answered r records hm
    case inl => exact ⟨r', he, hl⟩
    case inr => cases hn.symm.trans hh

def outdated : Component where
  name         := "Outdated"
  path         := "src/components/Outdated.tsx"
  props        := .empty
  usage        := "<Outdated />"
  dependencies := []

-- The cache is emptied while the first reader loads. The second reader comes after that and gets
-- the first one's records, although nobody has loaded again.
theorem overtaken_invalidation :
    ¬∀ (before after : List Segment) (r : Nat) (records : List Component),
      let s := initial.after Loader.defaultComponents (before ++ [.invalidate])
      let ms := s.history Loader.defaultComponents after
      s.arrivals ≤ r → (r, .ok records) ∈ (Tally.of ms).answered →
        ∃ r', (r', .loaded records) ∈ (Tally.of ms).ended ∧ (r', .loaded records) ∈ loads ms := by
  intro h
  have ⟨_, _, hl⟩ := h [.arrive (.records outdated [])] [.finish, .arrive .defaults] 1 [outdated]
    (Nat.le_refl 1) (.tail _ (.head _))
  exact absurd hl List.not_mem_nil

end ComponentCatalog.Readers
