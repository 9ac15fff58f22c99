import ComponentCatalog.Proofs.Catalog.Loader
import ComponentCatalog.Resource

namespace ComponentCatalog

namespace Catalog

inductive Step
  | getAll
  | call (name : String) (arguments : Json)
  | readUri (uri : String)
  | readAll
  | readComponent (name : String)
  | invalidate
  | write (p : Path) (content : ByteArray)
  | delete (p : Path)
  | scanWith (scan : Nat → Disk → Scanned)

inductive Result
  | done
  | records (answer : Answer)
  | reply (answer : Except CallError Reply)
  | text (answer : Except ResourceError String)

def Step.isFileChange : Step → Bool
  | .write _ _ | .delete _ => true
  | _                      => false

def readText (c : Catalog) (r : Resource) : Catalog × Result :=
  let (c, text) := c.read r
  (c, .text (text.mapError .aborted))

def step (c : Catalog) : Step → Catalog × Result
  | .getAll              =>
    let (c, answer) := c.fetch
    (c, .records answer)
  | .call name arguments =>
    let (c, answer) := c.call name arguments
    (c, .reply answer)
  | .readUri uri         =>
    let (c, answer) := c.readUri uri
    (c, .text answer)
  | .readAll             => c.readText .all
  | .readComponent name  => c.readText (.component name)
  | .invalidate          => (c.invalidate, .done)
  | .write p content     => ({ c with disk := c.disk.modify p (.write content) }, .done)
  | .delete p            => ({ c with disk := c.disk.modify p .delete }, .done)
  | .scanWith scan       => ({ c with loader := { c.loader with scan } }, .done)

-- A step, what it answers, and what is in the cache afterwards.
abbrev Trace := List (Step × Result × Cache)

def trace (c : Catalog) : List Step → Trace
  | []      => []
  | s :: ss => (s, (c.step s).2, (c.step s).1.cache) :: (c.step s).1.trace ss

def after (c : Catalog) (ss : List Step) : Catalog :=
  ss.foldl (fun c s => (c.step s).1) c

end Catalog

open Catalog (Step Result Trace)

-- A machine that keeps the components of some moment, or nothing. What is kept is taken from the
-- disk when it is first needed, and stays until it is dropped.
structure Keeper where
  loader : Loader
  disk   : Disk
  kept   : Option (List Component)
  loads  : Nat

namespace Keeper

def start (loader : Loader) (disk : Disk) : Keeper where
  loader := loader
  disk   := disk
  kept   := none
  loads  := 0

def take (k : Keeper) : Keeper × Answer :=
  match k.kept with
  | some records => (k, .ok records)
  | none         =>
    let answer := k.loader.taken (k.loads + 1) k.disk
    ({ k with kept := answer.toOption, loads := k.loads + 1 }, answer)

def readText (k : Keeper) (r : Resource) : Keeper × Result :=
  (k.take.1, .text ((k.take.2.map r.text).mapError .aborted))

def step (k : Keeper) : Step → Keeper × Result
  | .getAll              => (k.take.1, .records k.take.2)
  | .call name arguments =>
    match Catalog.request? name arguments with
    | .error e          => (k, .reply (.error e))
    | .ok .designTokens => (k, .reply (.ok .tokens))
    | .ok request       =>
      (k.take.1, .reply ((k.take.2.mapError .aborted).bind (Catalog.reply · request)))
  | .readUri uri         =>
    match Resource.ofUri? uri with
    | none   => (k, .text (.error (.unknown uri)))
    | some r => k.readText r
  | .readAll             => k.readText .all
  | .readComponent name  => k.readText (.component name)
  | .invalidate          => ({ k with kept := none }, .done)
  | .write p content     => ({ k with disk := k.disk.modify p (.write content) }, .done)
  | .delete p            => ({ k with disk := k.disk.modify p .delete }, .done)
  | .scanWith scan       => ({ k with loader := { k.loader with scan } }, .done)

-- The cache shows whether something is kept, what it is, and how often something was taken.
def cache (k : Keeper) : Cache where
  phase   := if k.kept.isSome then .populated else .empty
  records := k.kept.getD []
  stamped := k.kept.isSome
  loads   := k.loads

def trace (k : Keeper) : List Step → Trace
  | []      => []
  | s :: ss => (s, (k.step s).2, (k.step s).1.cache) :: (k.step s).1.trace ss

def after (k : Keeper) (ss : List Step) : Keeper :=
  ss.foldl (fun k s => (k.step s).1) k

-- The catalog that keeps the same, while nobody waits for a load.
def catalog (k : Keeper) : Catalog where
  loader  := k.loader
  disk    := k.disk
  readers := { Readers.initial with cache := k.cache }

variable {k k' : Keeper} {s : Step} {ss : List Step} {records : List Component}

theorem catalog_start (loader : Loader) (disk : Disk) :
    (start loader disk).catalog = .cold loader disk := rfl

theorem cache_catalog : k.catalog.cache = k.cache := rfl

theorem phase_cache : k.cache.phase = .populated ↔ k.kept.isSome := by
  cases h : k.kept <;> simp [cache, h]

theorem take_of_kept (h : k.kept = some records) : k.take = (k, .ok records) := by
  simp [take, h]

-- Nobody is in line, so that the reader loads at once.
theorem fetch_catalog : k.catalog.fetch = (k.take.1.catalog, k.take.2) := by
  cases h : k.kept
  case some records =>
    simp [Catalog.fetch, Readers.fetch, catalog, cache, take, h]
  case none =>
    cases ht : k.loader.taken (k.loads + 1) k.disk
    all_goals
      simp [Catalog.fetch, Catalog.load, Readers.fetch, Readers.drain, Readers.finish,
        Readers.initial, Cache.fetch, Cache.begin, Cache.settle, Cache.answer, catalog, cache, take,
        h, ht, Loader.load_eq_taken, Outcome.ofAnswer, Except.toOption]

theorem read_catalog (r : Resource) :
    k.catalog.read r = (k.take.1.catalog, k.take.2.map r.text) := by
  rw [Catalog.read, fetch_catalog]

theorem readText_catalog (r : Resource) :
    k.catalog.readText r = ((k.readText r).1.catalog, (k.readText r).2) := by
  rw [Catalog.readText, read_catalog, readText]

theorem run_catalog (request : Request) :
    k.catalog.run request =
      match request with
      | .designTokens => (k.catalog, .ok .tokens)
      | request       =>
        (k.take.1.catalog, (k.take.2.mapError .aborted).bind (Catalog.reply · request)) := by
  cases request
  case designTokens => rfl
  all_goals
    rw [Catalog.run, fetch_catalog]
    · cases k.take.2 <;> rfl
    · nofun

theorem fetch_cold (loader : Loader) (disk : Disk) :
    (Catalog.cold loader disk).fetch.2 = loader.taken 1 disk := by
  rw [← catalog_start, fetch_catalog]
  rfl

-- One step of the catalog is one step of the machine.
theorem step_catalog (s : Step) :
    k.catalog.step s = ((k.step s).1.catalog, (k.step s).2) := by
  cases s
  case getAll             => rw [Catalog.step, fetch_catalog, step]
  case readAll            => exact readText_catalog .all
  case readComponent name => exact readText_catalog (.component name)
  case readUri uri =>
    simp only [Catalog.step, Catalog.readUri, step]
    cases Resource.ofUri? uri
    case none   => rfl
    case some r => simp only [read_catalog, readText]
  case call name arguments =>
    simp only [Catalog.step, Catalog.call, step]
    cases Catalog.request? name arguments
    case error e    => rfl
    case ok request =>
      simp only [run_catalog]
      cases request <;> rfl
  all_goals rfl

theorem trace_catalog : k.catalog.trace ss = k.trace ss := by
  induction ss generalizing k
  case nil          => rfl
  case cons s ss hi => simp only [Catalog.trace, trace, step_catalog, cache_catalog, hi]

theorem after_catalog : k.catalog.after ss = (k.after ss).catalog := by
  induction ss generalizing k
  case nil          => rfl
  case cons s ss hi =>
    rw [Catalog.after, List.foldl_cons, step_catalog]
    exact hi

theorem readText_of_kept (h : k.kept = some records) (r : Resource) :
    k.readText r = (k, .text (.ok (r.text records))) := by
  rw [readText, take_of_kept h]
  rfl

theorem step_of_kept (h : k.kept = some records) (hs : s ≠ .invalidate) :
    (k.step s).1.kept = some records ∧ (k.step s).1.loads = k.loads := by
  have ht : ∀ r, (k.readText r).1 = k := fun r => by rw [readText_of_kept h]
  cases s
  case invalidate => contradiction
  case call name arguments =>
    simp only [step]
    split
    all_goals simp [take_of_kept h, h]
  case readUri uri =>
    simp only [step]
    split
    all_goals simp [ht, h]
  all_goals simp [step, take_of_kept h, ht, h]

-- What is kept decides the answers, wherever it was taken from.
theorem answer_of_kept (h : k.kept = some records) (h' : k'.kept = some records) :
    (k.step s).2 = (k'.step s).2 := by
  cases s
  case call name arguments =>
    simp only [step]
    split
    all_goals simp [take_of_kept h, take_of_kept h']
  case readUri uri =>
    simp only [step]
    split
    all_goals simp [readText_of_kept h, readText_of_kept h']
  all_goals simp [step, take_of_kept, readText_of_kept, h, h']

theorem cache_of_kept (h : k.kept = some records) (h' : k'.kept = some records)
    (hl : k.loads = k'.loads) : k.cache = k'.cache := by
  simp [cache, h, h', hl]

theorem trace_of_kept (h : k.kept = some records) (h' : k'.kept = some records)
    (hl : k.loads = k'.loads) (hs : .invalidate ∉ ss) :
    (k.trace ss).filter (!·.1.isFileChange) = k'.trace (ss.filter (!·.isFileChange)) := by
  induction ss generalizing k k'
  case nil => rfl
  case cons s ss hi =>
    have ⟨hn, hs⟩ := List.ne_and_not_mem_of_not_mem_cons hs
    have ⟨hk, hkl⟩ := step_of_kept h hn.symm
    cases hf : s.isFileChange
    case true =>
      rw [trace, List.filter_cons_of_neg (by simp [hf]), List.filter_cons_of_neg (by simp [hf])]
      exact hi hk h' (hkl.trans hl) hs
    case false =>
      have ⟨hk', hkl'⟩ := step_of_kept h' hn.symm
      have hl' := hkl.trans <| hl.trans hkl'.symm
      rw [trace, List.filter_cons_of_pos (by simp [hf]), List.filter_cons_of_pos (by simp [hf]),
        trace, hi hk hk' hl' hs, answer_of_kept h h', cache_of_kept hk hk' hl']

end Keeper

namespace Catalog

-- A catalog and the machine that start together and do the same steps.
structure Mirrors (loader : Loader) (disk : Disk) (ss : List Step) : Prop where
  trace : (cold loader disk).trace ss = (Keeper.start loader disk).trace ss
  -- While something is kept, it makes no difference whether files change.
  files : ∀ later, ((cold loader disk).after ss).cache.phase = .populated → .invalidate ∉ later →
    (((cold loader disk).after ss).trace later).filter (!·.1.isFileChange) =
      ((cold loader disk).after ss).trace (later.filter (!·.isFileChange))

theorem mirrors_keeper (loader : Loader) (disk : Disk) (ss : List Step) :
    Mirrors loader disk ss where
  trace := by rw [← Keeper.catalog_start, Keeper.trace_catalog]
  files := by
    intro later hp hl
    rw [← Keeper.catalog_start, Keeper.after_catalog] at hp ⊢
    have ⟨_, hk⟩ := Option.isSome_iff_exists.mp <| Keeper.phase_cache.mp hp
    rw [Keeper.trace_catalog, Keeper.trace_catalog]
    exact Keeper.trace_of_kept hk hk rfl hl

end Catalog
end ComponentCatalog
