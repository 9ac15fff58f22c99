import ComponentCatalog.Catalog.Cache

namespace ComponentCatalog

-- Concurrent readers of one cache. Loads happen under a lock: a reader that finds the lock taken,
-- or others waiting for it, joins the line, and is served in the order of arrival. Between two
-- waits a reader runs undisturbed.
structure Readers where
  cache    : Cache
  -- the reader whose load is in progress, and how that load will end
  holder   : Option (Nat × Outcome)
  waiting  : List Nat
  arrivals : Nat

namespace Readers

abbrev Served := Option (Nat × Answer)

def initial : Readers where
  cache    := .initial
  holder   := none
  waiting  := []
  arrivals := 0

def idle (s : Readers) : Bool :=
  s.holder.isNone && s.waiting.isEmpty

-- A reader gets the lock. Someone else may have loaded the records while it waited.
def enter (load : Load) (r : Nat) (s : Readers) : Readers × Served :=
  if s.cache.phase = .populated then (s, some (r, .ok s.cache.records))
  else
    let cache := s.cache.begin
    ({ s with cache, holder := some (r, load cache.loads) }, none)

def arrive (load : Load) (s : Readers) : Readers × Served :=
  let r := s.arrivals
  let s := { s with arrivals := r + 1 }
  if s.cache.phase = .populated then (s, some (r, .ok s.cache.records))
  else if s.idle then s.enter load r
  else ({ s with waiting := s.waiting ++ [r] }, none)

-- The load in progress ends and its reader releases the lock.
def finish (s : Readers) : Readers × Served :=
  match s.holder with
  | some (r, outcome) =>
    let cache := s.cache.settle outcome
    ({ s with cache, holder := none }, some (r, cache.answer outcome))
  | none => (s, none)

-- The first of the line gets the lock, if it is free.
def wake (load : Load) (s : Readers) : Readers × Served :=
  match s.holder, s.waiting with
  | none, r :: rs => { s with waiting := rs }.enter load r
  | _, _          => (s, none)

def clear (s : Readers) : Readers :=
  { s with cache := s.cache.clear }

def turn (load : Load) (s : Readers) : Readers × Served :=
  match s.holder with
  | some _ => s.finish
  | none   => s.wake load

-- Everyone in line is served.
def drain (load : Load) (s : Readers) : Readers :=
  s.waiting.foldl (fun s _ => (s.wake load).1.finish.1) s.finish.1

-- One more read, which is served after those that wait already.
def fetch (load : Load) (s : Readers) : Readers × Answer :=
  if s.cache.phase = .populated then (s, .ok s.cache.records)
  else
    let s := s.drain load
    let (cache, answer) := s.cache.fetch load
    ({ s with cache }, answer)

-- Whether a reader that came as number `first` or later has no answer yet.
def owes (first : Nat) (s : Readers) : Bool :=
  s.holder.any (first ≤ ·.1) || s.waiting.any (first ≤ ·)

-- Serves the line until each reader from `first` on has its answer, or the load of one of them is
-- aborted. Then only the next in line still gets the lock. Readers that came before `first` are
-- served on the way, and nobody asks for their answers any more.
def serve (load : Load) (first : Nat) : Nat → Readers → Readers × List Answer
  | 0, s     => (s, [])
  | n + 1, s =>
    if s.owes first then
      match s.turn load with
      | (s, none)             => serve load first n s
      | (s, some (r, answer)) =>
        if r < first then serve load first n s
        else
          match answer with
          | .error reason => ((s.turn load).1, [.error reason])
          | .ok records   =>
            let (s, answers) := serve load first n s
            (s, .ok records :: answers)
    else (s, [])

-- Simultaneous reads, which fail together if one of them fails.
def fetchMany (load : Load) (n : Nat) (s : Readers) :
    Readers × Except String (List (List Component)) :=
  let first := s.arrivals
  let (s, early) := arriveMany n s
  let (s, late) := s.serve load first (2 * (s.waiting.length + 1))
  (s, (early ++ late).mapM id)
where
  arriveMany : Nat → Readers → Readers × List Answer
    | 0, s     => (s, [])
    | n + 1, s =>
      let (s, served) := s.arrive load
      let (s, answers) := arriveMany n s
      (s, (served.map (·.2)).toList ++ answers)

end Readers
end ComponentCatalog
