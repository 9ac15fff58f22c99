import ComponentCatalog.Component.Basic

namespace ComponentCatalog

inductive Phase
  | empty
  | loading
  | populated
deriving DecidableEq, Repr

inductive Outcome
  | loaded (records : List Component)
  | aborted (reason : String)

-- What a reader gets: the records, or the reason why its load was aborted.
abbrev Answer := Except String (List Component)

-- How the load of a given number would end, if it began now.
abbrev Load := Nat → Outcome

-- Records are kept from the first read on. A load either brings records, which may be the defaults,
-- or is aborted and leaves the cache empty.
structure Cache where
  phase   : Phase
  records : List Component
  -- whether the records have the time of their load
  stamped : Bool
  -- how many loads have begun
  loads   : Nat

namespace Cache

def initial : Cache where
  phase   := .empty
  records := []
  stamped := false
  loads   := 0

def begin (c : Cache) : Cache :=
  { c with phase := .loading, loads := c.loads + 1 }

def settle (c : Cache) : Outcome → Cache
  | .loaded records => { c with phase := .populated, records, stamped := true }
  | .aborted _      => { c with phase := .empty }

def clear (c : Cache) : Cache :=
  { c with phase := .empty, records := [], stamped := false }

-- What the reader whose load has just ended gets.
def answer (c : Cache) : Outcome → Answer
  | .loaded _       => .ok c.records
  | .aborted reason => .error reason

-- A read without other readers.
def fetch (load : Load) (c : Cache) : Cache × Answer :=
  if c.phase = .populated then (c, .ok c.records)
  else
    let outcome := load c.begin.loads
    let c := c.begin.settle outcome
    (c, c.answer outcome)

end Cache
end ComponentCatalog
