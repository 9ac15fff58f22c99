import ComponentCatalog.Catalog.Loader
import ComponentCatalog.Catalog.Readers

namespace ComponentCatalog

-- Changes of the disk show only after the next load.
structure Catalog where
  loader  : Loader
  disk    : Disk
  readers : Readers

namespace Catalog

def cold (loader : Loader) (disk : Disk) : Catalog where
  loader  := loader
  disk    := disk
  readers := .initial

def cache (c : Catalog) : Cache :=
  c.readers.cache

def load (c : Catalog) : Load :=
  c.loader.load c.disk

def fetch (c : Catalog) : Catalog × Answer :=
  let (readers, answer) := c.readers.fetch c.load
  ({ c with readers }, answer)

def fetchMany (c : Catalog) (n : Nat) : Catalog × Except String (List (List Component)) :=
  let (readers, answers) := c.readers.fetchMany c.load n
  ({ c with readers }, answers)

def invalidate (c : Catalog) : Catalog :=
  { c with readers := c.readers.clear }

end Catalog
end ComponentCatalog
