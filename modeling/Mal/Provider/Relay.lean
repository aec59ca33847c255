import Mal.Correlation.Allocator
import Mal.Directory

/-!
# Relayed interactions

A provider that passes work on to another provider remembers, under an id of its own, the URI and
the transaction id of the interaction the work came from, so that the eventual reply finds its way
back.
-/

namespace Mal

/-- Where a relayed interaction came from. -/
structure Source where
  uri : String
  transaction : TransactionId
  deriving DecidableEq

/-- The sources of relayed interactions, by local id. -/
structure Relay where
  allocator : Allocator
  sources : Directory TransactionId Source := .empty

namespace Relay

/-- Records a source and gives the id it is known by from now on. `seconds` is the present reading
    of the clock; the search for an id can only fail when all ids of a magnitude are in use. -/
def add (r : Relay) (seconds : UInt64) (source : Source) : Option (TransactionId × Relay) :=
  (r.allocator.next (fun _ => seconds) r.sources.contains).map fun (id, allocator) =>
    (id, { allocator := allocator, sources := r.sources.put id source })

def resolve (r : Relay) (id : TransactionId) : Option Source :=
  r.sources.get? id

/-- Forgets a source, giving what was known. -/
def remove (r : Relay) (id : TransactionId) : Option Source × Relay :=
  (r.resolve id, { r with sources := r.sources.erase id })

/-- Number of sources recorded. -/
def size (r : Relay) : Nat := r.sources.size

end Relay

end Mal
