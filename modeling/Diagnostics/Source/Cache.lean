import Diagnostics.Keyed
import Diagnostics.Source.Basic

/-!
# Source caches

Sources registered under an id. Registering an id again replaces its source.
-/

namespace Diagnostics

/-- No source is registered under `id`. -/
structure MissingSource where
  id : String
  deriving DecidableEq, Repr

def MissingSource.message (error : MissingSource) : String :=
  "Failed to fetch source '" ++ error.id ++ "'"

structure Cache where
  entries : Keyed Source := []
  deriving DecidableEq, Repr

namespace Cache

def ofList (entries : List (String × Source)) : Cache :=
  ⟨Keyed.ofList entries⟩

def add (cache : Cache) (id : String) (source : Source) : Cache :=
  ⟨Keyed.put cache.entries id source⟩

def size (cache : Cache) : Nat :=
  cache.entries.length

def contains (cache : Cache) (id : String) : Bool :=
  Keyed.contains cache.entries id

def fetch (cache : Cache) (id : String) : Except MissingSource Source :=
  match Keyed.find? cache.entries id with
  | some source => .ok source
  | none => .error ⟨id⟩

end Cache

end Diagnostics
