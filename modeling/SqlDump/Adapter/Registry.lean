/-!
# Registries of handlers

A registry finds the handler of a type through its ancestry: the first type of
the ancestry that some handler claims decides, and among the handlers that claim
it the one registered last. Types and handlers are left open.
-/

namespace SqlDump

/-- Claimed types with their handlers, latest registration first. -/
structure Registry (Claimed Handler : Type) where
  entries : List (Claimed × Handler)
  deriving Repr

namespace Registry

variable {Claimed Handler : Type} [DecidableEq Claimed]

def empty : Registry Claimed Handler := { entries := [] }

def register (registry : Registry Claimed Handler) (claims : Handler → List Claimed)
    (handler : Handler) : Registry Claimed Handler :=
  { entries := ((claims handler).map fun type => (type, handler)).reverse ++ registry.entries }

/-- The registry of handlers that are registered one after another. -/
def ofHandlers (claims : Handler → List Claimed) (handlers : List Handler) :
    Registry Claimed Handler :=
  handlers.foldl (fun registry handler => registry.register claims handler) empty

/-- The handler that claimed a type last. -/
def claimant? (registry : Registry Claimed Handler) (type : Claimed) : Option Handler :=
  registry.entries.lookup type

/-- The handler of a type with the given ancestry. -/
def find? (registry : Registry Claimed Handler) (ancestry : List Claimed) : Option Handler :=
  ancestry.findSome? registry.claimant?

end Registry

end SqlDump
