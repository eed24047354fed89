import CallRouting.Binding.Source
import CallRouting.OrderedMap
import CallRouting.Parameter.Catalog
import CallRouting.Warning

/-!
# Resolved records

A record has a place for every name of a catalog, in the order of the first declarations, and each
place holds a value or is unset. It comes from a list of assignments: they are made one after the
other on the record with nothing set, so of several assignments to one parameter the last counts,
and one without a value clears what was there. An assignment to a name that the catalog does not
have is dropped, which is warned of.
-/

namespace CallRouting.Binding

/-- The values of the parameters of a catalog. -/
structure Record where
  /-- The places, in the order of the catalog. -/
  values : OrderedMap (Option ParameterValue)
  deriving DecidableEq

namespace Record

/-- The record of a catalog with nothing set. -/
def unset (catalog : Catalog) : Record := ⟨OrderedMap.ofList (catalog.names.map fun n ↦ (n, none))⟩

/-- A record after an assignment, with what there is to warn of: the assignment is dropped if the
record has no place for the parameter. -/
def assign (s : Record × List Warning) (a : Assignment) : Record × List Warning :=
  if s.1.values.contains a.parameter then (⟨s.1.values.insert a.parameter a.value⟩, s.2)
  else (s.1, s.2 ++ [.assignmentDropped a.parameter])

/-- The record of a catalog after a list of assignments, with what there is to warn of. -/
def assignAll (catalog : Catalog) (assignments : List Assignment) : Record × List Warning :=
  assignments.foldl assign (unset catalog, [])

/-- The record of a catalog after a list of assignments. -/
def materialize (catalog : Catalog) (assignments : List Assignment) : Record :=
  (assignAll catalog assignments).1

/-- What there is to warn of in a list of assignments. -/
def warnings (catalog : Catalog) (assignments : List Assignment) : List Warning :=
  (assignAll catalog assignments).2

/-- The names, in the order of the catalog. -/
def names (r : Record) : List String := r.values.keys

/-- The value of a parameter, if it is set. -/
def get? (r : Record) (name : String) : Option ParameterValue := (r.values.get? name).join

/-- Whether a parameter is set. -/
def isSet (r : Record) (name : String) : Bool := (r.get? name).isSome

/-- How many places there are. -/
def size (r : Record) : Nat := r.values.size

/-- The record as an untyped value: an object with the null value for what is unset. -/
def toJson (r : Record) : Json.Value :=
  .ofMembers <| r.values.entries.map fun e ↦
    (e.1, match e.2 with
      | none => .null
      | some v => v.toUntyped)

end Record

end CallRouting.Binding
