import CallRouting.Json.Printer

/-!
# Inputs of calls

The input of a call has the name of a shape and untyped members. The members are those of an
object, so they are kept in the order of their names.
-/

namespace CallRouting.Call

/-- The input of a call. -/
structure Input where
  /-- The name of its shape. -/
  shape : String
  /-- Its members, in the order of their names. -/
  members : List (String × Json.Value)
  deriving DecidableEq

/-- A value that is no input: it is not an object. -/
structure NotAnObject where
  /-- The value. -/
  payload : Json.Value

/-- The text of the refusal. -/
def NotAnObject.message (e : NotAnObject) : String :=
  "operation input must serialize to an object, got " ++ e.payload.compact

namespace Input

/-- An input without members. -/
def empty (shape : String) : Input := ⟨shape, []⟩

/-- The input with the members of an object. -/
def ofJson (shape : String) : Json.Value → Except NotAnObject Input
  | .object members => .ok ⟨shape, members⟩
  | payload => .error ⟨payload⟩

/-- The input with a member added or replaced. -/
def withMember (i : Input) (name : String) (value : Json.Value) : Input :=
  { i with members := Json.Value.putMember name value i.members }

/-- The value of a member. -/
def member? (i : Input) (name : String) : Option Json.Value := i.members.lookup name

end Input

end CallRouting.Call
