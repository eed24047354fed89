import CallRouting.Json.Value
import CallRouting.Text.Quoted

/-!
# Types and values of endpoint parameters

An endpoint parameter is a text or a truth value and nothing else. An untyped value becomes a
parameter value of a given type only if it is exactly of that type: nothing is converted, so the
text `"true"` is no truth value.
-/

namespace CallRouting

/-- The type of a parameter. -/
inductive ValueType where
  /-- A text. -/
  | string
  /-- A truth value. -/
  | boolean
  deriving DecidableEq, Repr

/-- The name of a type, in models and in messages. -/
def ValueType.name : ValueType → String
  | .string => "string"
  | .boolean => "boolean"

/-- The type with a name. -/
def ValueType.ofName? (name : String) : Option ValueType :=
  if name = "string" then some .string
  else if name = "boolean" then some .boolean
  else none

/-- A name belongs to a type exactly if it is the type's name. -/
theorem ValueType.ofName?_eq_some_iff {name : String} {t : ValueType} :
    ofName? name = some t ↔ name = t.name := by
  cases t <;> simp only [ofName?, ValueType.name] <;> grind

/-- The value of a parameter. -/
inductive ParameterValue where
  /-- A text. -/
  | string (s : String)
  /-- A truth value. -/
  | boolean (b : Bool)
  deriving DecidableEq, Repr

/-- An untyped value that is not of the type of a parameter. -/
structure TypeMismatch where
  /-- The type of the parameter. -/
  expected : ValueType
  /-- What sort of value was found. -/
  found : String
  deriving DecidableEq, Repr

/-- The text of a mismatch. -/
def TypeMismatch.message (e : TypeMismatch) : String :=
  "expected a " ++ e.expected.name ++ " value, found " ++ e.found

namespace ParameterValue

/-- The type that a value is of. -/
def type : ParameterValue → ValueType
  | .string _ => .string
  | .boolean _ => .boolean

/-- The text, of a value that is one. -/
def text? : ParameterValue → Option String
  | .string s => some s
  | .boolean _ => none

/-- The truth value, of a value that is one. -/
def bool? : ParameterValue → Option Bool
  | .string _ => none
  | .boolean b => some b

/-- The parameter value that an untyped value is, if it is one. -/
def ofUntyped? : Json.Value → Option ParameterValue
  | .string s => some (.string s)
  | .bool b => some (.boolean b)
  | _ => none

/-- The untyped value of a parameter value. -/
def toUntyped : ParameterValue → Json.Value
  | .string s => .string s
  | .boolean b => .bool b

/-- The untyped value as a value of a type. -/
def ofJson (type : ValueType) (v : Json.Value) : Except TypeMismatch ParameterValue :=
  match type, v with
  | .string, .string s => .ok (.string s)
  | .boolean, .bool b => .ok (.boolean b)
  | type, v => .error ⟨type, v.kindName⟩

/-- The value as it is shown to a human reader. -/
def display : ParameterValue → String
  | .string s => Text.quoted s
  | .boolean true => "true"
  | .boolean false => "false"

@[simp] theorem ofUntyped?_toUntyped (v : ParameterValue) : ofUntyped? v.toUntyped = some v := by
  cases v <;> rfl

/-- An untyped value is accepted for a type exactly if it is a parameter value of that type. -/
theorem ofJson_eq_ok_iff {type : ValueType} {v : Json.Value} {p : ParameterValue} :
    ofJson type v = .ok p ↔ v = p.toUntyped ∧ p.type = type := by
  cases type <;> cases v <;> cases p <;> simp [ofJson, toUntyped, ParameterValue.type]

/-- A value that is accepted for a type is kept as it is, whatever the type. -/
theorem ofUntyped?_of_ofJson {type : ValueType} {v : Json.Value} {p : ParameterValue}
    (h : ofJson type v = .ok p) : ofUntyped? v = some p := by
  rw [(ofJson_eq_ok_iff.mp h).1, ofUntyped?_toUntyped]

end ParameterValue

end CallRouting
