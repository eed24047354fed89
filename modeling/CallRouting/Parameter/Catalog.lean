import CallRouting.Parameter.Value

/-!
# Parameters and catalogs

A service declares its endpoint parameters in an ordered catalog. A parameter with a built-in
identifier is supplied by the state of the client; every other parameter is supplied by what a call
or its configuration binds to it.

A catalog is held as it was declared, even if a name is malformed or occurs twice: it is the
compilation of bindings that refuses such a catalog. `get?` answers the first declaration of a name.
-/

namespace CallRouting

/-- The declaration of an endpoint parameter. -/
structure Parameter where
  /-- The name. -/
  name : String
  /-- The type of its values. -/
  type : ValueType
  /-- The identifier under which the state of the client supplies it, if it does. -/
  builtIn : Option String
  /-- Whether the rules need it. -/
  required : Bool
  /-- A description for readers of the model. -/
  documentation : Option String
  deriving DecidableEq, Repr

/-- Whether a character is a letter of the ASCII alphabet. -/
def isLetter (c : Char) : Bool := ('a' ≤ c && c ≤ 'z') || ('A' ≤ c && c ≤ 'Z')

/-- Whether a character may stand in a parameter's name after the first. -/
def isNameChar (c : Char) : Bool := isLetter c || ('0' ≤ c && c ≤ '9') || c == '_'

/-- Whether a text is the name of a parameter: a letter, then letters, digits and underscores. -/
def isParameterName (s : String) : Bool :=
  match s.toList with
  | [] => false
  | c :: cs => isLetter c && cs.all isNameChar

namespace Parameter

/-- A parameter of a type that nothing more is said about. -/
def plain (name : String) (type : ValueType) : Parameter := ⟨name, type, none, false, none⟩

/-- Whether the state of the client supplies the parameter. -/
def isBuiltIn (p : Parameter) : Bool := p.builtIn.isSome

end Parameter

/-- The parameters of a service, in the order of their declaration. -/
structure Catalog where
  /-- The declarations. -/
  parameters : List Parameter
  deriving DecidableEq, Repr

namespace Catalog

/-- The first declaration of a name. -/
def get? (c : Catalog) (name : String) : Option Parameter :=
  c.parameters.find? fun p ↦ p.name = name

/-- Whether a name is declared. -/
def contains (c : Catalog) (name : String) : Bool := (c.get? name).isSome

/-- The parameters that the state of the client supplies. -/
def builtIns (c : Catalog) : List Parameter := c.parameters.filter Parameter.isBuiltIn

/-- Whether there are parameters that the state of the client supplies. -/
def hasBuiltIns (c : Catalog) : Bool := c.parameters.any Parameter.isBuiltIn

/-- The declared names, in order, repeated names included. -/
def names (c : Catalog) : List String := c.parameters.map Parameter.name

/-- What is found under a name has that name and is declared. -/
theorem of_get?_eq_some {c : Catalog} {name : String} {p : Parameter} (h : c.get? name = some p) :
    p ∈ c.parameters ∧ p.name = name :=
  ⟨List.mem_of_find?_eq_some h, by simpa using List.find?_some h⟩

/-- A name is declared exactly if it is one of the names. -/
theorem contains_iff {c : Catalog} {name : String} : c.contains name = true ↔ name ∈ c.names := by
  simp [contains, get?, names, List.find?_isSome]

theorem get?_eq_none_iff {c : Catalog} {name : String} : c.get? name = none ↔ name ∉ c.names := by
  rw [← contains_iff, contains, Option.not_isSome_iff_eq_none]

end Catalog

end CallRouting
