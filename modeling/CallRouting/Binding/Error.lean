import CallRouting.Binding.Source

/-!
# Why a service is refused

A single declaration that is at fault refuses the whole service. The scope of a declaration is the
service, or the service and an operation of it with a point between.
-/

namespace CallRouting.Binding

/-- Why a service is refused. -/
inductive CompileError where
  /-- Two parameters have one name. -/
  | duplicateParameter (service parameter : String)
  /-- The name of a parameter is malformed. -/
  | invalidParameterName (service parameter : String)
  /-- A declaration is for a parameter that the catalog does not have. -/
  | unknownParameter (scope parameter : String) (source : Source)
  /-- A declaration is for a parameter that the state of the client supplies. -/
  | builtInTarget (scope parameter : String) (source : Source)
  /-- A client parameter and the parameter of its name have different types. -/
  | clientContextType (service parameter : String) (declared expected : ValueType)
  /-- A fixed value is not of the type of its parameter. -/
  | staticType (operation parameter : String) (cause : TypeMismatch)
  deriving DecidableEq, Repr

/-- The text of a refusal. -/
def CompileError.message : CompileError → String
  | duplicateParameter service parameter =>
    "service '" ++ service ++ "' declares parameter '" ++ parameter ++ "' more than once"
  | invalidParameterName service parameter =>
    "service '" ++ service ++ "' declares invalid parameter name '" ++ parameter ++ "'"
  | unknownParameter scope parameter source =>
    source.name ++ " binding in '" ++ scope ++ "' targets unknown parameter '" ++ parameter ++ "'"
  | builtInTarget scope parameter source =>
    source.name ++ " binding in '" ++ scope ++ "' targets built-in parameter '" ++ parameter ++ "'"
  | clientContextType service parameter declared expected =>
    "client context parameter '" ++ parameter ++ "' of service '" ++ service ++ "' is declared "
      ++ declared.name ++ ", but the endpoint parameter is " ++ expected.name
  | staticType operation parameter cause =>
    "unsupported static context param type for '" ++ parameter ++ "' on operation '" ++ operation
      ++ "': " ++ cause.message

end CallRouting.Binding
