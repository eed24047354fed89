/-!
# Warnings

What is worth telling the operator of a client although nothing failed.
-/

namespace CallRouting

/-- Something that may not have been intended. -/
inductive Warning where
  /-- The service has built-in parameters, and no integration supplies any. -/
  | builtInsUnsupplied
  /-- More than one source is bound to a parameter. -/
  | overlap (parameter : String)
  /-- A built-in value is for a parameter that is not built-in. -/
  | builtInIgnored (parameter : String)
  /-- An assignment is to a parameter that is not declared. -/
  | assignmentDropped (parameter : String)
  deriving DecidableEq, Repr

namespace Warning

/-- The text of a warning. -/
def message : Warning → String
  | builtInsUnsupplied =>
    "service declares built-in parameters but no integration supplies a built-in handler"
  | overlap _ => "endpoint parameter is bound by more than one source"
  | builtInIgnored _ => "ignoring built-in value for a parameter that is not built-in"
  | assignmentDropped _ => "dropping assignment to undeclared endpoint parameter"

/-- The parameter that a warning is about. -/
def parameter? : Warning → Option String
  | builtInsUnsupplied => none
  | overlap p => some p
  | builtInIgnored p => some p
  | assignmentDropped p => some p

end Warning

end CallRouting
