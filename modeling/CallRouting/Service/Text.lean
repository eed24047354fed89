import CallRouting.Document.Fields
import CallRouting.Json.Printer
import CallRouting.Service.Basic

/-!
# Models as text

How a service is read from a document and written as JSON. The names of the fields are the same both
ways. A field that is written only when it has a value is absent otherwise; every other field is
written, the null value and empty lists included. So reading what was written gives the service
back.
-/

namespace CallRouting

/-! ## Reading -/

section

variable {ν ε : Type} [Document ν ε]

instance : Decode ValueType := ⟨fun v ↦ Document.choice v ValueType.ofName?⟩

/-- Reads the value of a parameter: a text or a truth value. -/
def decodeParameterValue (v : ν) : Except ε ParameterValue :=
  match Document.value v with
  | .error e => .error e
  | .ok value =>
    match ParameterValue.ofUntyped? value with
    | some p => .ok p
    | none => .error (Document.misfit ν)

instance : Decode ParameterValue := ⟨decodeParameterValue⟩

/-- The fields of a parameter. -/
def parameterFields : Fields ν ε [String, ValueType, Option String, Bool, Option String] :=
  .required "name" String <| .required "type" ValueType <| .optional "builtIn" none <|
  .optional "required" false <| .optional "documentation" none .done

instance : Decode Parameter :=
  ⟨fun v ↦ (parameterFields.read .ignored v).map fun (name, type, builtIn, required, doc, _) ↦
    ⟨name, type, builtIn, required, doc⟩⟩

instance : Decode Catalog := ⟨fun v ↦ (decode v).map Catalog.mk⟩

/-- The fields of a client parameter. -/
def clientParameterFields : Fields ν ε [ValueType, Option String] :=
  .required "type" ValueType <| .optional "documentation" none .done

instance : Decode ClientParameter :=
  ⟨fun v ↦ (clientParameterFields.read .ignored v).map fun (type, doc, _) ↦ ⟨type, doc⟩⟩

/-- The fields of endpoint rules. -/
def endpointRulesFields : Fields ν ε [Option String, Catalog, Json.Value] :=
  .optional "version" none <| .optional "parameters" ⟨[]⟩ <| .optional "rules" .null .done

instance : Decode EndpointRules :=
  ⟨fun v ↦ (endpointRulesFields.read .ignored v).map fun (version, parameters, rules, _) ↦
    ⟨version, parameters, rules⟩⟩

/-- The fields of a member of an input. -/
def inputMemberFields : Fields ν ε [String, Option String] :=
  .required "name" String <| .optional "contextParam" none .done

instance : Decode InputMember :=
  ⟨fun v ↦ (inputMemberFields.read .ignored v).map fun (name, param, _) ↦ ⟨name, param⟩⟩

/-- The fields of the shape of an input. -/
def inputShapeFields : Fields ν ε [String, List InputMember] :=
  .required "name" String <| .optional "members" [] .done

instance : Decode InputShape :=
  ⟨fun v ↦ (inputShapeFields.read .ignored v).map fun (name, members, _) ↦ ⟨name, members⟩⟩

/-- The fields of an operation. -/
def operationFields : Fields ν ε [String, Option InputShape, OrderedMap Json.Value] :=
  .required "name" String <| .optional "input" none <|
  .optional "staticContextParams" OrderedMap.empty .done

instance : Decode Operation :=
  ⟨fun v ↦ (operationFields.read .ignored v).map fun (name, input, staticParams, _) ↦
    ⟨name, input, staticParams⟩⟩

/-- The fields of a service. -/
def serviceFields : Fields ν ε
    [String, Option EndpointRules, Option (OrderedMap ClientParameter), List Operation] :=
  .required "name" String <| .optional "endpointRules" none <|
  .optional "clientContextParams" none <| .optional "operations" [] .done

instance : Decode Service :=
  ⟨fun v ↦ (serviceFields.read .ignored v).map fun (name, rules, params, operations, _) ↦
    ⟨name, rules, params, operations⟩⟩

end

/-! ## Writing -/

/-- A text, or the null value where there is none. -/
def textOrNull : Option String → Json.Value
  | none => .null
  | some s => .string s

/-- A field that is written only when it has a value. -/
def fieldIfSome (name : String) : Option String → List (String × Json.Value)
  | none => []
  | some s => [(name, .string s)]

/-- The untyped form of a parameter. -/
def Parameter.toJson (p : Parameter) : Json.Value :=
  .object <|
    [("name", .string p.name), ("type", .string p.type.name)] ++ fieldIfSome "builtIn" p.builtIn
      ++ [("required", .bool p.required)] ++ fieldIfSome "documentation" p.documentation

/-- The untyped form of a catalog. -/
def Catalog.toJson (c : Catalog) : Json.Value := .array (c.parameters.map Parameter.toJson)

/-- The untyped form of endpoint rules. -/
def EndpointRules.toJson (r : EndpointRules) : Json.Value :=
  .object
    [("version", textOrNull r.version), ("parameters", r.parameters.toJson), ("rules", r.rules)]

/-- The untyped form of a client parameter. -/
def ClientParameter.toJson (p : ClientParameter) : Json.Value :=
  .object <| ("type", .string p.type.name) :: fieldIfSome "documentation" p.documentation

/-- The untyped form of a member of an input. -/
def InputMember.toJson (m : InputMember) : Json.Value :=
  .object <| ("name", .string m.name) :: fieldIfSome "contextParam" m.contextParam

/-- The untyped form of the shape of an input. -/
def InputShape.toJson (s : InputShape) : Json.Value :=
  .object [("name", .string s.name), ("members", .array (s.members.map InputMember.toJson))]

/-- The untyped form of an operation. -/
def Operation.toJson (o : Operation) : Json.Value :=
  .object
    [("name", .string o.name),
      ("input", match o.input with
        | none => .null
        | some shape => shape.toJson),
      ("staticContextParams", .object o.staticParams.entries)]

/-- The untyped form of a service. -/
def Service.toJson (s : Service) : Json.Value :=
  .object
    [("name", .string s.name),
      ("endpointRules", match s.endpointRules with
        | none => .null
        | some rules => rules.toJson),
      ("clientContextParams", match s.clientParams with
        | none => .null
        | some params => .object (params.map ClientParameter.toJson).entries),
      ("operations", .array (s.operations.map Operation.toJson))]

/-- The text of a service. -/
def Service.text (s : Service) : String := s.toJson.compact

end CallRouting
