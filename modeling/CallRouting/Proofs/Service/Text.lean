import CallRouting.Proofs.Json.Place
import CallRouting.Service.Text

/-!
# Models survive as text

Each part of a service reads back from its untyped form, in any format. The parts are records, so
what there is to say about each of them is which of its fields are written, and with what.
-/

namespace CallRouting

open Fields

theorem Fields.Given.ifSome {ν ε : Type} [Document ν ε] [Holding ν ε] {name : String}
    {o : Option String} {βs : List Type} {rest : Fields ν ε βs}
    {ms : List (String × Json.Value)} {bs : Tuple βs} (h : Given rest ms bs) :
    Given (.optional name none rest) (fieldIfSome name o ++ ms) (o, bs) := by
  cases o with
  | none => exact .absent h
  | some s => exact .optional (.present nofun (.string s)) h

theorem ReadsBack.textOrNull (o : Option String) : ReadsBack (textOrNull o) o := by
  cases o with
  | none => exact .absent
  | some s => exact .present nofun (.string s)

theorem ValueType.readsBack (t : ValueType) : ReadsBack (.string t.name) t :=
  ⟨fun _ hp ↦ Holding.choice hp (ofName?_eq_some_iff.mpr rfl)⟩

theorem Parameter.readsBack (p : Parameter) : ReadsBack p.toJson p := by
  have hmembers : p.toJson = .object (("name", .string p.name) :: ("type", .string p.type.name)
      :: (fieldIfSome "builtIn" p.builtIn ++ ("required", .bool p.required)
        :: (fieldIfSome "documentation" p.documentation ++ []))) := by
    simp [toJson]
  rw [hmembers]
  exact .record parameterFields ["name", "type", "builtIn", "required", "documentation"] .ignored
    (.required (.string p.name) (.required p.type.readsBack
      (.ifSome (.optional (.bool p.required) (.ifSome .done)))))
    (fun _ h ↦ congrArg (Except.map _) h) rfl (by decide)

theorem Catalog.readsBack (c : Catalog) : ReadsBack c.toJson c := by
  have hparameters : ReadsBack c.toJson c.parameters := .list fun p _ ↦ p.readsBack
  exact ⟨fun p hp ↦ congrArg (Except.map Catalog.mk) (hparameters.decode_eq p hp)⟩

theorem ClientParameter.readsBack (p : ClientParameter) : ReadsBack p.toJson p := by
  have hmembers : p.toJson = .object (("type", .string p.type.name)
      :: (fieldIfSome "documentation" p.documentation ++ [])) := by
    simp [toJson]
  rw [hmembers]
  exact .record clientParameterFields ["type", "documentation"] .ignored
    (.required p.type.readsBack (.ifSome .done)) (fun _ h ↦ congrArg (Except.map _) h) rfl
    (by decide)

theorem EndpointRules.readsBack {r : EndpointRules} (hrules : r.rules.InOrder) :
    ReadsBack r.toJson r :=
  .record endpointRulesFields ["version", "parameters", "rules"] .ignored
    (.optional (.textOrNull r.version) (.optional r.parameters.readsBack
      (.optional (.value hrules) .done)))
    (fun _ h ↦ congrArg (Except.map _) h) rfl (by decide)

theorem InputMember.readsBack (m : InputMember) : ReadsBack m.toJson m := by
  have hmembers : m.toJson = .object (("name", .string m.name)
      :: (fieldIfSome "contextParam" m.contextParam ++ [])) := by
    simp [toJson]
  rw [hmembers]
  exact .record inputMemberFields ["name", "contextParam"] .ignored
    (.required (.string m.name) (.ifSome .done)) (fun _ h ↦ congrArg (Except.map _) h) rfl
    (by decide)

theorem InputShape.readsBack (s : InputShape) : ReadsBack s.toJson s :=
  .record inputShapeFields ["name", "members"] .ignored
    (.required (.string s.name) (.optional (.list fun m _ ↦ m.readsBack) .done))
    (fun _ h ↦ congrArg (Except.map _) h) rfl (by decide)

theorem Operation.readsBack {o : Operation} (hstatic : ∀ v ∈ o.staticParams.values, v.InOrder) :
    ReadsBack o.toJson o := by
  refine .record operationFields ["name", "input", "staticContextParams"] .ignored
    (.required (.string o.name) (.optional ?_ (.optional (.values hstatic) .done)))
    (fun _ h ↦ congrArg (Except.map _) h) rfl (by decide)
  cases o.input with
  | none => exact .absent
  | some shape => exact .present nofun shape.readsBack

/-- The untyped values of a service: its rules, and the values that its operations fix. -/
def Service.untyped (s : Service) : List Json.Value :=
  (s.endpointRules.map EndpointRules.rules).toList
    ++ s.operations.flatMap fun o ↦ o.staticParams.values

/-- **A service reads back from its untyped form, in any format.** -/
theorem Service.readsBack {s : Service} (huntyped : ∀ v ∈ s.untyped, v.InOrder) :
    ReadsBack s.toJson s := by
  obtain ⟨hrules, hstatic⟩ := List.forall_mem_append.mp huntyped
  rw [List.forall_mem_flatMap] at hstatic
  refine .record serviceFields ["name", "endpointRules", "clientContextParams", "operations"]
    .ignored (.required (.string s.name) (.optional ?_ (.optional ?_
      (.optional (.list fun o ho ↦ Operation.readsBack (hstatic o ho)) .done))))
    (fun _ h ↦ congrArg (Except.map _) h) rfl (by decide)
  · cases hs : s.endpointRules with
    | none => exact .absent
    | some rules =>
      have hinOrder : rules.rules.InOrder := hrules _ (by simp [hs])
      exact .present nofun (EndpointRules.readsBack hinOrder)
  · cases s.clientParams with
    | none => exact .absent
    | some params => exact .present nofun (.map fun e _ ↦ e.2.readsBack)

/-! ## Numbers -/

open Json.Value

private theorem inWords_fieldIfSome (name : String) (o : Option String) :
    ∀ m ∈ fieldIfSome name o, m.2.InWords := by
  cases o with
  | none => exact List.forall_mem_nil _
  | some s => exact List.forall_mem_singleton.mpr trivial

theorem Parameter.inWords_toJson (p : Parameter) : p.toJson.InWords := by
  rw [toJson, InWords, membersInWords_iff]
  simp only [List.forall_mem_append]
  refine ⟨⟨⟨?_, inWords_fieldIfSome _ _⟩, ?_⟩, inWords_fieldIfSome _ _⟩
  · simp [InWords]
  · simp [InWords]

theorem ClientParameter.inWords_toJson (p : ClientParameter) : p.toJson.InWords := by
  rw [toJson, InWords, membersInWords_iff, List.forall_mem_cons]
  exact ⟨trivial, inWords_fieldIfSome _ _⟩

theorem EndpointRules.inWords_toJson {r : EndpointRules} (hrules : r.rules.InWords) :
    r.toJson.InWords := by
  simp only [toJson, InWords, membersInWords, and_true]
  refine ⟨?_, ?_, hrules⟩
  · cases r.version <;> trivial
  · rw [Catalog.toJson, InWords, itemsInWords_iff, List.forall_mem_map]
    exact fun p _ ↦ p.inWords_toJson

theorem InputShape.inWords_toJson (s : InputShape) : s.toJson.InWords := by
  simp only [toJson, InWords, membersInWords, true_and, and_true]
  rw [itemsInWords_iff, List.forall_mem_map]
  intro m _
  rw [InputMember.toJson, InWords, membersInWords_iff, List.forall_mem_cons]
  exact ⟨trivial, inWords_fieldIfSome _ _⟩

theorem Operation.inWords_toJson {o : Operation}
    (hstatic : ∀ v ∈ o.staticParams.values, v.InWords) : o.toJson.InWords := by
  simp only [toJson, InWords, membersInWords, true_and, and_true]
  constructor
  · cases o.input with
    | none => trivial
    | some shape => exact shape.inWords_toJson
  · rw [membersInWords_iff]
    exact fun e he ↦ hstatic e.2 (List.mem_map_of_mem he)

theorem Service.inWords_toJson {s : Service} (huntyped : ∀ v ∈ s.untyped, v.InWords) :
    s.toJson.InWords := by
  obtain ⟨hrules, hstatic⟩ := List.forall_mem_append.mp huntyped
  rw [List.forall_mem_flatMap] at hstatic
  simp only [toJson, InWords, membersInWords, true_and, and_true]
  refine ⟨?_, ?_, ?_⟩
  · cases hs : s.endpointRules with
    | none => trivial
    | some rules => exact rules.inWords_toJson (hrules _ (by simp [hs]))
  · cases s.clientParams with
    | none => trivial
    | some params =>
      rw [InWords, membersInWords_iff, OrderedMap.map, List.forall_mem_map]
      exact fun e _ ↦ e.2.inWords_toJson
  · rw [itemsInWords_iff, List.forall_mem_map]
    exact fun o ho ↦ Operation.inWords_toJson (hstatic o ho)

/-! ## The text of a service -/

/-- **Models survive as text.** The compact text of a service is read as that service, with all its
declarations in their order, if the numbers among its untyped values are whole and words of 64 bits
hold them, and the text nests no deeper than a reader goes. The members of every object are in the
order of their names, as they are in every untyped value that was read or built member by member. -/
theorem Service.read_text {s : Service} (huntyped : ∀ v ∈ s.untyped, v.InWords ∧ v.InOrder)
    (hdepth : s.toJson.depth ≤ Json.greatestDepth) : Json.read Service s.text = .ok s := by
  have hback : ReadsBack s.toJson s := readsBack fun v hv ↦ (huntyped v hv).2
  have hwords : s.toJson.InWords := inWords_toJson fun v hv ↦ (huntyped v hv).1
  exact Json.read_of_readsBack hback hwords hdepth (toList_compact s.toJson)

/-! ### An archive in which something is left out everywhere -/

private def archiveRules : Json.Value :=
  .array [.object [("conditions", .array []), ("weight", .number (.whole (-9223372036854775808)))],
    .null]

private def archive : Service :=
  ⟨"Archive",
    some ⟨none, ⟨[⟨"Region", .string, some "SDK::Region", true, some "Where \"calls\" go.\n"⟩,
      .plain "Accelerate" .boolean]⟩, archiveRules⟩,
    some (.ofList [("Zone", ⟨.string, none⟩), ("Accelerate", ⟨.boolean, some "Faster."⟩)]),
    [⟨"Put", some ⟨"PutInput", [⟨"Key", none⟩, ⟨"Zone", some "Zone"⟩]⟩,
        .ofList [("Limit", .number (.whole 18446744073709551615)), ("Accelerate", .bool true)]⟩,
      ⟨"List", none, .ofList []⟩]⟩

/-- The archive is read from its text. -/
theorem read_text_archive :
    (∀ v ∈ archive.untyped, v.InWords ∧ v.InOrder) ∧
    archive.toJson.depth ≤ Json.greatestDepth ∧
    Json.read Service archive.text = .ok archive := by
  have horder : archiveRules.InOrder := by
    have hnames : "conditions" < "weight" := String.lt_iff_toList_lt.mpr (by decide)
    simp only [archiveRules, InOrder, allInOrder, membersInOrder, and_true]
    exact List.pairwise_pair.mpr hnames
  have hwords : archiveRules.InWords := by
    simp [archiveRules, InWords, itemsInWords, membersInWords, Json.Number.InWord]
  have huntyped : ∀ v ∈ archive.untyped, v.InWords ∧ v.InOrder := by
    have hvalues : archive.untyped
        = [archiveRules, .number (.whole 18446744073709551615), .bool true] := rfl
    rw [hvalues]
    simp only [List.forall_mem_cons]
    refine ⟨⟨hwords, horder⟩, ⟨⟨by decide, by decide⟩, trivial⟩, ⟨trivial, trivial⟩, ?_⟩
    exact List.forall_mem_nil _
  have hdepth : archive.toJson.depth ≤ Json.greatestDepth := by decide
  exact ⟨huntyped, hdepth, Service.read_text huntyped hdepth⟩

end CallRouting
