import CallRouting.Call.EndpointStage

/-!
# The parts of the endpoint stage

The parts of the stage that have more to them than one look: what sources of built-in values supply
one after the other, and what comes of asking a resolver. Each is described by an equation that has
what is left, what is logged and the answer as functions of the exchange that the part is given. How
one part goes on after another is said once for all of them.
-/

namespace CallRouting.Call

/-! ## One part after another -/

namespace Pass

variable {α β : Type} {p : Pass α} {f : α → Pass β} {x y : Exchange} {log : List Event}

theorem andThen_of_error {e : EndpointError} (h : p x = ⟨y, log, .error e⟩) :
    p.andThen f x = ⟨y, log, .error e⟩ := by
  rw [andThen, h]

theorem andThen_of_ok {a : α} (h : p x = ⟨y, log, .ok a⟩) :
    p.andThen f x = ⟨(f a y).exchange, log ++ (f a y).log, (f a y).result⟩ := by
  rw [andThen, h]

theorem andThen_assoc {γ : Type} (p : Pass α) (f : α → Pass β) (g : β → Pass γ) :
    (p.andThen f).andThen g = p.andThen fun a ↦ (f a).andThen g := by
  funext x
  rcases hp : p x with ⟨y, log, e | a⟩
  · rw [andThen_of_error hp, andThen_of_error (andThen_of_error hp)]
  · rw [andThen_of_ok hp]
    rcases hf : f a y with ⟨z, log', e | b⟩
    · rw [andThen_of_error hf, andThen_of_error (y := z) (e := e)]
      rw [andThen_of_ok hp, hf]
    · rw [andThen_of_ok hf, andThen_of_ok (y := z) (a := b), List.append_assoc]
      rw [andThen_of_ok hp, hf]

end Pass

/-! ## The sources of built-in values -/

@[simp] theorem Context.cancelIf_false (c : Context) : c.cancelIf false = c := by
  rw [cancelIf, Bool.or_false]

theorem Context.cancelIf_cancelIf (c : Context) (a b : Bool) :
    (c.cancelIf a).cancelIf b = c.cancelIf (a || b) := by
  rw [cancelIf, cancelIf, cancelIf, Bool.or_assoc]

/-- What sources supply one after the other, for the context that the first of them is given. -/
def supplies : List BuiltInSource → Context → List Supply
  | [], _ => []
  | s :: rest, c => s.supply c :: supplies rest (c.cancelIf (s.supply c).cancels)

/-- What is logged of supplies. -/
def suppliesLog (l : List Supply) : List Event :=
  l.flatMap fun s ↦ .supplied s.values :: s.notes.map .note

/-- The exchange after supplies: a source can do no more than cancel the call. -/
def Exchange.afterSupplies (x : Exchange) (l : List Supply) : Exchange :=
  { x with context := x.context.cancelIf (l.any Supply.cancels) }

namespace EndpointStage

private theorem takeSupply_eq (source : BuiltInSource) (x : Exchange) :
    takeSupply source x
      = ⟨x.afterSupplies [source.supply x.context], suppliesLog [source.supply x.context],
          .ok (source.supply x.context).values⟩ := by
  rw [takeSupply, Exchange.afterSupplies, List.any_cons, List.any_nil, Bool.or_false, suppliesLog,
    List.flatMap_singleton]

theorem takeSupplies_eq (l : List BuiltInSource) (x : Exchange) :
    takeSupplies l x
      = ⟨x.afterSupplies (supplies l x.context), suppliesLog (supplies l x.context),
          .ok ((supplies l x.context).map Supply.values)⟩ := by
  induction l generalizing x with
  | nil =>
    rw [supplies, Exchange.afterSupplies, List.any_nil, Context.cancelIf_false]
    rfl
  | cons s rest ih =>
    have hbind : takeSupplies (s :: rest)
        = (takeSupply s).andThen fun values ↦ (takeSupplies rest).andThen
            fun others ↦ .answer (values :: others) := rfl
    rw [hbind, Pass.andThen_of_ok (takeSupply_eq s x), Pass.andThen_of_ok (ih _)]
    simp [Pass.answer, supplies, suppliesLog, Exchange.afterSupplies, Context.cancelIf_cancelIf]

end EndpointStage

/-! ## Resolvers -/

namespace Resolver

variable (r : Resolver) (c : Context) (record : Binding.Record)

/-- What is logged of asking a resolver: nothing if the call is canceled, for then it is not asked.
-/
def said : List Event :=
  if c.canceled then [] else .asked record :: (r.resolve c record).notes.map .note

/-- Whether a resolver that is asked cancels the call, or was abandoned because it is canceled. -/
def cancels : Bool :=
  if c.canceled then false
  else
    match (r.resolve c record).answer with
    | .abandoned => true
    | .answered cancels _ => cancels

/-- What comes of asking a resolver. -/
def verdict : Except EndpointError Http.Endpoint :=
  if c.canceled then .error .canceled
  else
    match (r.resolve c record).answer with
    | .abandoned => .error .canceled
    | .answered _ (.error cause) => .error (.unresolved cause)
    | .answered cancels (.ok endpoint) => if cancels then .error .canceled else .ok endpoint

theorem pass_eq (x : Exchange) :
    r.pass record x
      = ⟨{ x with context := x.context.cancelIf (r.cancels x.context record) },
          r.said x.context record, r.verdict x.context record⟩ := by
  rw [pass, said, cancels, verdict]
  by_cases hcanceled : x.context.canceled = true
  · simp [hcanceled]
  · rw [if_neg hcanceled, if_neg hcanceled, if_neg hcanceled, if_neg hcanceled]
    dsimp only
    rcases (r.resolve x.context record).answer with ⟨cancels, cause | endpoint⟩ | _ <;> rfl

variable {r c record}

/-- An endpoint counts only if the call is not canceled, neither before nor by the resolver. -/
theorem verdict_eq_ok_iff {endpoint : Http.Endpoint} :
    r.verdict c record = .ok endpoint ↔
      c.canceled = false ∧ (r.resolve c record).answer = .answered false (.ok endpoint) := by
  rw [verdict]
  by_cases hcanceled : c.canceled = true
  · simp [hcanceled]
  · rw [if_neg hcanceled]
    rcases (r.resolve c record).answer with ⟨_ | _, cause | found⟩ | _ <;>
      simp [Bool.eq_false_iff.mpr hcanceled]

theorem eq_of_verdict_eq_error {e : EndpointError} (h : r.verdict c record = .error e) :
    e = .canceled ∨ ∃ cause, e = .unresolved cause := by
  rw [verdict] at h
  by_cases hcanceled : c.canceled = true
  · rw [if_pos hcanceled] at h
    exact Or.inl (Except.error.inj h).symm
  · rw [if_neg hcanceled] at h
    rcases hanswer : (r.resolve c record).answer with ⟨_ | _, cause | endpoint⟩ | _ <;>
      rw [hanswer] at h
    · exact Or.inr ⟨cause, (Except.error.inj h).symm⟩
    · cases h
    · exact Or.inr ⟨cause, (Except.error.inj h).symm⟩
    · exact Or.inl (Except.error.inj h).symm
    · exact Or.inl (Except.error.inj h).symm

theorem cancels_of_verdict_eq_ok {endpoint : Http.Endpoint}
    (h : r.verdict c record = .ok endpoint) : r.cancels c record = false := by
  obtain ⟨hcanceled, hanswer⟩ := verdict_eq_ok_iff.mp h
  rw [cancels, hcanceled, hanswer]
  rfl

end Resolver

end CallRouting.Call
