import CallRouting.Proofs.Call.Registrar
import CallRouting.Proofs.Call.StackEdits

/-!
# Registrations

A registration attaches the endpoint stage of an operation to a stack, or says why it does not. What
comes of it is decided by four questions in a fixed order: whether the service has the operation,
whether it has endpoint rules, whether the stack has an endpoint stage, and whether it has the
anchor of one. The second question has two sides that agree: a service with endpoint rules has a
program for each of its operations, since the table of programs is filled operation by operation.

As a change of the stack, a registration is an insertion or nothing at all. So what holds after any
history of edits holds after any history of edits and registrations, by whatever registrars: no name
occurs twice, and as all endpoint stages have one name, no stack has two of them.
-/

namespace CallRouting

/-! ## Operations by name -/

namespace Service

variable {s : Service} {name : String}

theorem operation?_eq_none (h : name ∉ s.operations.map Operation.name) :
    s.operation? name = none := by
  refine List.find?_eq_none.mpr fun o ho hname ↦ ?_
  exact h (List.mem_map.mpr ⟨o, ho, of_decide_eq_true hname⟩)

private theorem exists_find?_name {l : List Operation} (h : name ∈ l.map Operation.name) :
    ∃ o, l.find? (fun o ↦ o.name = name) = some o := by
  obtain ⟨o, ho, hname⟩ := List.mem_map.mp h
  exact Option.isSome_iff_exists.mp (List.find?_isSome.mpr ⟨o, ho, decide_eq_true hname⟩)

theorem exists_operation? (h : name ∈ s.operations.map Operation.name) :
    ∃ o, s.operation? name = some o :=
  exists_find?_name h

theorem exists_lastOperation? (h : name ∈ s.operations.map Operation.name) :
    ∃ o, s.lastOperation? name = some o := by
  refine exists_find?_name ?_
  rwa [List.map_reverse, List.mem_reverse]

end Service

namespace Call

open Binding

/-! ## Whether there is a stage to attach -/

namespace Registrar

variable {service : Service} {integrations : List Integration} {r : Registrar} {operation : String}
  (hnew : new service integrations = .ok r) (options : ClientOptions)

include hnew

theorem build_of_unknown (h : operation ∉ service.operations.map Operation.name) :
    r.build operation options = .error (.unknownOperation service.name operation) := by
  obtain ⟨compiled, -, rfl⟩ := new_eq_ok_iff.mp hnew
  rw [build, Service.operation?_eq_none h]

theorem build_of_no_rules (h : operation ∈ service.operations.map Operation.name)
    (hrules : service.endpointRules = none) : r.build operation options = .ok none := by
  obtain ⟨compiled, hcompile, rfl⟩ := new_eq_ok_iff.mp hnew
  rw [compile_of_catalog?_eq_none (Service.catalog?_of_no_rules hrules)] at hcompile
  obtain rfl := Except.ok.inj hcompile
  obtain ⟨model, hmodel⟩ := Service.exists_operation? h
  rw [build, hmodel]
  rfl

/-- With endpoint rules every operation of the service has a program, and so it has a stage. -/
theorem exists_build_of_rules (h : operation ∈ service.operations.map Operation.name)
    (hrules : service.endpointRules ≠ none) :
    ∃ built, r.build operation options = .ok (some built) := by
  obtain ⟨compiled, hcompile, rfl⟩ := new_eq_ok_iff.mp hnew
  obtain ⟨rules, hsome⟩ := Option.ne_none_iff_exists'.mp hrules
  have hcatalog : service.catalog? = some rules.parameters := Service.catalog?_of_rules hsome
  obtain ⟨-, rfl⟩ := (compile_eq_ok_iff hcatalog).mp hcompile
  obtain ⟨model, hmodel⟩ := Service.exists_operation? h
  obtain ⟨last, hlast⟩ := Service.exists_lastOperation? h
  exact ⟨_,
    build_eq_ok_some_iff.mpr ⟨model, _, hmodel, program?_compiledOf_of_last hlast, rfl⟩⟩

end Registrar

/-! ## Registrations as changes -/

/-- What comes of a registration. -/
inductive Registration where
  /-- The endpoint stage was attached. -/
  | attached
  /-- Without endpoint rules there is no endpoint stage. -/
  | noRules
  /-- The registration was refused. -/
  | refused (e : StackError)

/-- What comes of a registration, by its answer whether there is a stage. -/
def Registration.ofAnswer : Except StackError Bool → Registration
  | .ok true => .attached
  | .ok false => .noRules
  | .error e => .refused e

/-- A change of a stack: by hand, or by a registrar. -/
inductive Change where
  /-- A stage is put in or taken out. -/
  | edit (e : Edit)
  /-- A registrar attaches the endpoint stage of an operation, for a client with options. -/
  | register (r : Registrar) (operation : String) (options : ClientOptions)

namespace Stack

/-- Makes a registration. -/
def attach (s : Stack) (r : Registrar) (operation : String) (options : ClientOptions) :
    Stack × Registration :=
  (r.register operation options s).map id .ofAnswer

/-- Makes a change. -/
def change (s : Stack) : Change → Stack
  | .edit e => (s.edit e).1
  | .register r operation options => (s.attach r operation options).1

/-- Makes changes, one after the other. -/
def changeAll (s : Stack) (changes : List Change) : Stack := changes.foldl change s

section Attach

variable {s : Stack} {r : Registrar} {operation : String} {options : ClientOptions}
  {built : Built}

/-- The edit by which a stage is attached. -/
def attachment (built : Built) : Edit :=
  .insert (.ofEndpointStage built.stage) EndpointStage.anchorId .after

theorem attach_of_build_error {e : StackError} (h : r.build operation options = .error e) :
    s.attach r operation options = (s, .refused e) := by
  rw [attach, Registrar.register, h]
  rfl

theorem attach_of_build_none (h : r.build operation options = .ok none) :
    s.attach r operation options = (s, .noRules) := by
  rw [attach, Registrar.register, h]
  rfl

/-- **A registration of a stage is an edit.** -/
theorem attach_eq_edit (h : r.build operation options = .ok (some built)) :
    (s.attach r operation options).1 = (s.edit (attachment built)).1 ∧
      ((s.attach r operation options).2 = .attached ↔ (s.edit (attachment built)).2 = .done) ∧
      ∀ e, (s.attach r operation options).2 = .refused e ↔
        (s.edit (attachment built)).2 = .refused e := by
  rw [attach, Registrar.register, h, attachment, edit]
  dsimp only
  -- the stack is that of the insertion, and so is the answer, up to what it is called
  rcases s.insert (.ofEndpointStage built.stage) EndpointStage.anchorId .after with ⟨t, e | _⟩
  · simp [Registration.ofAnswer, EditAnswer.ofPut, Except.map]
  · simp [Registration.ofAnswer, EditAnswer.ofPut, Except.map]

theorem attach_fst_of_ne (h : (s.attach r operation options).2 ≠ .attached) :
    (s.attach r operation options).1 = s := by
  rcases hbuild : r.build operation options with e | none | built
  · rw [attach_of_build_error hbuild]
  · rw [attach_of_build_none hbuild]
  · obtain ⟨hstack, hdone, -⟩ := attach_eq_edit (s := s) hbuild
    rw [hstack]
    exact (s.effect_edit (attachment built)).eq_of_not_done rfl (mt hdone.mpr h)

theorem exists_edit_of_attached (h : (s.attach r operation options).2 = .attached) :
    ∃ built, r.build operation options = .ok (some built) ∧
      s.edit (attachment built) = ((s.attach r operation options).1, .done) := by
  rcases hbuild : r.build operation options with e | none | built
  · rw [attach_of_build_error hbuild] at h
    cases h
  · rw [attach_of_build_none hbuild] at h
    cases h
  · obtain ⟨hstack, hdone, -⟩ := attach_eq_edit (s := s) hbuild
    exact ⟨built, rfl, Prod.ext hstack.symm (hdone.mp h)⟩

end Attach

/-! ## Every history -/

theorem nodup_ids_change {s : Stack} (h : s.ids.Nodup) (c : Change) : (s.change c).ids.Nodup := by
  cases c with
  | edit e => exact (s.effect_edit e).nodup_ids h
  | register r operation options =>
    rw [change]
    rcases hanswer : (s.attach r operation options).2 with _ | _ | e
    · obtain ⟨built, -, hedit⟩ := exists_edit_of_attached hanswer
      have heffect := s.effect_edit (attachment built)
      rw [hedit] at heffect
      exact heffect.nodup_ids h
    all_goals
      rw [attach_fst_of_ne (by rw [hanswer]; nofun)]
      exact h

theorem nodup_ids_changeAll {s : Stack} (h : s.ids.Nodup) (changes : List Change) :
    (s.changeAll changes).ids.Nodup := by
  induction changes generalizing s with
  | nil => exact h
  | cons c rest ih => exact ih (nodup_ids_change h c)

theorem eq_of_getElem?_ofEndpointStage {s : Stack} (h : s.ids.Nodup) {i j : ℕ}
    {first second : EndpointStage} (hi : s.stages[i]? = some (.ofEndpointStage first))
    (hj : s.stages[j]? = some (.ofEndpointStage second)) : i = j := by
  have hfirst : s.ids[i]? = some EndpointStage.stageId := by
    rw [ids, List.getElem?_map, hi]
    rfl
  have hsecond : s.ids[j]? = some EndpointStage.stageId := by
    rw [ids, List.getElem?_map, hj]
    rfl
  obtain ⟨hlt, -⟩ := List.getElem?_eq_some_iff.mp hfirst
  exact (List.getElem?_inj hlt h).mp (hfirst.trans hsecond.symm)

/-- **What comes of a registration**, for the registrar of a service that is accepted. -/
theorem attach_snd {service : Service} {integrations : List Integration} {r : Registrar}
    (hnew : Registrar.new service integrations = .ok r) (s : Stack) (operation : String)
    (options : ClientOptions) :
    (s.attach r operation options).2
      = if operation ∉ service.operations.map Operation.name then
          .refused (.unknownOperation service.name operation)
        else if service.endpointRules = none then .noRules
        else if EndpointStage.stageId ∈ s.ids then
          .refused (.duplicateStage EndpointStage.stageId)
        else if EndpointStage.anchorId ∉ s.ids then
          .refused (.anchorNotFound EndpointStage.anchorId)
        else .attached := by
  by_cases hoperation : operation ∈ service.operations.map Operation.name
  swap
  · rw [if_pos hoperation,
      attach_of_build_error (Registrar.build_of_unknown hnew options hoperation)]
  rw [if_neg (not_not.mpr hoperation)]
  by_cases hrules : service.endpointRules = none
  · rw [if_pos hrules,
      attach_of_build_none (Registrar.build_of_no_rules hnew options hoperation hrules)]
  rw [if_neg hrules]
  -- from here on there is a stage, and the answer is that of its insertion
  obtain ⟨built, hbuild⟩ := Registrar.exists_build_of_rules hnew options hoperation hrules
  obtain ⟨-, hattached, hrefused⟩ := attach_eq_edit (s := s) hbuild
  by_cases hstage : EndpointStage.stageId ∈ s.ids
  · rw [if_pos hstage, hrefused, attachment, edit_insert_of_mem _ .after hstage]
    rfl
  rw [if_neg hstage]
  by_cases hanchor : EndpointStage.anchorId ∈ s.ids
  swap
  · rw [if_pos hanchor, hrefused, attachment, edit_insert_of_anchor_not_mem .after hstage hanchor]
  rw [if_neg (not_not.mpr hanchor)]
  obtain ⟨l₁, anchor, l₂, hsplit, hid, hfirst⟩ := exists_split_of_mem_ids hanchor
  rw [hattached, attachment, ← hid, edit_insert .after hstage hsplit (hid ▸ hfirst)]

theorem exists_split_of_attached {s : Stack} (hnodup : s.ids.Nodup) {r : Registrar}
    {operation : String} {options : ClientOptions}
    (h : (s.attach r operation options).2 = .attached) :
    ∃ built l₁ anchor l₂, r.build operation options = .ok (some built) ∧
      s.stages = l₁ ++ anchor :: l₂ ∧ anchor.id = EndpointStage.anchorId ∧
      EndpointStage.anchorId ∉ (l₁ ++ l₂).map Middleware.id ∧
      (s.attach r operation options).1
        = { s with stages := l₁ ++ anchor :: .ofEndpointStage built.stage :: l₂ } := by
  obtain ⟨built, hbuild, hedit⟩ := exists_edit_of_attached h
  have hstage : (Middleware.ofEndpointStage built.stage).id ∉ s.ids := by
    intro hmem
    rw [attachment, edit_insert_of_mem _ .after hmem] at hedit
    cases (Prod.mk.inj hedit).2
  have hanchor : EndpointStage.anchorId ∈ s.ids := by
    by_contra hnot
    rw [attachment, edit_insert_of_anchor_not_mem .after hstage hnot] at hedit
    cases (Prod.mk.inj hedit).2
  obtain ⟨l₁, anchor, l₂, hsplit, hid, hfirst⟩ := exists_split_of_mem_ids hanchor
  refine ⟨built, l₁, anchor, l₂, hbuild, hsplit, hid, ?_, ?_⟩
  · rw [← hid]
    exact not_mem_ids_of_nodup hnodup hsplit
  · rw [attachment, ← hid, edit_insert .after hstage hsplit (hid ▸ hfirst)] at hedit
    rw [← (Prod.mk.inj hedit).1, Side.pair, List.append_assoc]
    rfl

end Stack

open Stack

/-- **What comes of a registration.** Take the registrar of a service that is accepted, and a stack
after any history of edits and registrations, by whatever registrars.

A registration is refused if the service has no operation of the name. Otherwise nothing is attached
without endpoint rules. Otherwise the registration is refused if the stack has an endpoint stage,
and otherwise if it has no anchor for one. In every other case the stage that is built for the
operation comes right after the one anchor, and nothing else changes. Where no stage is attached the
stack is the one before the registration. And no stack with such a history has two endpoint stages.
-/
theorem registration_follows_fixed_order {service : Service} {integrations : List Integration}
    {r : Registrar} (hnew : Registrar.new service integrations = .ok r) (operation : String)
    (options : ClientOptions) (name : String) (changes : List Change) :
    let s := (new name).changeAll changes
    let registered := s.attach r operation options
    registered.2
      = (if operation ∉ service.operations.map Operation.name then
          .refused (.unknownOperation service.name operation)
        else if service.endpointRules = none then .noRules
        else if EndpointStage.stageId ∈ s.ids then
          .refused (.duplicateStage EndpointStage.stageId)
        else if EndpointStage.anchorId ∉ s.ids then
          .refused (.anchorNotFound EndpointStage.anchorId)
        else .attached) ∧
    (registered.2 = .attached →
      ∃ built l₁ anchor l₂, r.build operation options = .ok (some built) ∧
        s.stages = l₁ ++ anchor :: l₂ ∧ anchor.id = EndpointStage.anchorId ∧
        EndpointStage.anchorId ∉ (l₁ ++ l₂).map Middleware.id ∧
        registered.1 = { s with stages := l₁ ++ anchor :: .ofEndpointStage built.stage :: l₂ }) ∧
    (registered.2 ≠ .attached → registered.1 = s) ∧
    ∀ (i j : ℕ) (first second : EndpointStage),
      s.stages[i]? = some (.ofEndpointStage first) →
      s.stages[j]? = some (.ofEndpointStage second) → i = j := by
  intro s registered
  have hnodup : s.ids.Nodup := nodup_ids_changeAll (s := new name) List.nodup_nil changes
  exact ⟨attach_snd hnew s operation options, exists_split_of_attached hnodup, attach_fst_of_ne,
    fun i j first second ↦ eq_of_getElem?_ofEndpointStage hnodup⟩

/-! ### A registrar of parcels -/

private def parcels : Service :=
  ⟨"Parcels", some ⟨none, ⟨[]⟩, .null⟩, none, [⟨"Get", none, .empty⟩]⟩

private def parcelRegistrar : Registrar := ⟨parcels, [], compiledOf parcels ⟨[]⟩ []⟩

private def anchorStage : Middleware :=
  ⟨EndpointStage.anchorId, fun call ↦ ⟨call, [], .proceed⟩, fun call result ↦ ⟨call, [], result⟩⟩

private def anchored : List Change := [.edit (.add anchorStage .last)]

/-- The stage is attached to a stack with the anchor, once. -/
theorem parcel_stage_is_attached_once :
    Registrar.new parcels [] = .ok parcelRegistrar ∧
    (((Stack.new "Get").changeAll anchored).attach parcelRegistrar "Get" .empty).2 = .attached ∧
    ((Stack.new "Get").changeAll (anchored ++ [.register parcelRegistrar "Get" .empty])).ids
      = ["ResolveEndpoint", "ResolveEndpointV2"] ∧
    (((Stack.new "Get").changeAll (anchored ++ [.register parcelRegistrar "Get" .empty])).attach
        parcelRegistrar "Get" .empty).2
      = .refused (.duplicateStage "ResolveEndpointV2") := by
  have hnew : Registrar.new parcels [] = .ok parcelRegistrar :=
    Registrar.new_eq_ok_iff.mpr ⟨_, compile_of_serviceFault_eq_none rfl rfl [], rfl⟩
  obtain ⟨hfirst, -⟩ := registration_follows_fixed_order hnew "Get" .empty "Get" anchored
  obtain ⟨hsecond, -⟩ := registration_follows_fixed_order hnew "Get" .empty "Get"
    (anchored ++ [.register parcelRegistrar "Get" .empty])
  exact ⟨hnew, hfirst.trans rfl, rfl, hsecond.trans rfl⟩

end Call

end CallRouting
