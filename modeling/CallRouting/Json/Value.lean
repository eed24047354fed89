import CallRouting.Json.Number

/-!
# Values of JSON

An untyped value. The members of an object are kept in the order of their names, compared code point
by code point, and a name occurs once: `Value.object` holds any list, `Value.ofMembers` builds one
that is in order, and `Value.InOrder` says that a value is built like that throughout.
-/

namespace CallRouting.Json

/-- An untyped value. -/
inductive Value where
  /-- The null value. -/
  | null
  /-- A truth value. -/
  | bool (b : Bool)
  /-- A number. -/
  | number (n : Number)
  /-- A text. -/
  | string (s : String)
  /-- A sequence. -/
  | array (items : List Value)
  /-- Named members, in the order of their names. -/
  | object (members : List (String × Value))
  deriving Repr

namespace Value

instance : Inhabited Value := ⟨.null⟩

/-- Adds a member at the place of its name, and replaces the member of that name. -/
def putMember {α : Type} (name : String) (value : α) : List (String × α) → List (String × α)
  | [] => [(name, value)]
  | (n, v) :: rest =>
    if name = n then (name, value) :: rest
    else if name < n then (name, value) :: (n, v) :: rest
    else (n, v) :: putMember name value rest

/-- The members of a list in the order of their names; of members with one name the last counts. -/
def sortMembers {α : Type} (l : List (String × α)) : List (String × α) :=
  l.foldl (fun ms m ↦ putMember m.1 m.2 ms) []

/-- The object with the members of a list. -/
def ofMembers (l : List (String × Value)) : Value := .object (sortMembers l)

/-- The member of an object with a name. -/
def member? : Value → String → Option Value
  | .object ms, name => ms.lookup name
  | _, _ => none

/-- What sort of value it is, as it is called in messages. -/
def kindName : Value → String
  | .null => "null"
  | .bool _ => "boolean"
  | .number _ => "number"
  | .string _ => "string"
  | .array _ => "array"
  | .object _ => "object"

/-! ## Order of members -/

/-- Whether names follow each other in strictly rising order. -/
def Ascending (names : List String) : Prop := names.Pairwise (· < ·)

instance (names : List String) : Decidable (Ascending names) :=
  inferInstanceAs (Decidable (List.Pairwise _ _))

mutual

/-- Whether the members of every object in the value are in the order of their names. -/
def InOrder : Value → Prop
  | .array items => allInOrder items
  | .object members => Ascending (members.map Prod.fst) ∧ membersInOrder members
  | _ => True

/-- Whether every item is in order. -/
def allInOrder : List Value → Prop
  | [] => True
  | v :: rest => InOrder v ∧ allInOrder rest

/-- Whether the value of every member is in order. -/
def membersInOrder : List (String × Value) → Prop
  | [] => True
  | (_, v) :: rest => InOrder v ∧ membersInOrder rest

end

/-! ## Equality -/

mutual

/-- Whether two values are the same. -/
def same : Value → Value → Bool
  | .null, .null => true
  | .bool a, .bool b => a == b
  | .number a, .number b => a == b
  | .string a, .string b => a == b
  | .array a, .array b => sameItems a b
  | .object a, .object b => sameMembers a b
  | _, _ => false

/-- Whether two lists of values are the same. -/
def sameItems : List Value → List Value → Bool
  | [], [] => true
  | a :: as, b :: bs => same a b && sameItems as bs
  | _, _ => false

/-- Whether two lists of members are the same. -/
def sameMembers : List (String × Value) → List (String × Value) → Bool
  | [], [] => true
  | (n, a) :: as, (m, b) :: bs => n == m && same a b && sameMembers as bs
  | _, _ => false

end

mutual

theorem eq_of_same : ∀ {a b : Value}, same a b = true → a = b
  | .null, b, h => by cases b <;> simp_all [same]
  | .bool _, b, h => by cases b <;> simp_all [same]
  | .number _, b, h => by cases b <;> simp_all [same]
  | .string _, b, h => by cases b <;> simp_all [same]
  | .array as, b, h => by
    cases b with
    | array bs =>
      have items : sameItems as bs = true := by simpa [same] using h
      rw [eq_of_sameItems items]
    | _ => simp [same] at h
  | .object as, b, h => by
    cases b with
    | object bs =>
      have members : sameMembers as bs = true := by simpa [same] using h
      rw [eq_of_sameMembers members]
    | _ => simp [same] at h

theorem eq_of_sameItems : ∀ {as bs : List Value}, sameItems as bs = true → as = bs
  | [], bs, h => by cases bs <;> simp_all [sameItems]
  | a :: as, [], h => by simp [sameItems] at h
  | a :: as, b :: bs, h => by
    simp only [sameItems, Bool.and_eq_true] at h
    rw [eq_of_same h.1, eq_of_sameItems h.2]

theorem eq_of_sameMembers :
    ∀ {as bs : List (String × Value)}, sameMembers as bs = true → as = bs
  | [], bs, h => by cases bs <;> simp_all [sameMembers]
  | (n, a) :: as, [], h => by simp [sameMembers] at h
  | (n, a) :: as, (m, b) :: bs, h => by
    simp only [sameMembers, Bool.and_eq_true, beq_iff_eq] at h
    rw [h.1.1, eq_of_same h.1.2, eq_of_sameMembers h.2]

end

mutual

theorem same_self : ∀ a : Value, same a a = true
  | .null | .bool _ | .number _ | .string _ => by simp [same]
  | .array as => by simpa [same] using sameItems_self as
  | .object as => by simpa [same] using sameMembers_self as

theorem sameItems_self : ∀ as : List Value, sameItems as as = true
  | [] => rfl
  | a :: as => by simp [sameItems, same_self a, sameItems_self as]

theorem sameMembers_self : ∀ as : List (String × Value), sameMembers as as = true
  | [] => rfl
  | (n, a) :: as => by simp [sameMembers, same_self a, sameMembers_self as]

end

instance : DecidableEq Value := fun a b ↦
  if h : same a b = true then .isTrue (eq_of_same h)
  else .isFalse fun e ↦ h (e ▸ same_self a)

end Value

end CallRouting.Json
