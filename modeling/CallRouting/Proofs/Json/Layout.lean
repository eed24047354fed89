import CallRouting.Json.Printer
import CallRouting.Json.Reader
import Mathlib.Data.List.Basic

/-!
# Layouts

The compact and the indented form of a value differ in the blanks between their tokens and in
nothing else. A `Layout` is what stands before an item or a member at a depth, and after the colon
of a member; `Value.charsIn` writes a value in a layout, and both forms are instances of it. So what
is to be said about reading them is said once, for blanks of any sort.
-/

namespace CallRouting.Json

/-- The blanks between the tokens of a text. -/
structure Layout where
  /-- What stands before an item, a member or a closing bracket at a depth. -/
  line : ℕ → List Char
  /-- What stands after the colon of a member. -/
  gap : List Char
  /-- Only blanks stand before an item. -/
  line_blank : ∀ depth, ∀ c ∈ line depth, isSpace c = true
  /-- Only blanks stand after a colon. -/
  gap_blank : ∀ c ∈ gap, isSpace c = true

mutual

/-- A value in a layout, at a depth. -/
def Value.charsIn (L : Layout) (depth : ℕ) : Value → List Char
  | .null => "null".toList
  | .bool b => if b then "true".toList else "false".toList
  | .number n => n.render
  | .string s => quote s
  | .array [] => ['[', ']']
  | .array items => '[' :: itemsIn L (depth + 1) items ++ L.line depth ++ [']']
  | .object [] => ['{', '}']
  | .object members => '{' :: membersIn L (depth + 1) members ++ L.line depth ++ ['}']

/-- The items of an array, each with the blanks before it. -/
def itemsIn (L : Layout) (depth : ℕ) : List Value → List Char
  | [] => []
  | [v] => L.line depth ++ v.charsIn L depth
  | v :: rest => L.line depth ++ v.charsIn L depth ++ ',' :: itemsIn L depth rest

/-- The members of an object, each with the blanks before it. -/
def membersIn (L : Layout) (depth : ℕ) : List (String × Value) → List Char
  | [] => []
  | [(n, v)] => L.line depth ++ quote n ++ ':' :: L.gap ++ v.charsIn L depth
  | (n, v) :: rest =>
    L.line depth ++ quote n ++ ':' :: L.gap ++ v.charsIn L depth ++ ',' :: membersIn L depth rest

end

/-! ## What stands before the rest of a text -/

theorem quote_append (s : String) (r : List Char) :
    quote s ++ r = '"' :: (s.toList.flatMap escapeChar ++ '"' :: r) := by
  simp [quote]

section Append

variable (L : Layout) (depth : ℕ)

theorem charsIn_array_append (v : Value) (items : List Value) (r : List Char) :
    (Value.array (v :: items)).charsIn L depth ++ r
      = '[' :: (itemsIn L (depth + 1) (v :: items) ++ (L.line depth ++ ']' :: r)) := by
  simp [Value.charsIn]

theorem charsIn_object_append (m : String × Value) (members : List (String × Value))
    (r : List Char) :
    (Value.object (m :: members)).charsIn L depth ++ r
      = '{' :: (membersIn L (depth + 1) (m :: members) ++ (L.line depth ++ '}' :: r)) := by
  simp [Value.charsIn]

theorem itemsIn_singleton_append (v : Value) (r : List Char) :
    itemsIn L depth [v] ++ r = L.line depth ++ (v.charsIn L depth ++ r) := by
  simp [itemsIn]

theorem itemsIn_cons_append (v w : Value) (rest : List Value) (r : List Char) :
    itemsIn L depth (v :: w :: rest) ++ r
      = L.line depth ++ (v.charsIn L depth ++ ',' :: (itemsIn L depth (w :: rest) ++ r)) := by
  simp [itemsIn]

theorem membersIn_singleton_append (n : String) (v : Value) (r : List Char) :
    membersIn L depth [(n, v)] ++ r
      = L.line depth ++ '"' :: (n.toList.flatMap escapeChar
          ++ '"' :: ':' :: (L.gap ++ (v.charsIn L depth ++ r))) := by
  simp [membersIn, quote]

theorem membersIn_cons_append (n : String) (v : Value) (m : String × Value)
    (rest : List (String × Value)) (r : List Char) :
    membersIn L depth ((n, v) :: m :: rest) ++ r
      = L.line depth ++ '"' :: (n.toList.flatMap escapeChar
          ++ '"' :: ':' :: (L.gap
            ++ (v.charsIn L depth ++ ',' :: (membersIn L depth (m :: rest) ++ r)))) := by
  simp [membersIn, quote]

end Append

/-! ## The two forms -/

namespace Layout

/-- No blanks at all. -/
def compact : Layout := ⟨fun _ ↦ [], [], fun _ ↦ List.forall_mem_nil _, List.forall_mem_nil _⟩

/-- Every item and every member on a line of its own. -/
def indented : Layout := by
  refine ⟨newLine, [' '], fun depth c hc ↦ ?_, List.forall_mem_singleton.mpr rfl⟩
  obtain rfl | hc := List.mem_cons.mp hc
  · rfl
  · rw [List.eq_of_mem_replicate hc]
    rfl

end Layout

mutual

theorem compactChars_eq (depth : ℕ) : ∀ v : Value, v.compactChars = v.charsIn .compact depth
  | .null | .bool _ | .number _ | .string _ => by simp only [Value.compactChars, Value.charsIn]
  | .array [] | .object [] => rfl
  | .array (v :: items) => by
    rw [Value.compactChars, Value.charsIn, compactItems_eq (depth + 1) (v :: items)]
    · exact (congrArg (· ++ [']']) (List.append_nil _)).symm
    · simp
  | .object (m :: members) => by
    rw [Value.compactChars, Value.charsIn, compactMembers_eq (depth + 1) (m :: members)]
    · exact (congrArg (· ++ ['}']) (List.append_nil _)).symm
    · simp

theorem compactItems_eq (depth : ℕ) :
    ∀ items : List Value, compactItems items = itemsIn .compact depth items
  | [] => rfl
  | [v] => by
    rw [compactItems, itemsIn, compactChars_eq depth v]
    rfl
  | v :: w :: rest => by
    rw [compactItems, itemsIn, compactChars_eq depth v, compactItems_eq depth (w :: rest)]
    · rfl
    · simp
    · simp

theorem compactMembers_eq (depth : ℕ) :
    ∀ members : List (String × Value), compactMembers members = membersIn .compact depth members
  | [] => rfl
  | [(n, v)] => by
    rw [compactMembers, membersIn, compactChars_eq depth v]
    simp [Layout.compact]
  | (n, v) :: m :: rest => by
    rw [compactMembers, membersIn, compactChars_eq depth v, compactMembers_eq depth (m :: rest)]
    · simp [Layout.compact]
    · simp
    · simp

end

mutual

theorem indentedChars_eq (depth : ℕ) :
    ∀ v : Value, v.indentedChars depth = v.charsIn .indented depth
  | .null | .bool _ | .number _ | .string _ => by simp only [Value.indentedChars, Value.charsIn]
  | .array [] | .object [] => rfl
  | .array (v :: items) => by
    rw [Value.indentedChars, Value.charsIn, indentedItems_eq (depth + 1) (v :: items)]
    · rfl
    · simp
    · simp
  | .object (m :: members) => by
    rw [Value.indentedChars, Value.charsIn, indentedMembers_eq (depth + 1) (m :: members)]
    · rfl
    · simp
    · simp

theorem indentedItems_eq (depth : ℕ) :
    ∀ items : List Value, indentedItems depth items = itemsIn .indented depth items
  | [] => rfl
  | [v] => by
    rw [indentedItems, itemsIn, indentedChars_eq depth v]
    rfl
  | v :: w :: rest => by
    rw [indentedItems, itemsIn, indentedChars_eq depth v, indentedItems_eq depth (w :: rest)]
    · rfl
    · simp
    · simp

theorem indentedMembers_eq (depth : ℕ) :
    ∀ members : List (String × Value),
      indentedMembers depth members = membersIn .indented depth members
  | [] => rfl
  | [(n, v)] => by
    rw [indentedMembers, membersIn, indentedChars_eq depth v]
    simp [Layout.indented]
  | (n, v) :: m :: rest => by
    rw [indentedMembers, membersIn, indentedChars_eq depth v, indentedMembers_eq depth (m :: rest)]
    · simp [Layout.indented]
    · simp
    · simp

end

/-- The compact form is the layout without blanks. -/
theorem Value.toList_compact (v : Value) : v.compact.toList = v.charsIn .compact 0 := by
  rw [compact, String.toList_ofList, compactChars_eq 0]

/-- The indented form is the layout with lines. -/
theorem Value.toList_indented (v : Value) : v.indented.toList = v.charsIn .indented 0 := by
  rw [indented, String.toList_ofList, indentedChars_eq]

end CallRouting.Json
