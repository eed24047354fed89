import CallRouting.Document.Basic
import CallRouting.Json.Reader

/-!
# Reading JSON by what is expected

A place is a document together with the number of levels that may still be entered: a text may nest
127 levels deep. A fault is either one of syntax (the text is malformed, a number is out of range,
an escape denotes no character, the nesting is too deep) or one of shape (the text is well formed,
but not what is expected). What is passed over is checked for its syntax alone: neither the range of
its numbers nor the depth of its nesting matters.
-/

namespace CallRouting.Json

/-- Why a text is refused. -/
inductive Fault where
  /-- The text is malformed. -/
  | malformed
  /-- The text is well formed but not of the expected shape. -/
  | misshapen
  deriving DecidableEq, Repr

/-- A document and the number of levels that may still be entered. -/
structure Place where
  /-- What is written there. -/
  doc : Doc
  /-- How many levels of arrays and objects may be entered. -/
  room : Nat

/-- The most levels that a text may nest. -/
def greatestDepth : Nat := 127

namespace Doc

/-- The fault of a document that is not what is expected: malformed if it cannot be read as
whatever it is. -/
def unfit : Doc → Fault
  | .broken => .malformed
  | .string none => .malformed
  | .number l => if l.value.isNone then .malformed else .misshapen
  | _ => .misshapen

/-- The text at a place where a text is expected. -/
def expectText (d : Doc) : Except Fault String :=
  match d with
  | .string (some s) => .ok s
  | d => .error d.unfit

/-- The fault after the last item. -/
def ending (closed : Bool) : Option Fault := if closed then none else some .malformed

mutual

/-- The value of a document in which so many levels may be entered; nothing if it is malformed. -/
def value? (room : Nat) : Doc → Option Value
  | .null => some .null
  | .bool b => some (.bool b)
  | .number l => l.value.map .number
  | .string s => s.map .string
  | .array items closed =>
    if room = 0 ∨ closed = false then none else (values? (room - 1) items).map .array
  | .object members closed =>
    if room = 0 ∨ closed = false then none else (memberValues? (room - 1) members).map .ofMembers
  | .broken => none

/-- The values of the items. -/
def values? (room : Nat) : List Doc → Option (List Value)
  | [] => some []
  | d :: rest =>
    match d.value? room, values? room rest with
    | some v, some vs => some (v :: vs)
    | _, _ => none

/-- The names and values of the members. -/
def memberValues? (room : Nat) : List (Doc × Doc) → Option (List (String × Value))
  | [] => some []
  | (n, d) :: rest =>
    match n.text?, d.value? room, memberValues? room rest with
    | some n, some v, some ms => some ((n, v) :: ms)
    | _, _, _ => none

end

end Doc

namespace Place

/-- The places of the items of an array or of the values of an object, one level down. -/
def enter (p : Place) (d : Doc) : Place := ⟨d, p.room - 1⟩

/-- A member, as a name and the place of its value. -/
def member (p : Place) (m : Doc × Doc) : Except Fault String × Place :=
  ((match m.1.text? with
    | some s => .ok s
    | none => .error .malformed), p.enter m.2)

/-- The text at a place. -/
def string (p : Place) : Except Fault String := p.doc.expectText

/-- The truth value at a place. -/
def bool (p : Place) : Except Fault Bool :=
  match p.doc with
  | .bool b => .ok b
  | d => .error d.unfit

/-- Whether the null value is there. -/
def isNull (p : Place) : Except Fault Bool :=
  match p.doc with
  | .null => .ok true
  | _ => .ok false

/-- A name is a text, or an object whose one member has that name and the null value. -/
def choice {α : Type} (p : Place) (named : String → Option α) : Except Fault α :=
  let pick (s : String) : Except Fault α :=
    match named s with
    | some a => .ok a
    | none => .error .misshapen
  match p.doc with
  | .string (some s) => pick s
  | .object members closed =>
    if p.room = 0 then .error .malformed
    else
      match members with
      | [] => .error .malformed
      | (n, d) :: rest =>
        match n.expectText.bind pick with
        | .error e => .error e
        | .ok a =>
          match d with
          | .null => if rest.isEmpty && closed then .ok a else .error .malformed
          | d => .error d.unfit
  | _ => .error .malformed

/-- The items of a list. -/
def list (p : Place) : Except Fault (Run Fault Place) :=
  match p.doc with
  | .array items closed =>
    if p.room = 0 then .error .malformed else .ok ⟨items.map p.enter, Doc.ending closed⟩
  | d => .error d.unfit

/-- The members of a map. -/
def map (p : Place) : Except Fault (Run Fault (Except Fault String × Place)) :=
  match p.doc with
  | .object members closed =>
    if p.room = 0 then .error .malformed else .ok ⟨members.map p.member, Doc.ending closed⟩
  | d => .error d.unfit

/-- The fields of a record: an object gives them by name, an array in order. -/
def record (p : Place) : Except Fault (Parts Fault Place) :=
  match p.doc with
  | .array _ _ => p.list.map .positional
  | _ => p.map.map .named

/-- The value at a place. -/
def value (p : Place) : Except Fault Value :=
  match p.doc.value? p.room with
  | some v => .ok v
  | none => .error .malformed

/-- Passes over a place. -/
def skip (p : Place) : Except Fault Unit :=
  if p.doc.isWhole then .ok () else .error .malformed

instance : Document Place Fault where
  string := string
  bool := bool
  isNull := isNull
  choice := choice
  list := list
  map := map
  record := record
  value := value
  skip := skip
  misfit := .misshapen
  surplus := .malformed

end Place

/-- Reads a whole text as a value of a type. What follows the value is looked at last. -/
def read (α : Type) [Decode α] (s : String) : Except Fault α :=
  let (d, ended) := Doc.read s
  match decode (Place.mk d greatestDepth) with
  | .error e => .error e
  | .ok a => if ended then .ok a else .error .malformed

end CallRouting.Json
