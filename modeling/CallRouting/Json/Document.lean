import CallRouting.Json.Number

/-!
# Documents of JSON

What is written in a text, before anyone asks what it means. A `Doc` keeps every member of an object
in the order of the text, repeated names included, and a number as the digits that were written. A
malformed text has a document too: it is cut at the first fault, and the cut is part of it. So a
reader that walks a document from front to back meets a fault of the text and a value of the wrong
sort in the order in which they stand.

A text with an escape that denotes no character (one half of a surrogate pair) is well formed as a
document, since a reader may skip it; it has no characters. What stands in the place of a name is
kept as it is, though only a text makes a member: anything else is the last thing in a document.
-/

namespace CallRouting.Json

/-- What a text holds, cut at its first fault. -/
inductive Doc where
  /-- The null value. -/
  | null
  /-- A truth value. -/
  | bool (b : Bool)
  /-- A number, as it is written. -/
  | number (l : Literal)
  /-- A text; without characters if one of its escapes denotes none. -/
  | string (s : Option String)
  /-- A sequence. It is closed unless the text has a fault right after the last item. -/
  | array (items : List Doc) (closed : Bool)
  /-- Named members. They are closed unless the text has a fault right after the last one. -/
  | object (members : List (Doc × Doc)) (closed : Bool)
  /-- Nothing that could be read. -/
  | broken
  deriving Repr

namespace Doc

instance : Inhabited Doc := ⟨.broken⟩

/-- The text of a document that is one and has characters. -/
def text? : Doc → Option String
  | .string s => s
  | _ => none

mutual

/-- Whether the text has no fault here, whatever its numbers and texts denote. -/
def isWhole : Doc → Bool
  | .broken => false
  | .array items closed => allWhole items && closed
  | .object members closed => membersWhole members && closed
  | _ => true

/-- Whether every item is without fault. -/
def allWhole : List Doc → Bool
  | [] => true
  | d :: rest => d.isWhole && allWhole rest

/-- Whether every member is without fault. -/
def membersWhole : List (Doc × Doc) → Bool
  | [] => true
  | (_, d) :: rest => d.isWhole && membersWhole rest

end

end Doc

end CallRouting.Json
