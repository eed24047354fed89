import CallRouting.Json.Value
import CallRouting.OrderedMap

/-!
# Documents that are read by what is expected

A text format is read from front to back by a reader that knows what it expects at each place. What
a place may hold for a given expectation is the format's affair: one format takes only a quoted text
for a text, another any scalar. `Document ν ε` collects the answers of a format whose places are the
type `ν` and whose faults are the type `ε`; `Decode α` is the other side, the values that can be
expected.

A place that holds several others gives them as a `Run`: the places that can be reached, in order,
and the fault that stops the reader after the last one, if the text has one there. So of two faults
the one that stands first in the text is the one that is reported.
-/

namespace CallRouting

/-- Things in the order of a text, and the fault that follows the last of them, if any. -/
structure Run (ε α : Type) where
  /-- What can be reached. -/
  items : List α
  /-- What stops a reader at the end. -/
  fault : Option ε

/-- The answer of a reader that got to the end of a run. -/
def Run.finish {ε α β : Type} (run : Run ε α) (b : β) : Except ε β :=
  match run.fault with
  | some e => .error e
  | none => .ok b

/-- The fields of a record: by name, or in the order in which the record declares them. -/
inductive Parts (ε ν : Type) where
  /-- Named fields; a name may itself be at fault. -/
  | named (members : Run ε (Except ε String × ν))
  /-- Fields without names. -/
  | positional (items : Run ε ν)

/-- A format whose texts are read by what is expected at each place. -/
class Document (ν : Type) (ε : outParam Type) where
  /-- A text is expected. -/
  string : ν → Except ε String
  /-- A truth value is expected. -/
  bool : ν → Except ε Bool
  /-- Whether the place holds nothing, where something may be left out. -/
  isNull : ν → Except ε Bool
  /-- One of several names is expected. -/
  choice {α : Type} : ν → (String → Option α) → Except ε α
  /-- A list is expected. -/
  list : ν → Except ε (Run ε ν)
  /-- A map from texts is expected. -/
  map : ν → Except ε (Run ε (Except ε String × ν))
  /-- A record is expected. -/
  record : ν → Except ε (Parts ε ν)
  /-- Anything is expected. -/
  value : ν → Except ε Json.Value
  /-- Nothing is expected: the place is passed over. -/
  skip : ν → Except ε Unit
  /-- A well-formed text that is not of the expected shape. -/
  misfit : ε
  /-- More items than there are fields. -/
  surplus : ε

/-- The values that can be expected at a place of a document. -/
class Decode (α : Type) where
  /-- Reads a value at a place. -/
  decode {ν ε : Type} [Document ν ε] : ν → Except ε α

export Decode (decode)

variable {ν ε : Type} [Document ν ε]

instance : Decode String := ⟨Document.string⟩

instance : Decode Bool := ⟨Document.bool⟩

instance : Decode Json.Value := ⟨Document.value⟩

/-- Reads a value that may be left out. -/
def decodeOption {α : Type} [Decode α] (v : ν) : Except ε (Option α) :=
  match Document.isNull v with
  | .error e => .error e
  | .ok true => .ok none
  | .ok false => (decode v).map some

instance {α : Type} [Decode α] : Decode (Option α) := ⟨decodeOption⟩

/-- Reads items one after the other, up to the first that cannot be read. -/
def decodeItems {α : Type} [Decode α] : List ν → Except ε (List α)
  | [] => .ok []
  | v :: rest =>
    match decode v with
    | .error e => .error e
    | .ok a => (decodeItems rest).map (a :: ·)

/-- Reads a list. -/
def decodeList {α : Type} [Decode α] (v : ν) : Except ε (List α) :=
  match Document.list v with
  | .error e => .error e
  | .ok run =>
    match decodeItems run.items with
    | .error e => .error e
    | .ok l => run.finish l

instance {α : Type} [Decode α] : Decode (List α) := ⟨decodeList⟩

/-- Reads named members one after the other, each name before its value. -/
def decodeMembers {α : Type} [Decode α] :
    List (Except ε String × ν) → Except ε (List (String × α))
  | [] => .ok []
  | (.error e, _) :: _ => .error e
  | (.ok name, v) :: rest =>
    match decode v with
    | .error e => .error e
    | .ok a => (decodeMembers rest).map ((name, a) :: ·)

/-- Reads a map. A repeated name keeps its first place and its last value. -/
def decodeMap {α : Type} [Decode α] (v : ν) : Except ε (OrderedMap α) :=
  match Document.map v with
  | .error e => .error e
  | .ok run =>
    match decodeMembers run.items with
    | .error e => .error e
    | .ok l => run.finish (OrderedMap.ofList l)

instance {α : Type} [Decode α] : Decode (OrderedMap α) := ⟨decodeMap⟩

end CallRouting
