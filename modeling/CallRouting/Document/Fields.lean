import CallRouting.Document.Basic

/-!
# Records

The fields of a record are listed once, each with its name, the reader of its value and the value
that stands for it when it is left out. One reader serves all records:

* fields given by name may come in any order, each at most once; a name that the record does not
  have is passed over or refused, as the record says;
* fields given in order may stop early if all that are left have a value that stands for them, and
  there may be no more of them than the record has.
-/

namespace CallRouting

/-- The values of the fields of a record. -/
abbrev Tuple : List Type → Type
  | [] => Unit
  | β :: βs => β × Tuple βs

/-- What is known of the fields of a record while it is read. -/
abbrev Slots : List Type → Type
  | [] => Unit
  | β :: βs => Option β × Slots βs

/-- The fields of a record, in the order in which it declares them. -/
inductive Fields (ν ε : Type) : List Type → Type 1 where
  /-- No more fields. -/
  | done : Fields ν ε []
  /-- A field with its name, its reader and the value that stands for it when it is left out. -/
  | field {β : Type} {βs : List Type} (name : String) (read : ν → Except ε β)
      (absent : Option β) (rest : Fields ν ε βs) : Fields ν ε (β :: βs)

namespace Fields

variable {ν ε : Type}

/-- A field that must be given. -/
def required {βs : List Type} [Document ν ε] (name : String) (β : Type) [Decode β]
    (rest : Fields ν ε βs) : Fields ν ε (β :: βs) := .field name decode none rest

/-- A field that may be left out. -/
def optional {β : Type} {βs : List Type} [Document ν ε] [Decode β] (name : String) (absent : β)
    (rest : Fields ν ε βs) : Fields ν ε (β :: βs) := .field name decode (some absent) rest

/-- Nothing is known of any field. -/
def unread : {βs : List Type} → Fields ν ε βs → Slots βs
  | _, .done => ()
  | _, .field _ _ _ rest => (none, rest.unread)

/-- Reads the value of the field with a name; nothing if there is no such field. A field that was
read before is not read again. -/
def offer [Document ν ε] (name : String) (v : ν) :
    {βs : List Type} → Fields ν ε βs → Slots βs → Option (Except ε (Slots βs))
  | _, .done, _ => none
  | _, .field n read _ rest, (slot, slots) =>
    if name = n then
      match slot with
      | some _ => some (.error (Document.misfit ν))
      | none => some ((read v).map fun b ↦ (some b, slots))
    else (rest.offer name v slots).map fun r ↦ r.map fun slots ↦ (slot, slots)

/-- What a record does with a name that it does not have. -/
inductive Stranger where
  /-- It passes it over. -/
  | ignored
  /-- It refuses it. -/
  | refused

/-- Reads named fields one after the other. -/
def readNamed [Document ν ε] {βs : List Type} (fields : Fields ν ε βs) (stranger : Stranger) :
    Slots βs → List (Except ε String × ν) → Except ε (Slots βs)
  | slots, [] => .ok slots
  | _, (.error e, _) :: _ => .error e
  | slots, (.ok name, v) :: rest =>
    match fields.offer name v slots with
    | some (.error e) => .error e
    | some (.ok slots) => fields.readNamed stranger slots rest
    | none =>
      match stranger with
      | .refused => .error (Document.misfit ν)
      | .ignored =>
        match Document.skip v with
        | .error e => .error e
        | .ok () => fields.readNamed stranger slots rest

/-- The values of the fields after all that were given are read. -/
def close [Document ν ε] : {βs : List Type} → Fields ν ε βs → Slots βs → Except ε (Tuple βs)
  | _, .done, _ => .ok ()
  | _, .field _ _ absent rest, (slot, slots) =>
    match slot.or absent with
    | none => .error (Document.misfit ν)
    | some b => (rest.close slots).map (b, ·)

/-- Reads fields in the order of the record. -/
def readInOrder [Document ν ε] :
    {βs : List Type} → Fields ν ε βs → List ν → Option ε → Except ε (Tuple βs)
  | _, .done, [], none => .ok ()
  | _, .done, [], some e => .error e
  | _, .done, _ :: _, _ => .error (Document.surplus ν)
  | _, .field _ read _ rest, v :: items, fault =>
    match read v with
    | .error e => .error e
    | .ok b => (rest.readInOrder items fault).map (b, ·)
  | _, .field _ _ _ _, [], some e => .error e
  | _, .field _ _ absent rest, [], none =>
    match absent with
    | none => .error (Document.misfit ν)
    | some b => (rest.readInOrder [] none).map (b, ·)

/-- Reads the fields of a record at a place. -/
def read [Document ν ε] {βs : List Type} (fields : Fields ν ε βs) (stranger : Stranger) (v : ν) :
    Except ε (Tuple βs) :=
  match Document.record v with
  | .error e => .error e
  | .ok (.positional run) => fields.readInOrder run.items run.fault
  | .ok (.named run) =>
    match fields.readNamed stranger fields.unread run.items with
    | .error e => .error e
    | .ok slots =>
      match run.fault with
      | some e => .error e
      | none => fields.close slots

end Fields

end CallRouting
