import CallRouting.Document.Basic
import CallRouting.Yaml.Node
import CallRouting.Yaml.Plain

/-!
# Reading YAML by what is expected

A reference stands for the node that has its name. What is read at a place depends on what is
expected there: where a text is expected, every scalar is one, and where a truth value or nothing at
all may stand, only a plain scalar says so. A text has to have one document; an empty text has
nothing in it.

Collections may be entered 128 levels deep, and all references together may be followed a hundred
times as often as there are nodes and ends of collections.
-/

namespace CallRouting.Yaml

/-- Why a text is refused. -/
inductive Fault where
  /-- The text is malformed. -/
  | malformed
  /-- The text has more than one document. -/
  | severalDocuments
  /-- A reference is to a name that no node before it has. -/
  | unknownName
  /-- References are followed too often. -/
  | tooManyReferences
  /-- Collections are nested too deeply. -/
  | tooDeep
  /-- The text is not of the expected shape. -/
  | misshapen
  deriving DecidableEq, Repr

/-! ## Names -/

/-- A node that refers to others by numbers. -/
abbrev LinkedNode : Type := Node Nat

/-- What is known of the names in a document while it is gone through. -/
structure Names where
  /-- The numbers of names, the latest first. -/
  numbers : List (List Char × Nat)
  /-- How many different names there were. -/
  count : Nat
  /-- How many nodes with names were met. -/
  met : Nat
  /-- The nodes with names: when each was met, its number, and the node. -/
  nodes : List (Nat × Nat × LinkedNode)

namespace Names

/-- Before a document. -/
def start : Names := ⟨[], 0, 0, []⟩

/-- Meets a name: its number is the number of different names before it. -/
def meet (n : Names) (name : List Char) : Names :=
  { n with
    numbers := (name, n.count) :: n.numbers
    count := if (n.numbers.lookup name).isSome then n.count else n.count + 1
    met := n.met + 1 }

/-- Meets the name of a node, if it has one. -/
def meet? (n : Names) (name : Option (List Char)) : Names :=
  match name with
  | none => n
  | some a => n.meet a

/-- Adds a node whose name was met when `before` was known. -/
def add (n before : Names) (name : Option (List Char)) (node : LinkedNode) : Names :=
  match name with
  | none => n
  | some _ => { n with nodes := (before.met, before.count, node) :: n.nodes }

/-- The node of each number: of several the one that was met last. -/
def targets (n : Names) : List (Nat × LinkedNode) :=
  (n.nodes.mergeSort fun a b ↦ b.1 ≤ a.1).map Prod.snd

end Names

mutual

/-- Links a node: every reference becomes the number that its name has at that place. -/
def link (n : Names) : RawNode → Option (LinkedNode × Names)
  | .scalar a tag text style =>
    let node := .scalar a tag text style
    some (node, (n.meet? a).add n a node)
  | .sequence a tag items =>
    match linkItems (n.meet? a) items with
    | none => none
    | some (items, after) =>
      let node := .sequence a tag items
      some (node, after.add n a node)
  | .mapping a tag entries =>
    match linkEntries (n.meet? a) entries with
    | none => none
    | some (entries, after) =>
      let node := .mapping a tag entries
      some (node, after.add n a node)
  | .alias name => (n.numbers.lookup name).map fun i ↦ (.alias i, n)

/-- Links the items of a sequence. -/
def linkItems (n : Names) : List RawNode → Option (List LinkedNode × Names)
  | [] => some ([], n)
  | x :: rest =>
    match link n x with
    | none => none
    | some (x, n) => (linkItems n rest).map fun r ↦ (x :: r.1, r.2)

/-- Links the entries of a mapping. -/
def linkEntries (n : Names) :
    List (RawNode × RawNode) → Option (List (LinkedNode × LinkedNode) × Names)
  | [] => some ([], n)
  | (k, v) :: rest =>
    match link n k with
    | none => none
    | some (k, n) =>
      match link n v with
      | none => none
      | some (v, n) => (linkEntries n rest).map fun r ↦ ((k, v) :: r.1, r.2)

end

/-! ## References -/

mutual

/-- How many nodes and ends of collections there are. -/
def Node.eventCount : LinkedNode → Nat
  | .scalar _ _ _ _ => 1
  | .sequence _ _ items => 2 + itemsEventCount items
  | .mapping _ _ entries => 2 + entriesEventCount entries
  | .alias _ => 1

/-- How many nodes and ends of collections there are in the items of a sequence. -/
def itemsEventCount : List LinkedNode → Nat
  | [] => 0
  | x :: rest => x.eventCount + itemsEventCount rest

/-- How many nodes and ends of collections there are in the entries of a mapping. -/
def entriesEventCount : List (LinkedNode × LinkedNode) → Nat
  | [] => 0
  | (k, v) :: rest => k.eventCount + v.eventCount + entriesEventCount rest

end

mutual

/-- How many references are followed in a node, given how many are followed in each target. -/
def Node.references (counts : List (Nat × Nat)) : LinkedNode → Nat
  | .scalar _ _ _ _ => 0
  | .sequence _ _ items => itemsReferences counts items
  | .mapping _ _ entries => entriesReferences counts entries
  | .alias i => 1 + (counts.lookup i).getD 0

/-- How many references are followed in the items of a sequence. -/
def itemsReferences (counts : List (Nat × Nat)) : List LinkedNode → Nat
  | [] => 0
  | x :: rest => x.references counts + itemsReferences counts rest

/-- How many references are followed in the entries of a mapping. -/
def entriesReferences (counts : List (Nat × Nat)) : List (LinkedNode × LinkedNode) → Nat
  | [] => 0
  | (k, v) :: rest =>
    k.references counts + v.references counts + entriesReferences counts rest

end

/-- How many references are followed in each target, through so many levels of references. -/
def targetReferences (targets : List (Nat × LinkedNode)) : Nat → List (Nat × Nat)
  | 0 => []
  | levels + 1 =>
    let counts := targetReferences targets levels
    targets.map fun t ↦ (t.1, t.2.references counts)

/-! ## Places -/

/-- The most levels of collections that may be entered. -/
def greatestDepth : Nat := 128

/-- How many times references may be followed for each node or end of a collection. -/
def referenceFactor : Nat := 100

/-- A place in a document. -/
structure Place where
  /-- The node there; an empty text has none. -/
  node : Option LinkedNode
  /-- The nodes that references are to. -/
  targets : List (Nat × LinkedNode)
  /-- How many levels of collections may be entered. -/
  room : Nat

/-- The node that a node stands for. -/
def follow (targets : List (Nat × LinkedNode)) : LinkedNode → LinkedNode
  | .alias i => (targets.lookup i).getD .empty
  | n => n

/-- The text of a scalar. -/
def Node.text? {ρ : Type} : Node ρ → Option String
  | .scalar _ _ text _ => some (String.ofList text)
  | _ => none

/-- The untyped value of a node; nothing if it has none. -/
def value? (targets : List (Nat × LinkedNode)) : Nat → LinkedNode → Option Json.Value
  | room, n =>
    match follow targets n with
    | .scalar _ tag text style => scalarValue? tag text style
    | .sequence _ tag items =>
      if isLocalTag tag then none
      else
        match room with
        | 0 => none
        | room + 1 => (items.mapM (value? targets room)).map .array
    | .mapping _ tag entries =>
      if isLocalTag tag then none
      else
        match room with
        | 0 => none
        | room + 1 =>
          let member (e : LinkedNode × LinkedNode) : Option (String × Json.Value) :=
            match (follow targets e.1).text?, value? targets room e.2 with
            | some k, some v => some (k, v)
            | _, _ => none
          (entries.mapM member).map .ofMembers
    | .alias _ => none

namespace Place

/-- The node that is read at a place. -/
def content (p : Place) : Option LinkedNode := p.node.map (follow p.targets)

/-- The place of a node one level further in. -/
def enter (p : Place) (n : LinkedNode) : Place := ⟨some n, p.targets, p.room - 1⟩

/-- The text at a place: any scalar. -/
def string (p : Place) : Except Fault String :=
  match p.content.bind Node.text? with
  | some s => .ok s
  | none => .error .misshapen

/-- The truth value at a place: a plain scalar, or a literal one that is tagged as such. -/
def bool (p : Place) : Except Fault Bool :=
  match p.content with
  | some (.scalar _ tag text style) =>
    if style = .plain ∨ (style = .literal ∧ tag = some (coreTag "bool")) then
      match truth? text with
      | some b => .ok b
      | none => .error .misshapen
    else .error .misshapen
  | _ => .error .misshapen

/-- Whether nothing is there: no node, or a plain scalar that is empty or says so. -/
def isNull (p : Place) : Except Fault Bool :=
  match p.content with
  | none => .ok true
  | some (.scalar _ none text .plain) => .ok (text.isEmpty || isNullWord text)
  | some (.scalar _ (some tag) text .plain) =>
    if tag = coreTag "null" then if isNullWord text then .ok true else .error .misshapen
    else .ok false
  | some _ => .ok false

/-- The name after the exclamation mark of a tag. -/
def tagName? : Option (List Char) → Option String
  | some ('!' :: rest) => some (String.ofList rest)
  | _ => none

/-- A name is a scalar, or the tag of something that is empty. -/
def choice {α : Type} (p : Place) (named : String → Option α) : Except Fault α :=
  let pick (s : String) : Except Fault α :=
    match named s with
    | some a => .ok a
    | none => .error .misshapen
  match p.content with
  | some (.scalar _ tag text style) =>
    match tagName? tag with
    | some name =>
      if style = .plain ∧ (text.isEmpty ∨ isNullWord text) then pick name else .error .misshapen
    | none => pick (String.ofList text)
  | _ => .error .misshapen

/-- Whether a place where a collection is expected is empty. -/
def isVoid (p : Place) : Bool :=
  match p.content with
  | none => true
  | some (.scalar _ _ text style) => text.isEmpty && style == .plain
  | some _ => false

/-- The items of a list. -/
def list (p : Place) : Except Fault (Run Fault Place) :=
  if p.isVoid then .ok ⟨[], none⟩
  else
    match p.content with
    | some (.sequence _ _ items) =>
      if p.room = 0 then .error .tooDeep else .ok ⟨items.map p.enter, none⟩
    | _ => .error .misshapen

/-- An entry of a mapping, as a name and the place of its value. -/
def member (p : Place) (e : LinkedNode × LinkedNode) : Except Fault String × Place :=
  ((p.enter e.1).string, p.enter e.2)

/-- The members of a map. -/
def map (p : Place) : Except Fault (Run Fault (Except Fault String × Place)) :=
  if p.isVoid then .ok ⟨[], none⟩
  else
    match p.content with
    | some (.mapping _ _ entries) =>
      if p.room = 0 then .error .tooDeep else .ok ⟨entries.map p.member, none⟩
    | _ => .error .misshapen

/-- The fields of a record, which are always given by name. -/
def record (p : Place) : Except Fault (Parts Fault Place) := p.map.map .named

/-- The value at a place. -/
def value (p : Place) : Except Fault Json.Value :=
  match p.node with
  | none => .ok .null
  | some n =>
    match value? p.targets p.room n with
    | some v => .ok v
    | none => .error .misshapen

instance : Document Place Fault where
  string := string
  bool := bool
  isNull := isNull
  choice := choice
  list := list
  map := map
  record := record
  value := value
  skip := fun _ ↦ .ok ()
  misfit := .misshapen
  surplus := .misshapen

end Place

/-- The place of the document of a text. -/
def open? (s : String) : Except Fault Place :=
  match documents? s with
  | none => .error .malformed
  | some [] => .ok ⟨none, [], greatestDepth⟩
  | some [raw] =>
    match link .start raw with
    | none => .error .unknownName
    | some (node, names) =>
      let targets := names.targets
      let followed := node.references (targetReferences targets greatestDepth)
      if referenceFactor * node.eventCount < followed then .error .tooManyReferences
      else .ok ⟨some node, targets, greatestDepth⟩
  | some _ => .error .severalDocuments

/-- Reads a whole text as a value of a type. -/
def read (α : Type) [Decode α] (s : String) : Except Fault α :=
  match open? s with
  | .error e => .error e
  | .ok p => decode p

end CallRouting.Yaml
