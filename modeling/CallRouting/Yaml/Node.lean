import CallRouting.Yaml.Lexer

/-!
# The documents of a text

A document is a node: a scalar, a sequence, a mapping, or a reference to a node that has a name. A
text is a list of documents. What is left out is an empty plain scalar.

In a sequence in lines that stands right under a key, the hyphens need not be indented. Inside
brackets, a key and a value without braces are a mapping of one entry.
-/

namespace CallRouting.Yaml

/-- A node, in which a reference to another node is a `ρ`. -/
inductive Node (ρ : Type) where
  /-- A scalar, with its tag, and the name it has. -/
  | scalar (anchor : Option (List Char)) (tag : Option (List Char)) (text : List Char)
      (style : Style)
  /-- A sequence. -/
  | sequence (anchor : Option (List Char)) (tag : Option (List Char)) (items : List (Node ρ))
  /-- A mapping. -/
  | mapping (anchor : Option (List Char)) (tag : Option (List Char))
      (entries : List (Node ρ × Node ρ))
  /-- A reference to a node that has a name. -/
  | alias (target : ρ)
  deriving Repr

/-- A node that refers to others by their names. -/
abbrev RawNode : Type := Node (List Char)

/-- What is left out. -/
def Node.empty {ρ : Type} : Node ρ := .scalar none none [] .plain

/-- The meanings of handles. -/
abbrev Handles : Type := List (List Char × List Char)

/-- The meanings that handles have unless a directive says otherwise. -/
def Handles.default : Handles := [(['!'], ['!']), (['!', '!'], "tag:yaml.org,2002:".toList)]

/-- The tag that a handle and what follows it stand for. -/
def Handles.tag? (h : Handles) (handle suffix : List Char) : Option (List Char) :=
  if handle.isEmpty then some suffix else (h.lookup handle).map (· ++ suffix)

/-- What a node is given before it starts: its name and its tag. -/
structure Properties where
  /-- The name. -/
  anchor : Option (List Char)
  /-- The tag. -/
  tag : Option (List Char)

/-- Reads the name and the tag of a node, in either order. -/
def readProperties (h : Handles) (ts : List Token) : Option (Properties × List Token) :=
  match ts with
  | .anchor a :: .tag p s :: rest => (h.tag? p s).map fun t ↦ (⟨some a, some t⟩, rest)
  | .anchor a :: rest => some (⟨some a, none⟩, rest)
  | .tag p s :: .anchor a :: rest => (h.tag? p s).map fun t ↦ (⟨some a, some t⟩, rest)
  | .tag p s :: rest => (h.tag? p s).map fun t ↦ (⟨none, some t⟩, rest)
  | ts => some (⟨none, none⟩, ts)

/-- Whether a node is left out in a mapping in lines, in front of what is left of the tokens. -/
def blockOmitted : List Token → Bool
  | .key :: _ | .value :: _ | .blockEnd :: _ => true
  | _ => false

/-- Whether a node is left out inside braces or brackets. -/
def flowOmitted (close : Token) : List Token → Bool
  | .value :: _ | .flowEntry :: _ => true
  | t :: _ => t == close
  | [] => false

/-- The tag of a scalar: an exclamation mark alone is none. -/
def scalarTag (tag : Option (List Char)) : Option (List Char) := tag.filter (· != ['!'])

mutual

/-- Reads a node. In lines, it may be a block collection, and right under a key a sequence whose
hyphens are not indented. -/
def readNode (h : Handles) (block indentless : Bool) :
    Nat → List Token → Option (RawNode × List Token)
  | 0, _ => none
  | fuel + 1, ts =>
    match ts with
    | .alias name :: rest => some (.alias name, rest)
    | _ =>
      match readProperties h ts with
      | none => none
      | some (p, ts) =>
        match ts with
        | .blockEntry :: _ =>
          if indentless then
            (readIndentless h fuel ts).map fun r ↦ (.sequence p.anchor p.tag r.1, r.2)
          else if p.anchor.isSome || p.tag.isSome then
            some (.scalar p.anchor p.tag [] .plain, ts)
          else none
        | .scalar text style :: rest => some (.scalar p.anchor (scalarTag p.tag) text style, rest)
        | .flowSequenceStart :: rest =>
          (readFlowSequence h true fuel rest).map fun r ↦ (.sequence p.anchor p.tag r.1, r.2)
        | .flowMappingStart :: rest =>
          (readFlowMapping h true fuel rest).map fun r ↦ (.mapping p.anchor p.tag r.1, r.2)
        | t :: rest =>
          if block && t == .blockSequenceStart then
            (readBlockSequence h fuel rest).map fun r ↦ (.sequence p.anchor p.tag r.1, r.2)
          else if block && t == .blockMappingStart then
            (readBlockMapping h fuel rest).map fun r ↦ (.mapping p.anchor p.tag r.1, r.2)
          else if p.anchor.isSome || p.tag.isSome then
            some (.scalar p.anchor p.tag [] .plain, ts)
          else none
        | [] =>
          if p.anchor.isSome || p.tag.isSome then some (.scalar p.anchor p.tag [] .plain, ts)
          else none

/-- Reads a node in a block mapping, which may be left out. -/
def readBlockNode (h : Handles) (fuel : Nat) (ts : List Token) :
    Option (RawNode × List Token) :=
  match fuel with
  | 0 => none
  | fuel + 1 => if blockOmitted ts then some (.empty, ts) else readNode h true true fuel ts

/-- Reads a node inside braces or brackets, which may be left out. -/
def readFlowNode (h : Handles) (close : Token) (fuel : Nat) (ts : List Token) :
    Option (RawNode × List Token) :=
  match fuel with
  | 0 => none
  | fuel + 1 => if flowOmitted close ts then some (.empty, ts) else readNode h false false fuel ts

/-- Reads the items of a sequence in lines, and its end. -/
def readBlockSequence (h : Handles) : Nat → List Token → Option (List RawNode × List Token)
  | 0, _ => none
  | fuel + 1, ts =>
    match ts with
    | .blockEnd :: rest => some ([], rest)
    | .blockEntry :: rest =>
      let item : Option (RawNode × List Token) :=
        match rest with
        | .blockEntry :: _ | .blockEnd :: _ => some (.empty, rest)
        | _ => readNode h true false fuel rest
      match item with
      | none => none
      | some (n, rest) => (readBlockSequence h fuel rest).map fun r ↦ (n :: r.1, r.2)
    | _ => none

/-- Reads the items of a sequence whose hyphens are not indented. -/
def readIndentless (h : Handles) : Nat → List Token → Option (List RawNode × List Token)
  | 0, _ => none
  | fuel + 1, ts =>
    match ts with
    | .blockEntry :: rest =>
      let item : Option (RawNode × List Token) :=
        match rest with
        | .blockEntry :: _ | .key :: _ | .value :: _ | .blockEnd :: _ => some (.empty, rest)
        | _ => readNode h true false fuel rest
      match item with
      | none => none
      | some (n, rest) => (readIndentless h fuel rest).map fun r ↦ (n :: r.1, r.2)
    | _ => some ([], ts)

/-- Reads the entries of a mapping in lines, and its end. -/
def readBlockMapping (h : Handles) :
    Nat → List Token → Option (List (RawNode × RawNode) × List Token)
  | 0, _ => none
  | fuel + 1, ts =>
    match ts with
    | .blockEnd :: rest => some ([], rest)
    | .key :: rest =>
      match readBlockNode h fuel rest with
      | none => none
      | some (k, rest) =>
        match readBlockValue h fuel rest with
        | none => none
        | some (v, rest) => (readBlockMapping h fuel rest).map fun r ↦ ((k, v) :: r.1, r.2)
    | _ => none

/-- Reads the value of a key in lines; it may be left out together with its colon. -/
def readBlockValue (h : Handles) : Nat → List Token → Option (RawNode × List Token)
  | 0, _ => none
  | fuel + 1, ts =>
    match ts with
    | .value :: rest => readBlockNode h fuel rest
    | _ => some (.empty, ts)

/-- Reads the value of a key inside braces or brackets. -/
def readFlowValue (h : Handles) (close : Token) : Nat → List Token → Option (RawNode × List Token)
  | 0, _ => none
  | fuel + 1, ts =>
    match ts with
    | .value :: .value :: _ => none
    | .value :: rest => readFlowNode h close fuel rest
    | _ => some (.empty, ts)

/-- Reads the items of a sequence in brackets, and the closing bracket. -/
def readFlowSequence (h : Handles) (first : Bool) :
    Nat → List Token → Option (List RawNode × List Token)
  | 0, _ => none
  | fuel + 1, ts =>
    match ts with
    | .flowSequenceEnd :: rest => some ([], rest)
    | _ =>
      let items : Option (List Token) :=
        if first then some ts
        else
          match ts with
          | .flowEntry :: rest => some rest
          | _ => none
      match items with
      | none => none
      | some (.flowSequenceEnd :: rest) => some ([], rest)
      | some (.key :: rest) =>
        match readPair h fuel rest with
        | none => none
        | some (n, rest) => (readFlowSequence h false fuel rest).map fun r ↦ (n :: r.1, r.2)
      | some rest =>
        match readNode h false false fuel rest with
        | none => none
        | some (n, rest) => (readFlowSequence h false fuel rest).map fun r ↦ (n :: r.1, r.2)

/-- Reads a key and a value in brackets, as a mapping of one entry. Where the key is left out, so
is the sign that follows it. -/
def readPair (h : Handles) : Nat → List Token → Option (RawNode × List Token)
  | 0, _ => none
  | fuel + 1, ts =>
    let key : Option (RawNode × List Token) :=
      if flowOmitted .flowSequenceEnd ts then some (.empty, ts.drop 1)
      else readNode h false false fuel ts
    match key with
    | none => none
    | some (k, rest) =>
      (readFlowValue h .flowSequenceEnd fuel rest).map fun r ↦
        (.mapping none none [(k, r.1)], r.2)

/-- Reads the entries of a mapping in braces, and the closing brace. -/
def readFlowMapping (h : Handles) (first : Bool) :
    Nat → List Token → Option (List (RawNode × RawNode) × List Token)
  | 0, _ => none
  | fuel + 1, ts =>
    match ts with
    | .flowMappingEnd :: rest => some ([], rest)
    | _ =>
      let entries : Option (List Token) :=
        if first then some ts
        else
          match ts with
          | .flowEntry :: rest => some rest
          | _ => none
      match entries with
      | none => none
      | some (.flowMappingEnd :: rest) => some ([], rest)
      | some (.key :: rest) =>
        match readFlowNode h .flowMappingEnd fuel rest with
        | none => none
        | some (k, rest) =>
          match readFlowValue h .flowMappingEnd fuel rest with
          | none => none
          | some (v, rest) => (readFlowMapping h false fuel rest).map fun r ↦ ((k, v) :: r.1, r.2)
      | some rest =>
        match readNode h false false fuel rest with
        | none => none
        | some (k, rest) =>
          (readFlowMapping h false fuel rest).map fun r ↦ ((k, .empty) :: r.1, r.2)

end

/-! ## Documents -/

/-- What the directives before a document say: whether the version was given, and handles. -/
structure Directives where
  /-- Whether the version was given. -/
  versioned : Bool
  /-- The handles that were given a meaning. -/
  handles : Handles

/-- Reads the directives before a document. Each thing may be said once, and the version must be one
of the first. -/
def readDirectives : Directives → List Token → Option (Directives × List Token)
  | d, .version major minor :: rest =>
    if d.versioned || major ≠ 1 || !(minor == 1 || minor == 2) then none
    else readDirectives { d with versioned := true } rest
  | d, .handle handle uri :: rest =>
    if (d.handles.lookup handle).isSome then none
    else readDirectives { d with handles := d.handles ++ [(handle, uri)] } rest
  | d, ts => some (d, ts)

/-- Whether a document is empty in front of what is left of the tokens. -/
def atDocumentEnd : List Token → Bool
  | [] => true
  | .version _ _ :: _ | .handle _ _ :: _ | .documentStart :: _ | .documentEnd :: _ => true
  | _ => false

/-- Reads the documents of a text, of which there are at most `fuel`. The mark before the first
document may be left out. -/
def readDocuments (first : Bool) : Nat → List Token → Option (List RawNode)
  | 0, _ => none
  | fuel + 1, ts =>
    let ts := if first then ts else ts.dropWhile (· == .documentEnd)
    let size := 4 * ts.length + 8
    let go (h : Handles) (empty : Bool) (ts : List Token) : Option (List RawNode) :=
      let node : Option (RawNode × List Token) :=
        if empty then some (.empty, ts) else readNode (h ++ Handles.default) true false size ts
      match node with
      | none => none
      | some (n, rest) =>
        let rest :=
          match rest with
          | .documentEnd :: r => r
          | r => r
        (readDocuments false fuel rest).map (n :: ·)
    if first && !atDocumentEnd ts then go [] false ts
    else if first && ts.head? == some .documentEnd then
      none
    else
      match ts with
      | [] => some []
      | ts =>
        match readDirectives ⟨false, []⟩ ts with
        | some (d, .documentStart :: rest) => go d.handles (atDocumentEnd rest) rest
        | _ => none

/-- The documents of a text; nothing if it is malformed. -/
def documents? (s : String) : Option (List RawNode) :=
  match tokens? s with
  | none => none
  | some ts => readDocuments true (ts.length + 2) ts

end CallRouting.Yaml
