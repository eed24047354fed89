/-!
# Characters and tokens of YAML

The pieces that a YAML text is made of. Indentation is made explicit: a block collection has a token
at its start and one at its end, and a key has a token before it even where the text marks it only
by the colon after it.

All line breaks are one character here: a carriage return, with or without a line feed, and the next
line character are line feeds. The line separator and the paragraph separator break lines too.
-/

namespace CallRouting.Yaml

/-- How a scalar is written. -/
inductive Style where
  /-- As it is. -/
  | plain
  /-- Between quotes, or folded. -/
  | quoted
  /-- In lines of its own, with the breaks kept. -/
  | literal
  deriving DecidableEq, Repr

/-- A piece of a text. -/
inductive Token where
  /-- The version of the language. -/
  | version (major minor : Nat)
  /-- A short handle for the front of tags. -/
  | handle (handle uri : List Char)
  /-- The mark at the start of a document. -/
  | documentStart
  /-- The mark at the end of a document. -/
  | documentEnd
  /-- The start of a sequence in lines. -/
  | blockSequenceStart
  /-- The start of a mapping in lines. -/
  | blockMappingStart
  /-- The end of a collection in lines. -/
  | blockEnd
  /-- An opening bracket. -/
  | flowSequenceStart
  /-- A closing bracket. -/
  | flowSequenceEnd
  /-- An opening brace. -/
  | flowMappingStart
  /-- A closing brace. -/
  | flowMappingEnd
  /-- The hyphen before an item. -/
  | blockEntry
  /-- The comma after an item. -/
  | flowEntry
  /-- What stands before a key. -/
  | key
  /-- What stands before a value. -/
  | value
  /-- A reference to a node that has a name. -/
  | alias (name : List Char)
  /-- A name for a node. -/
  | anchor (name : List Char)
  /-- A tag, as a handle and what follows it. -/
  | tag (handle suffix : List Char)
  /-- A scalar. -/
  | scalar (text : List Char) (style : Style)
  deriving DecidableEq, Repr

/-! ## Characters -/

/-- Whether a text may have a character at all. -/
def isPermitted (c : Char) : Bool :=
  let n := c.toNat
  n == 0x09 || n == 0x0A || n == 0x0D || (0x20 ≤ n && n ≤ 0x7E) || n == 0x85
    || (0xA0 ≤ n && n ≤ 0xD7FF) || (0xE000 ≤ n && n ≤ 0xFFFD) || 0x10000 ≤ n

/-- The text with every line break as one character. -/
def unifyBreaks : List Char → List Char
  | '\r' :: '\n' :: rest => '\n' :: unifyBreaks rest
  | '\r' :: rest => '\n' :: unifyBreaks rest
  | c :: rest => (if c.toNat = 0x85 then '\n' else c) :: unifyBreaks rest
  | [] => []

/-- Whether a character is a space or a tab. -/
def isBlankChar (c : Char) : Bool := c == ' ' || c == '\t'

/-- Whether a character breaks a line. -/
def isBreak (c : Char) : Bool := c == '\n' || c.toNat == 0x2028 || c.toNat == 0x2029

/-- Whether a character is blank or breaks a line. -/
def isGap (c : Char) : Bool := isBlankChar c || isBreak c

/-- Whether a text is at its end, or at a blank or a line break. -/
def atGap : List Char → Bool
  | [] => true
  | c :: _ => isGap c

/-- Whether a character may stand in a name. -/
def isWordChar (c : Char) : Bool :=
  ('a' ≤ c && c ≤ 'z') || ('A' ≤ c && c ≤ 'Z') || ('0' ≤ c && c ≤ '9') || c == '_' || c == '-'

/-- Whether a text, at the start of a line, starts with a mark of a document. -/
def atDocumentMark : List Char → Bool
  | '-' :: '-' :: '-' :: rest => atGap rest
  | '.' :: '.' :: '.' :: rest => atGap rest
  | _ => false

/-! ## Places -/

/-- A place in a text. -/
structure Mark where
  /-- How many characters stand before it. -/
  index : Nat
  /-- How many lines stand before it. -/
  line : Nat
  /-- How many characters of its line stand before it. -/
  column : Nat
  deriving DecidableEq, Repr

/-- The place after a character. -/
def Mark.after (m : Mark) (c : Char) : Mark :=
  if isBreak c then ⟨m.index + 1, m.line + 1, 0⟩ else ⟨m.index + 1, m.line, m.column + 1⟩

/-- The place after several characters. -/
def Mark.afterAll (m : Mark) (cs : List Char) : Mark := cs.foldl Mark.after m

/-- A place in a text, and what is left of the text there. -/
structure Cursor where
  /-- The place. -/
  mark : Mark
  /-- What is left. -/
  rest : List Char
  deriving Repr

/-- The cursor after so many characters. -/
def Cursor.skip (c : Cursor) (n : Nat) : Cursor :=
  ⟨c.mark.afterAll (c.rest.take n), c.rest.drop n⟩

/-- The characters at the front that satisfy `p`, and the cursor after them. -/
def Cursor.span (c : Cursor) (p : Char → Bool) : List Char × Cursor :=
  (c.rest.takeWhile p, ⟨c.mark.afterAll (c.rest.takeWhile p), c.rest.dropWhile p⟩)

/-- The cursor after the characters at the front that satisfy `p`. -/
def Cursor.dropWhile (c : Cursor) (p : Char → Bool) : Cursor := (c.span p).2

end CallRouting.Yaml
