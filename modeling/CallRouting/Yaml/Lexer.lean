import CallRouting.Yaml.Property

/-!
# The tokens of a text

A text is taken apart from front to back. What may be the key of a mapping is known only when the
colon after it is reached, so the place of every possible key is remembered, one for each level of
brackets and braces; when the colon comes, the token of a key is put in that place, and before it
the token of a mapping's start if the key is indented more than what holds it. A key ends on the
line on which it starts, within 1024 characters.
-/

namespace CallRouting.Yaml

/-- A place that may turn out to be the start of a key. -/
structure PossibleKey where
  /-- Whether nothing else can stand there. -/
  required : Bool
  /-- How many tokens stand before it. -/
  position : Nat
  /-- The place. -/
  mark : Mark

/-- What is known while a text is taken apart. -/
structure Lexer where
  /-- What is left of the text. -/
  cursor : Cursor
  /-- The tokens so far. -/
  tokens : Array Token
  /-- How far the innermost block collection is indented; less than zero outside all of them. -/
  indent : Int
  /-- How far the block collections around it are indented, the innermost first. -/
  outer : List Int
  /-- Whether a key may start here. -/
  keyAllowed : Bool
  /-- The possible key outside the innermost brackets or braces, and so on outward; the first is the
  one of the innermost level. -/
  keys : List (Option PossibleKey)

namespace Lexer

/-- At the start of a text. -/
def start (cs : List Char) : Lexer := ⟨⟨⟨0, 0, 0⟩, cs⟩, #[], -1, [], true, [none]⟩

/-- Whether the place is inside brackets or braces. -/
def inFlow (l : Lexer) : Bool := 1 < l.keys.length

/-- Adds a token. -/
def push (l : Lexer) (t : Token) : Lexer := { l with tokens := l.tokens.push t }

/-- Adds a token of so many characters. -/
def pushSign (l : Lexer) (t : Token) (length : Nat) : Lexer :=
  { l with tokens := l.tokens.push t, cursor := l.cursor.skip length }

/-- The possible key of the innermost level. -/
def key? (l : Lexer) : Option PossibleKey := l.keys.head?.join

/-- Replaces the possible key of the innermost level. -/
def setKey (l : Lexer) (k : Option PossibleKey) : Lexer := { l with keys := k :: l.keys.drop 1 }

/-- Gives up the possible key of the innermost level; that fails if nothing else can stand there. -/
def dropKey (l : Lexer) : Option Lexer :=
  match l.key? with
  | some k => if k.required then none else some (l.setKey none)
  | none => some l

/-- Remembers the place as a possible key, if a key may start here. -/
def saveKey (l : Lexer) : Option Lexer :=
  if l.keyAllowed then
    l.dropKey.map fun l ↦
      l.setKey <| some
        ⟨!l.inFlow && l.indent == l.cursor.mark.column, l.tokens.size, l.cursor.mark⟩
  else some l

/-- Whether a key that starts at a possible key cannot reach the place any more. -/
def PossibleKey.isStale (k : PossibleKey) (m : Mark) : Bool :=
  k.mark.line < m.line || k.mark.index + 1024 < m.index

/-- Gives up the possible keys that the place is out of reach of. -/
def dropStale (l : Lexer) : Option Lexer :=
  let stale (k : PossibleKey) : Bool := PossibleKey.isStale k l.cursor.mark
  if l.keys.any fun k ↦ k.any fun k ↦ stale k && k.required then none
  else some { l with keys := l.keys.map fun k ↦ k.filter (!stale ·) }

/-- Ends the block collections that are indented more than `column`. -/
def unindent (column : Int) (tokens : Array Token) : Int → List Int → Array Token × Int × List Int
  | indent, [] => (tokens, indent, [])
  | indent, o :: rest =>
    if column < indent then unindent column (tokens.push .blockEnd) o rest
    else (tokens, indent, o :: rest)

/-- Ends the block collections that are indented more than `column`, outside brackets and braces. -/
def closeBlocks (l : Lexer) (column : Int) : Lexer :=
  if l.inFlow then l
  else
    let (tokens, indent, outer) := unindent column l.tokens l.indent l.outer
    { l with tokens := tokens, indent := indent, outer := outer }

/-- Starts a block collection, with its token at a position, if `column` is further in. -/
def openBlock (l : Lexer) (column position : Nat) (t : Token) : Lexer :=
  if l.inFlow || (column : Int) ≤ l.indent then l
  else
    { l with
      tokens := l.tokens.insertIdxIfInBounds position t
      indent := column
      outer := l.indent :: l.outer }

/-- Skips blanks, comments and line breaks up to the next token, in a text of at most `fuel`
lines. -/
def skipGaps : Nat → Lexer → Lexer
  | 0, l => l
  | fuel + 1, l =>
    let cur :=
      if l.cursor.mark.column == 0 && (l.cursor.rest.head?.any fun c ↦ c.toNat == 0xFEFF) then
        l.cursor.skip 1
      else l.cursor
    -- where a key may start, a tab is not taken for indentation
    let cur := cur.dropWhile fun c ↦ c == ' ' || ((l.inFlow || !l.keyAllowed) && c == '\t')
    let cur := if cur.rest.head? == some '#' then cur.dropWhile (!isBreak ·) else cur
    if cur.rest.head?.any isBreak then
      skipGaps fuel
        { l with cursor := cur.skip 1, keyAllowed := if l.inFlow then l.keyAllowed else true }
    else { l with cursor := cur }

/-! ## The kinds of tokens -/

/-- A directive. -/
def takeDirective (l : Lexer) : Option Lexer :=
  (l.closeBlocks (-1)).dropKey.bind fun l ↦
    (readDirective l.cursor).map fun (t, cur) ↦
      { l.push t with cursor := cur, keyAllowed := false }

/-- A mark of a document. -/
def takeDocumentMark (l : Lexer) (t : Token) : Option Lexer :=
  (l.closeBlocks (-1)).dropKey.map fun l ↦ { l.pushSign t 3 with keyAllowed := false }

/-- An opening bracket or brace. -/
def takeOpening (l : Lexer) (t : Token) : Option Lexer :=
  l.saveKey.map fun l ↦ { l.pushSign t 1 with keys := none :: l.keys, keyAllowed := true }

/-- A closing bracket or brace. -/
def takeClosing (l : Lexer) (t : Token) : Option Lexer :=
  l.dropKey.map fun l ↦
    { l.pushSign t 1 with
      keys := if l.inFlow then l.keys.drop 1 else l.keys
      keyAllowed := false }

/-- A comma. -/
def takeComma (l : Lexer) : Option Lexer :=
  l.dropKey.map fun l ↦ { l.pushSign .flowEntry 1 with keyAllowed := true }

/-- Starts a block collection here, if one may start. -/
def openHere (l : Lexer) (t : Token) : Option Lexer :=
  if l.inFlow then some l
  else if l.keyAllowed then some (l.openBlock l.cursor.mark.column l.tokens.size t)
  else none

/-- The hyphen before an item. -/
def takeHyphen (l : Lexer) : Option Lexer :=
  (l.openHere .blockSequenceStart).bind fun l ↦
    l.dropKey.map fun l ↦ { l.pushSign .blockEntry 1 with keyAllowed := true }

/-- The question mark before a key. -/
def takeQuestion (l : Lexer) : Option Lexer :=
  (l.openHere .blockMappingStart).bind fun l ↦
    l.dropKey.map fun l ↦ { l.pushSign .key 1 with keyAllowed := !l.inFlow }

/-- The colon before a value: what was a possible key is one. -/
def takeColon (l : Lexer) : Option Lexer :=
  match l.key? with
  | some k =>
    -- the sign of the key goes before its tokens, and the start of the mapping before that
    let l := { l with tokens := l.tokens.insertIdxIfInBounds k.position .key }
    let l := (l.openBlock k.mark.column k.position .blockMappingStart).setKey none
    some { l.pushSign .value 1 with keyAllowed := false }
  | none =>
    (l.openHere .blockMappingStart).map fun l ↦
      { l.pushSign .value 1 with keyAllowed := !l.inFlow }

/-- A reference or a name. -/
def takeName (l : Lexer) (t : List Char → Token) : Option Lexer :=
  l.saveKey.bind fun l ↦
    (readName (l.cursor.skip 1)).map fun (name, cur) ↦
      { l.push (t name) with cursor := cur, keyAllowed := false }

/-- A tag. -/
def takeTag (l : Lexer) : Option Lexer :=
  l.saveKey.bind fun l ↦
    (readTag l.inFlow l.cursor).map fun (handle, suffix, cur) ↦
      { l.push (.tag handle suffix) with cursor := cur, keyAllowed := false }

/-- A block scalar. -/
def takeBlock (l : Lexer) (folded : Bool) : Option Lexer :=
  l.dropKey.bind fun l ↦
    (readBlock folded l.indent (l.cursor.skip 1)).map fun (text, cur) ↦
      { l.push (.scalar text (if folded then .quoted else .literal)) with
        cursor := cur
        keyAllowed := true }

/-- A quoted scalar. -/
def takeQuoted (l : Lexer) (double : Bool) : Option Lexer :=
  l.saveKey.bind fun l ↦
    let cur := l.cursor.skip 1
    let read :=
      if double then readDouble .start false cur.mark cur.rest
      else readSingle .start false cur.mark cur.rest
    read.map fun (f, cur) ↦
      { l.push (.scalar f.text.reverse .quoted) with cursor := cur, keyAllowed := false }

/-- A plain scalar. After one that is followed by a line break a key may start. -/
def takePlain (l : Lexer) : Option Lexer :=
  l.saveKey.bind fun l ↦
    let indent := (l.indent + 1).toNat
    (readPlain l.inFlow indent .start false l.cursor.mark l.cursor.rest).map fun (f, cur) ↦
      { l.push (.scalar f.text.reverse .plain) with cursor := cur, keyAllowed := f.broken }

/-- Whether a character is a sign that no plain scalar starts with. -/
def isIndicator (c : Char) : Bool :=
  c == '-' || c == '?' || c == ':' || isFlowSign c || c == '#' || c == '&' || c == '*' || c == '!'
    || c == '|' || c == '>' || c == '\'' || c == '"' || c == '%' || c == '@' || c == '\x60'

/-- Whether a plain scalar starts with a character and what follows it. -/
def startsPlain (flow : Bool) (c : Char) (rest : List Char) : Bool :=
  !(isGap c || isIndicator c) || (c == '-' && !(rest.head?.any isBlankChar))
    || (!flow && (c == '?' || c == ':') && !atGap rest)

/-- The next token, of which `c` is the first character. -/
def take (l : Lexer) (c : Char) (rest : List Char) : Option Lexer :=
  let atStart := l.cursor.mark.column == 0
  let flow := l.inFlow
  if atStart && c == '%' then l.takeDirective
  else if atStart && atDocumentMark (c :: rest) then
    l.takeDocumentMark (if c == '-' then .documentStart else .documentEnd)
  else if c == '[' then l.takeOpening .flowSequenceStart
  else if c == '\x7b' then l.takeOpening .flowMappingStart
  else if c == ']' then l.takeClosing .flowSequenceEnd
  else if c == '\x7d' then l.takeClosing .flowMappingEnd
  else if c == ',' then l.takeComma
  else if c == '-' && atGap rest then l.takeHyphen
  else if c == '?' && (flow || atGap rest) then l.takeQuestion
  else if c == ':' && (flow || atGap rest) then l.takeColon
  else if c == '*' then l.takeName .alias
  else if c == '&' then l.takeName .anchor
  else if c == '!' then l.takeTag
  else if c == '|' && !flow then l.takeBlock false
  else if c == '>' && !flow then l.takeBlock true
  else if c == '\'' then l.takeQuoted false
  else if c == '"' then l.takeQuoted true
  else if startsPlain flow c rest then l.takePlain
  else none

/-- Takes a text apart, of which at most `fuel` tokens are left. -/
def run : Nat → Lexer → Option (Array Token)
  | 0, _ => none
  | fuel + 1, l =>
    match (skipGaps (l.cursor.rest.length + 1) l).dropStale with
    | none => none
    | some l =>
      match l.cursor.rest with
      | [] => (l.closeBlocks (-1)).dropKey.map Lexer.tokens
      | c :: rest =>
        match (l.closeBlocks l.cursor.mark.column).take c rest with
        | none => none
        | some l => run fuel l

end Lexer

/-- The tokens of a text; nothing if it cannot be taken apart. -/
def tokens? (s : String) : Option (List Token) :=
  if s.toList.all isPermitted then
    let cs := unifyBreaks s.toList
    (Lexer.run (cs.length + 1) (Lexer.start cs)).map Array.toList
  else none

end CallRouting.Yaml
