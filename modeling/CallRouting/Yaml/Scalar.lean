import CallRouting.Yaml.Token

/-!
# Scalars in a text

A scalar that goes over several lines is folded: blanks around a line break do not count, a single
break becomes a space, and of several breaks all but the first are kept. `Fold` is what is known
while such a scalar is read.

* A plain scalar ends before a colon with a gap after it, before a comment, and before a line that
  is not indented more than what holds it; inside brackets and braces, also before their signs.
* A scalar between single quotes has a quote written twice. One between double quotes has escapes,
  and a break that is escaped does not count.
* A block scalar is made of the lines that are indented more than what holds it. A header says
  whether they are folded, what becomes of the breaks at the end, and perhaps how far they are
  indented.
-/

namespace CallRouting.Yaml

/-! ## Folding -/

/-- A scalar while it is read. The lists have their last element first. -/
structure Fold where
  /-- The text up to the last word. -/
  text : List Char
  /-- The blanks since the last word. -/
  blanks : List Char
  /-- Whether there was a line break since the last word. -/
  broken : Bool
  /-- The first line break since the last word. -/
  first : Option Char
  /-- The line breaks after the first. -/
  breaks : List Char

namespace Fold

/-- A scalar of which nothing was read. -/
def start : Fold := ⟨[], [], false, none, []⟩

/-- Adds a character of a word. -/
def push (f : Fold) (c : Char) : Fold := { f with text := c :: f.text }

/-- Adds a blank between words. -/
def blank (f : Fold) (c : Char) : Fold := if f.broken then f else { f with blanks := c :: f.blanks }

/-- Adds a line break between words. -/
def lineBreak (f : Fold) (c : Char) : Fold :=
  if f.broken then { f with breaks := c :: f.breaks }
  else { f with blanks := [], broken := true, first := some c }

/-- Adds a line break that does not count. -/
def escapedBreak (f : Fold) : Fold := { f with blanks := [], broken := true, first := none }

/-- Puts what stands between two words into the text. -/
def join (f : Fold) : Fold :=
  let between :=
    if f.broken then
      match f.first with
      | some '\n' => if f.breaks.isEmpty then [' '] else f.breaks
      | some c => f.breaks ++ [c]
      | none => f.breaks
    else f.blanks
  ⟨between ++ f.text, [], false, none, []⟩

end Fold

/-! ## Plain scalars -/

/-- Whether a character ends a plain scalar inside brackets or braces. -/
def isFlowSign (c : Char) : Bool :=
  c == ',' || c == '[' || c == ']' || c == '\x7b' || c == '\x7d'

/-- Reads a plain scalar that is inside brackets or braces if `flow` holds, and whose lines are
indented by at least `indent`. Its answer ends before the blanks after the last word. -/
def readPlain (flow : Bool) (indent : Nat) (f : Fold) (gap : Bool) (mark : Mark) :
    List Char → Option (Fold × Cursor)
  | [] => some (f, ⟨mark, []⟩)
  | c :: rest =>
    if isBlankChar c then
      if f.broken && mark.column < indent && c == '\t' then none
      else readPlain flow indent (f.blank c) true (mark.after c) rest
    else if isBreak c then readPlain flow indent (f.lineBreak c) true (mark.after c) rest
    else if gap && ((!flow && mark.column < indent) || c == '#'
        || (mark.column == 0 && atDocumentMark (c :: rest))) then
      some (f, ⟨mark, c :: rest⟩)
    else if flow && c == ':' && (rest.head?.any fun d ↦ isFlowSign d || d == '?') then none
    else if (c == ':' && atGap rest) || (flow && isFlowSign c) then some (f, ⟨mark, c :: rest⟩)
    else
      readPlain flow indent ((if gap then f.join else f).push c) false (mark.after c) rest

/-! ## Quoted scalars -/

/-- Reads a scalar between single quotes, after the first quote. -/
def readSingle (f : Fold) (gap : Bool) (mark : Mark) : List Char → Option (Fold × Cursor)
  | [] => none
  | c :: rest =>
    if isBlankChar c then readSingle (f.blank c) true (mark.after c) rest
    else if isBreak c then readSingle (f.lineBreak c) true (mark.after c) rest
    else if gap && mark.column == 0 && atDocumentMark (c :: rest) then none
    else
      let f := if gap then f.join else f
      if c == '\'' then
        match rest with
        | '\'' :: rest' => readSingle (f.push c) false ((mark.after c).after c) rest'
        | _ => some (f, ⟨mark.after c, rest⟩)
      else readSingle (f.push c) false (mark.after c) rest

/-- The value of a hexadecimal digit. -/
def hexDigit? (c : Char) : Option Nat :=
  if '0' ≤ c ∧ c ≤ '9' then some (c.toNat - '0'.toNat)
  else if 'a' ≤ c ∧ c ≤ 'f' then some (c.toNat - 'a'.toNat + 10)
  else if 'A' ≤ c ∧ c ≤ 'F' then some (c.toNat - 'A'.toNat + 10)
  else none

/-- The number that so many hexadecimal digits at the front are. -/
def readHex (count value : Nat) (cs : List Char) : Option Nat :=
  match count, cs with
  | 0, _ => some value
  | _ + 1, [] => none
  | n + 1, c :: rest =>
    match hexDigit? c with
    | none => none
    | some d => readHex n (16 * value + d) rest

/-- The character that an escape of one letter stands for. -/
def escapeChar? (c : Char) : Option Char :=
  if c = '0' then some '\x00'
  else if c = 'a' then some '\x07'
  else if c = 'b' then some '\x08'
  else if c = 't' ∨ c = '\t' then some '\t'
  else if c = 'n' then some '\n'
  else if c = 'v' then some '\x0b'
  else if c = 'f' then some '\x0c'
  else if c = 'r' then some '\r'
  else if c = 'e' then some '\x1b'
  else if c = ' ' ∨ c = '"' ∨ c = '/' ∨ c = '\\' then some c
  else if c = 'N' then some (Char.ofNat 0x85)
  else if c = '_' then some (Char.ofNat 0xA0)
  else if c = 'L' then some (Char.ofNat 0x2028)
  else if c = 'P' then some (Char.ofNat 0x2029)
  else none

/-- How many hexadecimal digits follow an escape of a letter. -/
def escapeDigits? (c : Char) : Option Nat :=
  if c = 'x' then some 2 else if c = 'u' then some 4 else if c = 'U' then some 8 else none

/-- Whether a number is the code point of a character. -/
def isCodePoint (n : Nat) : Bool := n < 0xD800 || (0xDFFF < n && n ≤ 0x10FFFF)

/-- Reads a scalar between double quotes, after the first quote. -/
def readDouble (f : Fold) (gap : Bool) (mark : Mark) : List Char → Option (Fold × Cursor)
  | [] => none
  | c :: rest =>
    if isBlankChar c then readDouble (f.blank c) true (mark.after c) rest
    else if isBreak c then readDouble (f.lineBreak c) true (mark.after c) rest
    else if gap && mark.column == 0 && atDocumentMark (c :: rest) then none
    else
      let f := if gap then f.join else f
      if c == '"' then some (f, ⟨mark.after c, rest⟩)
      else if c == '\\' then
        match rest with
        | [] => none
        | d :: rest' =>
          if isBreak d then readDouble f.escapedBreak true ((mark.after c).after d) rest'
          else
            match escapeDigits? d with
            | some n =>
              match readHex n 0 rest' with
              | none => none
              | some value =>
                if isCodePoint value then
                  readDouble (f.push (Char.ofNat value)) false
                    (((mark.after c).after d).afterAll (rest'.take n)) (rest'.drop n)
                else none
            | none =>
              match escapeChar? d with
              | none => none
              | some x => readDouble (f.push x) false ((mark.after c).after d) rest'
      else readDouble (f.push c) false (mark.after c) rest
termination_by s => s.length
decreasing_by all_goals simp only [List.length_cons, List.length_drop]; omega

/-! ## Block scalars -/

/-- What becomes of the line breaks at the end of a block scalar. -/
inductive Chomping where
  /-- The last one is kept. -/
  | clip
  /-- None is kept. -/
  | strip
  /-- All are kept. -/
  | keep
  deriving DecidableEq, Repr

/-- What chomping a sign stands for. -/
def Chomping.ofSign? (c : Char) : Option Chomping :=
  if c = '+' then some .keep else if c = '-' then some .strip else none

/-- An indentation that is given as a digit, which is not zero. -/
def indentDigit? (c : Char) : Option Nat :=
  if '1' ≤ c ∧ c ≤ '9' then some (c.toNat - '0'.toNat) else none

/-- The signs after the indicator of a block scalar: chomping and indentation, in either order. The
answer has how many characters they are. -/
def readHeader (cs : List Char) : Option (Chomping × Option Nat × Nat) :=
  match cs with
  | [] => some (.clip, none, 0)
  | c :: rest =>
    match Chomping.ofSign? c with
    | some chomping =>
      match rest with
      | '0' :: _ => none
      | d :: _ =>
        match indentDigit? d with
        | some n => some (chomping, some n, 2)
        | none => some (chomping, none, 1)
      | [] => some (chomping, none, 1)
    | none =>
      if c == '0' then none
      else
        match indentDigit? c with
        | none => some (.clip, none, 0)
        | some n =>
          match rest.head?.bind Chomping.ofSign? with
          | some chomping => some (chomping, some n, 2)
          | none => some (.clip, some n, 1)

/-- Reads empty lines and the indentation of the next line. Without a known indentation the longest
run of spaces counts. The answer has the breaks, the last one first, and the longest run. -/
def readEmptyLines (indent : Option Nat) (longest : Nat) (breaks : List Char) (mark : Mark) :
    List Char → Option (List Char × Nat × Cursor)
  | [] => some (breaks, max longest mark.column, ⟨mark, []⟩)
  | c :: rest =>
    let within := indent.all fun n ↦ mark.column < n
    if within && c == ' ' then readEmptyLines indent longest breaks (mark.after c) rest
    else if within && c == '\t' then none
    else if isBreak c then
      readEmptyLines indent (max longest mark.column) (c :: breaks) (mark.after c) rest
    else some (breaks, max longest mark.column, ⟨mark, c :: rest⟩)

/-- A block scalar while it is read. The lists have their last element first. -/
structure Lines where
  /-- The text up to the last line. -/
  text : List Char
  /-- The line break at the end of the last line. -/
  lineBreak : List Char
  /-- The breaks of the empty lines after it. -/
  breaks : List Char
  /-- Whether the last line starts with a blank. -/
  leadingBlank : Bool

/-- Puts what stands between two lines into the text. -/
def Lines.join (l : Lines) (folded : Bool) (nextBlank : Bool) : List Char :=
  if folded && l.lineBreak == ['\n'] && !l.leadingBlank && !nextBlank then
    (if l.breaks.isEmpty then [' '] else l.breaks) ++ l.text
  else l.breaks ++ l.lineBreak ++ l.text

/-- Reads the lines of a block scalar, of which there are at most `fuel`. -/
def readLines (folded : Bool) (indent : Nat) : Nat → Lines → Cursor → Option (Lines × Cursor)
  | 0, _, _ => none
  | fuel + 1, l, cur =>
    match cur.rest with
    | [] => some (l, cur)
    | c :: _ =>
      if cur.mark.column ≠ indent then some (l, cur)
      else
        let (line, cur') := cur.span (!isBreak ·)
        let text := line.reverse ++ l.join folded (isBlankChar c)
        let lineBreak := cur'.rest.take 1
        let cur' := cur'.skip 1
        match readEmptyLines (some indent) 0 [] cur'.mark cur'.rest with
        | none => none
        | some (breaks, _, next) =>
          readLines folded indent fuel ⟨text, lineBreak, breaks, isBlankChar c⟩ next

/-- Reads a block scalar, after its indicator, in a collection that is indented by `outer`. -/
def readBlock (folded : Bool) (outer : Int) (cur : Cursor) : Option (List Char × Cursor) :=
  match readHeader cur.rest with
  | none => none
  | some (chomping, given, length) =>
    let cur := (cur.skip length).dropWhile isBlankChar
    let cur := if cur.rest.head? == some '#' then cur.dropWhile (!isBreak ·) else cur
    if !(cur.rest.isEmpty || cur.rest.head?.any isBreak) then none
    else
      let cur := cur.skip 1
      let known := given.map fun n ↦ (if 0 ≤ outer then outer.toNat else 0) + n
      match readEmptyLines known 0 [] cur.mark cur.rest with
      | none => none
      | some (breaks, longest, cur) =>
        let indent := known.getD (max (max longest (outer + 1).toNat) 1)
        match readLines folded indent (cur.rest.length + 1) ⟨[], [], breaks, false⟩ cur with
        | none => none
        | some (l, cur) =>
          let text :=
            match chomping with
            | .strip => l.text
            | .clip => l.lineBreak ++ l.text
            | .keep => l.breaks ++ l.lineBreak ++ l.text
          some (text.reverse, cur)

end CallRouting.Yaml
