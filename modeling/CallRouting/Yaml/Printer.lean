import CallRouting.Yaml.Plain

/-!
# Writing YAML

A value is written in lines, two spaces further in for each level. The hyphens of a sequence right
under a key are not indented; empty collections are written in brackets or braces. There is a line
break at the end.

A text is written as it is where it would be read back as the same text. A text with line feeds is
written line by line; a text that would be read as something else, or that has signs in the way, is
put between single quotes; and a text with characters that cannot be shown, between double quotes
with escapes. A name that is long or goes over several lines is written after a question mark, and
its value on a line of its own.
-/

namespace CallRouting.Yaml

/-! ## What is in a text -/

/-- Whether a character of a text breaks a line when it is written. -/
def breaksLine (c : Char) : Bool := isBreak c || c == '\r' || c.toNat == 0x85

/-- Whether a character is shown as itself. -/
def isShown (c : Char) : Bool :=
  let n := c.toNat
  n == 0x0A || (0x20 ≤ n && n ≤ 0x7E) || (0xA0 ≤ n && n ≤ 0xFFFD && n != 0xFEFF)

/-- Whether a character separates a sign from what is around it. -/
def separates (c : Char) : Bool := isBlankChar c || breaksLine c || c == '\x00'

/-- Whether the end of a text or what is left of it separates a sign. -/
def separatedFrom : List Char → Bool
  | [] => true
  | c :: _ => separates c

/-- Whether a character at the front is a sign that keeps the text from being written as it is. -/
def isFrontSign (c : Char) (rest : List Char) : Bool :=
  c == '#' || c == ',' || c == '[' || c == ']' || c == '\x7b' || c == '\x7d' || c == '&'
    || c == '*' || c == '!' || c == '|' || c == '>' || c == '\'' || c == '"' || c == '%'
    || c == '@' || c == '\x60'
    || ((c == '?' || c == ':' || c == '-') && separatedFrom rest)

/-- Whether a colon before a gap, or a number sign after one, is further on in a text. -/
def hasInnerSign (gap : Bool) : List Char → Bool
  | [] => false
  | c :: rest =>
    (c == ':' && separatedFrom rest) || (c == '#' && gap) || hasInnerSign (separates c) rest

/-- Whether signs keep a text from being written as it is. -/
def hasSigns (cs : List Char) : Bool :=
  match cs with
  | [] => false
  | c :: rest =>
    cs.take 3 == ['-', '-', '-'] || cs.take 3 == ['.', '.', '.'] || isFrontSign c rest
      || hasInnerSign (separates c) rest

/-- Whether two neighbors in a text satisfy `p` and `q`. -/
def hasNeighbors (p q : Char → Bool) : List Char → Bool
  | a :: b :: rest => (p a && q b) || hasNeighbors p q (b :: rest)
  | _ => false

/-- What keeps a text from being written in one way or another. -/
structure Analysis where
  /-- The text has line breaks. -/
  multiline : Bool
  /-- The text may be written as it is. -/
  plainAllowed : Bool
  /-- The text may be written between single quotes. -/
  singleAllowed : Bool
  /-- The text may be written line by line. -/
  literalAllowed : Bool

/-- What keeps a text from being written in one way or another. -/
def analyze (cs : List Char) : Analysis :=
  let isSpace : Char → Bool := (· == ' ')
  let edge : Bool :=
    (cs.head?.any fun c ↦ isSpace c || breaksLine c)
      || (cs.getLast?.any fun c ↦ isSpace c || breaksLine c)
  let breakSpace := hasNeighbors breaksLine isSpace cs
  let hidden := hasNeighbors isSpace breaksLine cs || cs.any (!isShown ·)
  let multiline := cs.any breaksLine
  { multiline := multiline
    plainAllowed := !(edge || breakSpace || hidden || multiline || hasSigns cs)
    singleAllowed := !(breakSpace || hidden)
    literalAllowed := !cs.isEmpty && !((cs.getLast?.any isSpace) || hidden) }

/-- Whether a text would be read as something else if it were written as it is. -/
def readsOtherwise (cs : List Char) : Bool :=
  match plainValue? cs with
  | some (.string _) => hasIdleZero cs
  | _ => true

/-! ## Scalars -/

/-- Spaces up to a column. -/
def spaces (n : Nat) : List Char := List.replicate n ' '

/-- The characters of a text between single quotes. After line breaks the next line is indented. -/
def singleChars (indent : Nat) (broken : Bool) : List Char → List Char
  | [] => if broken then spaces indent else []
  | c :: rest =>
    if breaksLine c then
      -- a single line feed would be read as a space
      (if c == '\n' && !broken then ['\n'] else []) ++ c :: singleChars indent true rest
    else if c == ' ' then c :: singleChars indent broken rest
    else
      (if broken then spaces indent else []) ++ (if c == '\'' then ['\''] else [])
        ++ c :: singleChars indent false rest

/-- The digits of a number in upper-case hexadecimal, as many as are asked for. -/
def hexDigits : Nat → Nat → List Char
  | 0, _ => []
  | count + 1, n =>
    let d := n / Nat.pow 16 count % 16
    (if d < 10 then Char.ofNat ('0'.toNat + d) else Char.ofNat ('A'.toNat + (d - 10)))
      :: hexDigits count n

/-- How a character is written after a backslash. -/
def escapeOf (c : Char) : List Char :=
  let n := c.toNat
  if n = 0x00 then ['0']
  else if n = 0x07 then ['a']
  else if n = 0x08 then ['b']
  else if n = 0x09 then ['t']
  else if n = 0x0A then ['n']
  else if n = 0x0B then ['v']
  else if n = 0x0C then ['f']
  else if n = 0x0D then ['r']
  else if n = 0x1B then ['e']
  else if c = '"' ∨ c = '\\' then [c]
  else if n = 0x85 then ['N']
  else if n = 0xA0 then ['_']
  else if n = 0x2028 then ['L']
  else if n = 0x2029 then ['P']
  else if n ≤ 0xFF then 'x' :: hexDigits 2 n
  else if n ≤ 0xFFFF then 'u' :: hexDigits 4 n
  else 'U' :: hexDigits 8 n

/-- The characters of a text between double quotes. -/
def doubleChars (cs : List Char) : List Char :=
  cs.flatMap fun c ↦
    if !isShown c || breaksLine c || c == '"' || c == '\\' then '\\' :: escapeOf c else [c]

/-- The lines of a text, each indented; empty lines are not. -/
def literalLines (indent : Nat) (broken : Bool) : List Char → List Char
  | [] => []
  | c :: rest =>
    if breaksLine c then c :: literalLines indent true rest
    else (if broken then spaces indent else []) ++ c :: literalLines indent false rest

/-- What is said about the lines of a text before them: how far they are indented if that cannot be
seen, and what becomes of the breaks at the end. -/
def literalHints (cs : List Char) : List Char :=
  let indent := if cs.head?.any fun c ↦ c == ' ' || breaksLine c then ['2'] else []
  let chomping :=
    match cs.reverse with
    | [] => ['-']
    | [c] => if breaksLine c then ['+'] else ['-']
    | c :: d :: _ =>
      if !breaksLine c then ['-'] else if breaksLine d then ['+'] else []
  indent ++ chomping

/-- A text as it is written, with its further lines at an indentation. -/
def scalarText (indent : Nat) (s : String) : List Char :=
  let cs := s.toList
  let a := analyze cs
  let double := '"' :: doubleChars cs ++ ['"']
  let single := if a.singleAllowed then '\'' :: singleChars indent false cs ++ ['\''] else double
  if cs.contains '\n' then
    if a.literalAllowed then '|' :: literalHints cs ++ '\n' :: literalLines indent true cs
    else double
  else if readsOtherwise cs then single
  else if a.plainAllowed then cs
  else single

/-- How a binary number is written: a positive power of ten carries no sign. -/
def binaryStyle : Decimal.Style := ⟨16, 4, false⟩

/-- A number as it is written. -/
def numberText : Json.Number → List Char
  | .whole n => Decimal.ofInt n
  | .binary x => binaryStyle.render x

/-! ## Values -/

/-- The most bytes of a name before its colon. -/
def longestKey : Nat := 128

/-- Whether a name is written before its colon on one line. -/
def isSimpleKey (name : String) : Bool :=
  !(analyze name.toList).multiline && name.utf8ByteSize ≤ longestKey

/-- Text, with a line break at its end unless there is one. -/
def endLine (cs : List Char) : List Char :=
  if cs.getLast?.any breaksLine then cs else cs ++ ['\n']

/-- Where a value stands. -/
inductive Position where
  /-- After a name and its colon. -/
  | afterKey
  /-- After a hyphen, or after the colon of a name on lines of its own. -/
  | afterSign
  deriving DecidableEq

mutual

/-- A value, from after the sign before it to the end of its last line, in a collection that is
indented by `indent`. -/
def valueText (indent : Nat) (position : Position) : Json.Value → List Char
  | .null => " null\n".toList
  | .bool b => if b then " true\n".toList else " false\n".toList
  | .number n => ' ' :: numberText n ++ ['\n']
  | .string s => ' ' :: endLine (scalarText (indent + 2) s)
  | .array [] => " []\n".toList
  | .array items =>
    match position with
    | .afterKey => '\n' :: itemsText indent false items
    | .afterSign => ' ' :: itemsText (indent + 2) true items
  | .object [] => " {}\n".toList
  | .object members =>
    match position with
    | .afterKey => '\n' :: membersText (indent + 2) false members
    | .afterSign => ' ' :: membersText (indent + 2) true members

/-- The items of a sequence, each after a hyphen; the first one is on a line that has begun if
`begun` holds. -/
def itemsText (indent : Nat) (begun : Bool) : List Json.Value → List Char
  | [] => []
  | v :: rest =>
    (if begun then [] else spaces indent) ++ '-' :: valueText indent .afterSign v
      ++ itemsText indent false rest

/-- The members of a mapping, each after its name; the first one is on a line that has begun if
`begun` holds. -/
def membersText (indent : Nat) (begun : Bool) : List (String × Json.Value) → List Char
  | [] => []
  | (n, v) :: rest =>
    (if begun then [] else spaces indent)
      ++ (if isSimpleKey n then scalarText (indent + 2) n ++ ':' :: valueText indent .afterKey v
        else
          '?' :: ' ' :: endLine (scalarText (indent + 2) n)
            ++ spaces indent ++ ':' :: valueText indent .afterSign v)
      ++ membersText indent false rest

end

/-- A value as a text of its own. -/
def render (v : Json.Value) : String :=
  String.ofList <|
    match v with
    | .array (x :: rest) => itemsText 0 false (x :: rest)
    | .object (m :: rest) => membersText 0 false (m :: rest)
    | v => (valueText 0 .afterKey v).drop 1

end CallRouting.Yaml
