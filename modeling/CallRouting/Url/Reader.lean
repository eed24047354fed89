import CallRouting.Url.Basic

/-!
# Reading URLs

A text is read as a URL on its own: it must start with a scheme. Control characters and spaces at
its ends and tabs and line breaks anywhere in it do not count.

A special scheme is followed by a host, after any number of slashes in either direction. Another
scheme is followed by a host after exactly two slashes, by a path after one, and by a text that is
kept as a whole after none.
-/

namespace CallRouting.Url

/-- Whether a character is dropped at the ends of a text. -/
def isTrimmed (c : Char) : Bool := c.toNat ≤ 0x20

/-- Whether a character is dropped wherever it is. -/
def isDropped (c : Char) : Bool := c == '\t' || c == '\n' || c == '\r'

/-- The characters of a text that count. -/
def significant (s : String) : List Char :=
  ((s.toList.dropWhile isTrimmed).reverse.dropWhile isTrimmed).reverse.filter (!isDropped ·)

/-- Whether a character is a letter. -/
def isSchemeStart (c : Char) : Bool := ('a' ≤ c && c ≤ 'z') || ('A' ≤ c && c ≤ 'Z')

/-- Whether a character may stand in a scheme after the first. -/
def isSchemeChar (c : Char) : Bool :=
  isSchemeStart c || ('0' ≤ c && c ≤ '9') || c == '+' || c == '-' || c == '.'

/-- The scheme at the front, in lower case, and what follows its colon. -/
def splitScheme (cs : List Char) : Option (String × List Char) :=
  match cs with
  | [] => none
  | c :: _ =>
    if !isSchemeStart c then none
    else
      match cs.dropWhile isSchemeChar with
      | ':' :: rest => some (String.ofList ((cs.takeWhile isSchemeChar).map lowerCase), rest)
      | _ => none

/-- Whether a character is a slash; where the scheme is special, in either direction. -/
def isSlash (special : Bool) (c : Char) : Bool := c == '/' || (special && c == '\\')

/-- Whether a character ends a path. -/
def endsPath (c : Char) : Bool := c == '?' || c == '#'

/-! ## Paths -/

/-- Whether a segment is a drive letter, which no step upward removes. -/
def isDriveLetter : List Char → Bool
  | [c, d] => isSchemeStart c && (d == ':' || d == '|')
  | _ => false

/-- Whether a segment stands for the place where it is. -/
def isHere (s : List Char) : Bool :=
  s == ['.'] || s.map lowerCase == ['%', '2', 'e']

/-- Whether a segment is a step upward. -/
def isUpward (s : List Char) : Bool :=
  let s := s.map lowerCase
  s == ['.', '.'] || s == ['.', '%', '2', 'e'] || s == ['%', '2', 'e', '.']
    || s == ['%', '2', 'e', '%', '2', 'e']

/-- A path after a step upward. -/
def shorten (path : List (List Char)) : List (List Char) :=
  match path.getLast? with
  | none => path
  | some s => if isDriveLetter s then path else path.dropLast

/-- Puts segments at the end of a path, in which steps are taken at once. -/
def walk (file : Bool) : List (List Char) → List (List Char) → List (List Char)
  | path, [] => path
  | path, s :: rest =>
    let path :=
      -- a step at the end leaves an empty segment, which stands for the slash before it
      if isUpward s then shorten path ++ (if rest.isEmpty then [[]] else [])
      else if isHere s then path ++ (if rest.isEmpty then [[]] else [])
      else if file && path.isEmpty && isDriveLetter s then [s.take 1 ++ [':']]
      else path ++ [s]
    walk file path rest

/-- The path of a file has no empty segment at its front. -/
def dropEmpty : List (List Char) → List (List Char)
  | [] :: s :: rest => dropEmpty (s :: rest)
  | path => if path.isEmpty then [[]] else path

/-- Whether the first segment is a drive letter. -/
def startsWithDrive (file : Bool) (segments : List (List Char)) : Bool :=
  file && (walk file [] segments).head?.any isDriveLetter

/-- The segments at the front, and what follows them. -/
def splitSegments (special : Bool) (cs : List Char) : List (List Char) × List Char :=
  ((splitList (isSlash special) (cs.takeWhile (!endsPath ·))).map (encode pathSet),
    cs.dropWhile (!endsPath ·))

/-! ## What follows the path -/

/-- The query and the fragment, at the end of a text. -/
def splitEnd (special : Bool) (cs : List Char) : Option (List Char) × Option (List Char) :=
  let fragment : List Char → Option (List Char)
    | '#' :: rest => some (encode fragmentSet rest)
    | _ => none
  match cs with
  | '?' :: rest =>
    (some (encode (if special then specialQuerySet else querySet) (rest.takeWhile (· != '#'))),
      fragment (rest.dropWhile (· != '#')))
  | cs => (none, fragment cs)

/-! ## Authorities -/

/-- The part before the last sign of which there may be several, and the part after it. -/
def splitLast (c : Char) (cs : List Char) : Option (List Char × List Char) :=
  if cs.contains c then
    let after := (cs.reverse.takeWhile (· != c)).reverse
    some (cs.take (cs.length - after.length - 1), after)
  else none

/-- The user name and the password. -/
def readUser (cs : List Char) : List Char × Option (List Char) :=
  let name := encode userinfoSet (cs.takeWhile (· != ':'))
  match cs.dropWhile (· != ':') with
  | _ :: p :: rest => (name, some (encode userinfoSet (p :: rest)))
  | _ => (name, none)

/-- The host and what follows it: a colon outside brackets ends it. -/
def splitHost (inBrackets : Bool) : List Char → List Char × List Char
  | [] => ([], [])
  | c :: rest =>
    if c == ':' && !inBrackets then ([], c :: rest)
    else
      let (host, after) := splitHost (if c == '[' then true else if c == ']' then false
        else inBrackets) rest
      (c :: host, after)

/-- The port after a colon, and what follows it. -/
def readPort (usual : Option Nat) (cs : List Char) : Except Error (Option Nat × List Char) :=
  match cs with
  | ':' :: rest =>
    let digits := rest.takeWhile (isDigitOf 10)
    let after := rest.dropWhile (isDigitOf 10)
    let port := ofBase 10 digits
    if 65535 < port || !(after.isEmpty || after.head? == some '\\') then .error .badPort
    else .ok (if digits.isEmpty || some port == usual then none else some port, after)
  | cs => .ok (none, cs)

/-- Reads what stands between two slashes and the path, and answers what is left over of it. -/
def readAuthority (special : Option (Option Nat)) (cs : List Char) (followed : Bool) :
    Except Error (Authority × List Char) :=
  let user := splitLast '@' cs
  let (name, password) := readUser ((user.map Prod.fst).getD [])
  let place := (user.map Prod.snd).getD cs
  -- a user before nothing at all
  if (user.any fun u ↦ u.1.isEmpty) && place.isEmpty && followed then .error .emptyHost
  else
    let (host, after) := splitHost false place
    if host.isEmpty && (special.isSome || !after.isEmpty) then .error .emptyHost
    else
      match if special.isSome then Host.readSpecial host else Host.readOpaque host with
      | .error e => .error e
      | .ok host' =>
        match readPort special.join after with
        | .error e => .error e
        | .ok (port, rest) =>
          if host.isEmpty && !(name.isEmpty && password.isNone) then .error .emptyHost
          else .ok (⟨name, password, host', port⟩, rest)

/-- Whether a character ends what stands between two slashes and the path. -/
def endsAuthority (special : Bool) (c : Char) : Bool := isSlash special c || endsPath c

/-- Reads a URL from after its two slashes. -/
def readAfterSlashes (scheme : String) (special : Option (Option Nat)) (cs : List Char) :
    Except Error Url :=
  let isSpecial := special.isSome
  let after := cs.dropWhile (!endsAuthority isSpecial ·)
  match readAuthority special (cs.takeWhile (!endsAuthority isSpecial ·)) (!after.isEmpty) with
  | .error e => .error e
  | .ok (authority, unread) =>
    let (segments, rest) : List (List Char) × List Char :=
      match unread ++ after with
      | [] => (if isSpecial then [[]] else [], [])
      | c :: r =>
        if isSlash isSpecial c then splitSegments isSpecial r
        else if endsPath c then (if isSpecial then [[]] else [], c :: r)
        else splitSegments isSpecial (c :: r)
    let (query, fragment) := splitEnd isSpecial rest
    .ok ⟨scheme, some authority, .segments (walk false [] segments), query, fragment⟩

/-! ## Files -/

/-- The URL of a file with a host and segments. A path that starts at a drive has no host. -/
def fileUrl (host : Host) (segments : List (List Char)) (rest : List Char) : Url :=
  let (query, fragment) := splitEnd true rest
  let host := if startsWithDrive true segments then .name [] else host
  ⟨"file", some ⟨[], none, host, none⟩, .segments (dropEmpty (walk true [] segments)), query,
    fragment⟩

/-- Reads the path of a file, of which one slash at the front does not count. -/
def readFilePath (host : Host) (cs : List Char) : Url :=
  let (segments, rest) :=
    match cs with
    | c :: r => if isSlash true c then splitSegments true r else splitSegments true (c :: r)
    | [] => ([[]], [])
  fileUrl host segments rest

/-- Reads the URL of a file from after its scheme. -/
def readFile (cs : List Char) : Except Error Url :=
  match cs with
  | a :: b :: r =>
    if isSlash true a && isSlash true b then
      let host := r.takeWhile (!endsAuthority true ·)
      -- a drive letter is no host: it belongs to the path
      if isDriveLetter host then .ok (readFilePath (.name []) r)
      else
        let after := r.dropWhile (!endsAuthority true ·)
        if host.isEmpty then .ok (readFilePath (.name []) after)
        else
          match Host.readSpecial host with
          | .error e => .error e
          | .ok h =>
            .ok (readFilePath (if h = .name "localhost".toList then .name [] else h) after)
    else .ok (readFilePath (.name []) cs)
  | _ => .ok (readFilePath (.name []) cs)

/-! ## URLs -/

/-- Reads a URL. -/
def read (s : String) : Except Error Url :=
  match splitScheme (significant s) with
  | none => .error .relative
  | some (scheme, rest) =>
    if scheme = "file" then readFile rest
    else
      match specialPort? scheme with
      | some port => readAfterSlashes scheme (some port) (rest.dropWhile (isSlash true))
      | none =>
        match rest with
        | '/' :: '/' :: r => readAfterSlashes scheme none r
        | '/' :: r =>
          let (segments, rest) := splitSegments false r
          let (query, fragment) := splitEnd false rest
          .ok ⟨scheme, none, .segments (walk false [] segments), query, fragment⟩
        | r =>
          let (query, fragment) := splitEnd false (r.dropWhile (!endsPath ·))
          .ok ⟨scheme, none, .opaqueText (encode controls (r.takeWhile (!endsPath ·))), query,
            fragment⟩

end CallRouting.Url
