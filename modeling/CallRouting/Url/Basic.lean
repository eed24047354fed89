import CallRouting.Url.Host

/-!
# URLs

A URL in its parts, each in the form in which it is written. The path is either a text as a whole,
after a scheme without a slash, or a list of segments. Two URLs are equal if and only if their parts
are.
-/

namespace CallRouting

namespace Url

/-- The path of a URL. -/
inductive Path where
  /-- A text as a whole. -/
  | opaqueText (s : List Char)
  /-- Segments, each after a slash. -/
  | segments (l : List (List Char))
  deriving DecidableEq, Repr

/-- What stands between the scheme and the path: who, where and at which port. -/
structure Authority where
  /-- The user name; it may be empty. -/
  username : List Char
  /-- The password, if there is one that is not empty. -/
  password : Option (List Char)
  /-- The host. -/
  host : Host
  /-- The port, if it is not the usual one of the scheme. -/
  port : Option Nat
  deriving DecidableEq, Repr

/-- Whether a scheme is special, and its usual port if it has one. -/
def specialPort? (scheme : String) : Option (Option Nat) :=
  if scheme = "http" ∨ scheme = "ws" then some (some 80)
  else if scheme = "https" ∨ scheme = "wss" then some (some 443)
  else if scheme = "ftp" then some (some 21)
  else if scheme = "file" then some none
  else none

end Url

/-- A URL. -/
structure Url where
  /-- The scheme, in lower case. -/
  scheme : String
  /-- Who, where and at which port. -/
  authority : Option Url.Authority
  /-- The path. -/
  path : Url.Path
  /-- The query, without its question mark. -/
  query : Option (List Char)
  /-- The fragment, without its number sign. -/
  fragment : Option (List Char)
  deriving DecidableEq, Repr

namespace Url

/-- The part between the two slashes and the path. -/
def Authority.render (a : Authority) : String :=
  let user :=
    match a.password with
    | some p => String.ofList a.username ++ ":" ++ String.ofList p ++ "@"
    | none => if a.username.isEmpty then "" else String.ofList a.username ++ "@"
  let port :=
    match a.port with
    | some n => ":" ++ toString n
    | none => ""
  user ++ a.host.render ++ port

/-- A path as text. -/
def Path.render : Path → String
  | opaqueText s => String.ofList s
  | segments l => String.ofList (l.flatMap ('/' :: ·))

/-- The path of a URL without authority as text: two slashes at its front would read as one. -/
def Path.renderBare : Path → String
  | segments ([] :: s :: l) => "/." ++ Path.render (segments ([] :: s :: l))
  | p => p.render

/-- A part after its mark, if it is there. -/
def marked (mark : String) : Option (List Char) → String
  | none => ""
  | some s => mark ++ String.ofList s

/-- The URL without its fragment, as text. -/
def renderWithoutFragment (u : Url) : String :=
  u.scheme ++ ":"
    ++ (match u.authority with
      | some a => "//" ++ a.render ++ u.path.render
      | none => u.path.renderBare)
    ++ marked "?" u.query

/-- A URL as text. -/
def render (u : Url) : String := u.renderWithoutFragment ++ marked "#" u.fragment

end Url

end CallRouting
