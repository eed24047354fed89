import CallRouting.Text.Blank

/-!
# Paths of settings files

A path is a text; a slash separates its components and stands at the front of an absolute one. The
file of a client's settings is found from the environment: an override, which may start at the home
directory, or else a place in the configuration directory. Where the home directory is not known a
tilde stands for itself, and settings without a configuration directory are looked for where the
program runs.

The format of a file follows from its extension, which is what stands after the last point of its
name, unless that point is the first character of the name.
-/

namespace CallRouting.Path

/-- Whether a path is absolute. -/
def isAbsolute (path : String) : Bool := path.toList.head? == some '/'

/-- A path relative to another one; an absolute path stays what it is. -/
def join (base path : String) : String :=
  if isAbsolute path then path
  else if base.isEmpty || base.toList.getLast? == some '/' then base ++ path
  else base ++ "/" ++ path

/-- The parts of a text between slashes. -/
def splitSlashes : List Char → List (List Char)
  | [] => [[]]
  | c :: rest =>
    if c = '/' then [] :: splitSlashes rest
    else
      match splitSlashes rest with
      | [] => [[c]]
      | first :: others => (c :: first) :: others

/-- The components of a path. Empty ones and those that stand for the place where they are do not
count. -/
def components (path : String) : List String :=
  ((splitSlashes path.toList).filter fun cs ↦ !cs.isEmpty && cs != ['.']).map String.ofList

/-- Whether a path can only be that of a directory: it ends with a slash, or at a place or a step
upward. -/
def namesDirectory (path : String) : Bool :=
  let last := (splitSlashes path.toList).getLast?.getD []
  last.isEmpty || last == ['.'] || last == ['.', '.']

/-- The name at the end of a path; a step upward is no name. -/
def fileName? (path : String) : Option String :=
  (components path).getLast?.filter (· != "..")

/-- What stands after the last point of a name, unless the point is its first character. -/
def extension? (path : String) : Option (List Char) :=
  (fileName? path).bind fun name ↦
    let cs := name.toList
    let extension := (cs.reverse.takeWhile (· != '.')).reverse
    if extension.length + 1 < cs.length then some extension else none

/-- A letter of the alphabet in lower case. -/
def lowerLetter (c : Char) : Char := if 'A' ≤ c ∧ c ≤ 'Z' then Char.ofNat (c.toNat + 32) else c

/-- Whether the file at a path is in YAML. -/
def isYaml (path : String) : Bool :=
  match extension? path with
  | none => false
  | some cs =>
    let cs := cs.map lowerLetter
    cs == "yaml".toList || cs == "yml".toList

/-- What the environment says about directories and files. -/
structure Environment where
  /-- The home directory, if it is known. -/
  home : Option String
  /-- The directory of configuration files, if it is set. -/
  configHome : Option String
  /-- The path of the settings file, if it is set. -/
  override : Option String

/-- What a tilde stands for: the home directory, or a tilde. -/
def Environment.homeDirectory (e : Environment) : String := e.home.getD "~"

/-- The directory of configuration files, if it is known: the one that is set, if it is absolute, or
else one in the home directory. -/
def Environment.configDirectory? (e : Environment) : Option String :=
  (e.configHome.filter isAbsolute).or (e.home.map fun home ↦ join home ".config")

/-- A path that may start at the home directory. Blanks around it do not count. -/
def expandHome (home path : String) : String :=
  match (Text.trim path).toList with
  | ['~'] => home
  | '~' :: '/' :: rest => join home (String.ofList rest)
  | cs => String.ofList cs

/-- The path of the settings file. An override that is blank does not count. -/
def settingsPath (e : Environment) : String :=
  let standard := join (join (e.configDirectory?.getD ".") "waypoint") "client.json"
  match e.override with
  | none => standard
  | some path => if (Text.trim path).isEmpty then standard else expandHome e.homeDirectory path

end CallRouting.Path
