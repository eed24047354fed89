import CallRouting.Json.Place
import CallRouting.Settings.Basic
import CallRouting.Settings.Path
import CallRouting.Yaml.Place
import CallRouting.Yaml.Printer

/-!
# Settings on disk

A store is a tree of directories and files. Settings are loaded from a file of it and saved into
one; the directories that a file needs are made. A file that does not exist holds settings that say
nothing. Whether a file is in YAML or in JSON follows from its path, for loading and for saving
alike.
-/

namespace CallRouting

/-- What is at a path of a store. -/
inductive Entry where
  /-- A directory. -/
  | directory
  /-- A file with its bytes. -/
  | file (content : ByteArray)

/-- A tree of directories and files: what is at each path that exists, as a list of names. The
empty path is a directory. -/
structure Store where
  /-- What exists, apart from the root; what comes first counts. -/
  entries : List (List String × Entry)

/-- Why settings cannot be loaded or saved. -/
inductive StoreError where
  /-- A path is not what it has to be, or a file is not text. -/
  | unusable
  /-- A file in JSON cannot be read. -/
  | json (fault : Json.Fault)
  /-- A file in YAML cannot be read. -/
  | yaml (fault : Yaml.Fault)
  deriving DecidableEq, Repr

namespace Store

/-- A store with nothing in it. -/
def empty : Store := ⟨[]⟩

/-- What is at a path. -/
def get? (s : Store) (path : List String) : Option Entry :=
  if path.isEmpty then some .directory else s.entries.lookup path

/-- Puts something at a path. -/
def put (s : Store) (path : List String) (e : Entry) : Store := ⟨(path, e) :: s.entries⟩

/-- Whether a directory is at a path. -/
def isDirectory (s : Store) (path : List String) : Bool :=
  match s.get? path with
  | some .directory => true
  | _ => false

/-- Where the components of a path lead from a directory, if every one but the last leads to a
directory. -/
def walk (s : Store) (here : List String) : List String → Option (List String)
  | [] => some here
  | c :: rest =>
    if !s.isDirectory here then none
    else if c = ".." then s.walk here.dropLast rest
    else s.walk (here ++ [c]) rest

/-- What is at the end of a path, and where that is. -/
def find? (s : Store) (path : String) : Option (List String × Entry) :=
  match s.walk [] (Path.components path) with
  | none => none
  | some place =>
    match s.get? place with
    | none => none
    | some .directory => some (place, .directory)
    | some (.file content) =>
      if Path.namesDirectory path then none else some (place, .file content)

/-- Whether something is at the end of a path. -/
def exists? (s : Store) (path : String) : Bool := (s.find? path).isSome

/-- Makes the directories that the components of a path lead through, from a directory; answers the
last of them. A file in the way is refused; the directories made before it stay. -/
def makeDirectories (s : Store) (here : List String) :
    List String → Store × Except StoreError (List String)
  | [] => (s, .ok here)
  | c :: rest =>
    if c = ".." then s.makeDirectories here.dropLast rest
    else
      match s.get? (here ++ [c]) with
      | some .directory => s.makeDirectories (here ++ [c]) rest
      | some (.file _) => (s, .error .unusable)
      | none => (s.put (here ++ [c]) .directory).makeDirectories (here ++ [c]) rest

/-- Makes a directory and those around it. -/
def makeDirectory (s : Store) (path : String) : Store × Except StoreError Unit :=
  let (s, made) := s.makeDirectories [] (Path.components path)
  (s, made.map fun _ ↦ ())

/-- Writes a file, and makes the directories around it. The directories stay if the file cannot be
written. -/
def write (s : Store) (path : String) (content : ByteArray) : Store × Except StoreError Unit :=
  let components := Path.components path
  match s.makeDirectories [] components.dropLast with
  | (s, .error e) => (s, .error e)
  | (s, .ok here) =>
    match components.getLast? with
    | none => (s, .error .unusable)
    | some name =>
      if name = ".." || Path.namesDirectory path || s.isDirectory (here ++ [name]) then
        (s, .error .unusable)
      else (s.put (here ++ [name]) (.file content), .ok ())

/-- The text of the file at a path, if there is one. -/
def text? (s : Store) (path : String) : Option String :=
  match s.find? path with
  | some (_, .file content) => String.fromUTF8? content
  | _ => none

/-- The settings that a text in the format of a path holds. -/
def readSettings (path text : String) : Except StoreError Settings :=
  if Path.isYaml path then
    match Yaml.read Settings text with
    | .ok settings => .ok settings
    | .error e => .error (.yaml e)
  else
    match Json.read Settings text with
    | .ok settings => .ok settings
    | .error e => .error (.json e)

/-- The text of settings in the format of a path. -/
def renderSettings (path : String) (settings : Settings) : String :=
  if Path.isYaml path then Yaml.render settings.toJson else settings.toJson.indented

/-- Loads settings from a file. -/
def load (s : Store) (path : String) : Except StoreError Settings :=
  match s.find? path with
  | none => .ok .empty
  | some (_, .directory) => .error .unusable
  | some (_, .file content) =>
    match String.fromUTF8? content with
    | none => .error .unusable
    | some text => readSettings path text

/-- Saves settings into a file. -/
def save (s : Store) (path : String) (settings : Settings) : Store × Except StoreError Unit :=
  s.write path (renderSettings path settings).toUTF8

end Store

end CallRouting
