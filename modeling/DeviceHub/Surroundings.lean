import DeviceHub.KeyMap
import DeviceHub.Text.Split
import DeviceHub.Text.Utf8

/-!
What surrounds a program: files, named by paths, and environment variables.
-/
namespace DeviceHub

inductive FileError where
  | notFound
  | notADirectory
  | isADirectory
  | nameTooLong
  /-- No name holds a character of code zero. -/
  | nameWithZero
  | notText
  | other (reason : String)
  deriving DecidableEq

def FileError.message : FileError → String
  | notFound => "No such file or directory (os error 2)"
  | notADirectory => "Not a directory (os error 20)"
  | isADirectory => "Is a directory (os error 21)"
  | nameTooLong => "File name too long (os error 36)"
  | nameWithZero => "file name contained an unexpected NUL byte"
  | notText => "stream did not contain valid UTF-8"
  | other reason => reason

def maxPath : Nat := 4095

def maxStep : Nat := 255

def pathFault? (path : String) : Option FileError :=
  if path.toList.contains '\x00' then some .nameWithZero
  else if path = "" then some .notFound
  else if maxPath < path.utf8ByteSize then some .nameTooLong
  else none

/-- By name; no name holds an equals sign. -/
abbrev Variables := List (String × String)

/-- A variable is kept as one text `NAME=VALUE`, so that a name with an equals sign reaches into the
value. -/
def Variables.value? (vs : Variables) (name : String) : Option String :=
  match Text.cutOnce? '=' name with
  | none => vs.lookup name
  | some (name, start) => (vs.lookup name).bind (Text.after? (start ++ "="))

structure Surroundings where
  readFile : String → Except FileError Bytes
  variableNamed? : String → Option String

def Surroundings.readText (s : Surroundings) (path : String) : Except FileError String :=
  (s.readFile path).bind fun bytes =>
    match Text.decode? bytes with
    | some text => .ok text
    | none => .error .notText

/-- Files under the names that lead to them; a directory is there when something is in it. -/
abbrev FileTree := List (List String × Bytes)

namespace FileTree

def file? (tree : FileTree) (name : List String) : Option Bytes :=
  (tree.find? fun entry => entry.1 == name).map Prod.snd

def isDirectory (tree : FileTree) (name : List String) : Bool :=
  name.isEmpty || tree.any fun entry => name.isPrefixOf entry.1 && entry.1 != name

/-- The name one step leads to, whether something is there or not. -/
def step (place : List String) (word : String) : List String :=
  if word = "" ∨ word = "." then place
  else if word = ".." then place.dropLast
  else place ++ [word]

def walk (tree : FileTree) : List String → List String → Except FileError (List String)
  | place, [] => .ok place
  | place, word :: words =>
    if (tree.file? place).isSome then .error .notADirectory
    else if maxStep < word.utf8ByteSize then .error .nameTooLong
    else
      let next := step place word
      if (tree.file? next).isSome || tree.isDirectory next then walk tree next words
      else .error .notFound

/-- What makes a directory be there when nothing else is in it: no path leads to an empty word. -/
def placeholder (directory : List String) : List String × Bytes :=
  (directory ++ [""], [])

/-- What every machine has: the file of nothing, and some directories. -/
def everywhere : FileTree :=
  (["dev", "null"], []) ::
    ["bin", "etc", "home", "lib", "proc", "root", "sys", "tmp", "usr", "var"].map fun name =>
      placeholder [name]

def ofDirectory (name : String) (files : List (String × Bytes)) : FileTree :=
  everywhere ++ placeholder [name] :: files.map fun (path, bytes) =>
    ((Text.splitOnChar '/' path).foldl step [name], bytes)

/-- From the directory, unless the path begins with a slash. -/
def read (tree : FileTree) (directory : List String) (path : String) : Except FileError Bytes :=
  match pathFault? path with
  | some fault => .error fault
  | none =>
    (walk tree (if Text.startsWith "/" path then [] else directory)
        (Text.splitOnChar '/' path)).bind fun place =>
      match tree.file? place with
      | some bytes => .ok bytes
      | none => .error .isADirectory

end FileTree

def Surroundings.hasPath (s : Surroundings) (path : String) : Bool :=
  match s.readFile path with
  | .ok _ | .error .isADirectory => true
  | .error _ => false

end DeviceHub
