import DeviceHub.KeyMap

/-!
TOML documents: values in tables.  A table remembers how it came about, because that decides who may
still add to it.
-/
namespace DeviceHub

/-- A TOML value.  Dates and floats are told apart from other values and not kept. -/
inductive Toml where
  | string (s : String)
  | integer (i : Int)
  | float
  | boolean (b : Bool)
  | datetime
  | array (items : List Toml)
  /-- A table written as a value; nothing is added to it. -/
  | inline (fields : List (String × Toml))
  /-- A table named by headers or dotted keys: `implied` when only something below it was named,
  `dotted` when a dotted key made it. -/
  | table (implied dotted : Bool) (fields : List (String × Toml))
  /-- The tables of one repeated header, the last one first. -/
  | tables (items : List Toml)
  deriving Inhabited

namespace Toml

abbrev Path := List String

/-- Fields of a table, or of the last table of a repeated header; none for other values. -/
def openFields? : Toml → Option (List (String × Toml))
  | table _ _ fields => some fields
  | tables (table _ _ fields :: _) => some fields
  | _ => none

def withFields (fields : List (String × Toml)) : Toml → Toml
  | table implied dotted _ => table implied dotted fields
  | tables (table implied dotted _ :: rest) => tables (table implied dotted fields :: rest)
  | other => other

/-- A table a dotted key may go on through. -/
def admitsDotted : Toml → Bool
  | table implied _ _ => implied
  | tables _ => true
  | _ => false

/-- Changes the table at a path below some fields, making the tables on the way when they are not
there; `dotted` says that the path is part of a dotted key. -/
def updateAt (dotted : Bool) (change : Toml → Option Toml) : Path → Toml → Option Toml
  | [], t => change t
  | part :: path, t =>
    (openFields? t).bind fun fields =>
      let child := (KeyMap.find? part fields).getD (table true dotted [])
      if dotted && !admitsDotted child then none
      else
        (updateAt dotted change path child).map fun child =>
          withFields (KeyMap.insert part child fields) t

def isDotted : Toml → Bool
  | table _ dotted _ => dotted
  | _ => false

def addField (key : String) (value : Toml) (t : Toml) : Option Toml :=
  (openFields? t).bind fun fields =>
    if (KeyMap.find? key fields).isSome then none
    else some (withFields (KeyMap.insert key value fields) t)

/-- Puts a value under a dotted key: the tables on the way are the key's own. -/
def assign (key : Path) (value : Toml) (t : Toml) : Option Toml :=
  match key.getLast? with
  | none => none
  | some last =>
    let path := key.dropLast
    updateAt true (fun t =>
      let t' := match t with
        | tables (head :: _) => head
        | t => t
      if isDotted t' == path.isEmpty then none else addField last value t) path t

/-- Starts the table of a header: it may only have been implied before. -/
def startTable (key : String) (t : Toml) : Option Toml :=
  (openFields? t).bind fun fields =>
    match KeyMap.find? key fields with
    | none => some (withFields (KeyMap.insert key (table false false []) fields) t)
    | some (table true false inner) =>
      some (withFields (KeyMap.insert key (table false false inner) fields) t)
    | some _ => none

def startElement (key : String) (t : Toml) : Option Toml :=
  (openFields? t).bind fun fields =>
    match KeyMap.find? key fields with
    | none => some (withFields (KeyMap.insert key (tables [table false false []]) fields) t)
    | some (tables items) =>
      some (withFields (KeyMap.insert key (tables (table false false [] :: items)) fields) t)
    | some _ => none

def root : Toml :=
  table false false []

def tableFields? : Toml → Option (List (String × Toml))
  | inline fields => some fields
  | table _ _ fields => some fields
  | _ => none

end Toml
end DeviceHub
