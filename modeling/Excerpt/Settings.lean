import Excerpt.Desk
import Excerpt.Json.Printer

/-!
The settings file. It is read anew for every call; what it lacks has a default, and a file that
cannot be used counts as none, with a warning.
-/
namespace Excerpt

structure Settings where
  encoding : Json := .null
  logLevel : Json := .str "WARNING"
  logFile : Json := .str ""
  /-- Always an object. -/
  suffixes : List (String × Json) := []

namespace Settings

def defaultPath : String := ".methodsource/config.json"

/-- Every line ending as a line feed. -/
def plainLines : Text → Text
  | [] => []
  | '\r' :: '\n' :: r => '\n' :: plainLines r
  | '\r' :: r => '\n' :: plainLines r
  | c :: r => c :: plainLines r

/-- Overlays the defaults with the fields that have a meaning. -/
def ofFields (fields : List (String × Json)) : Settings × List Record :=
  let base : Settings := {}
  let settings : Settings :=
    { encoding := (Json.field? "encoding" fields).getD base.encoding
      logLevel := (Json.field? "log_level" fields).getD base.logLevel
      logFile := (Json.field? "log_file" fields).getD base.logFile }
  match Json.field? "suffixes" fields with
  | none => (settings, [])
  | some (.obj suffixes) => ({ settings with suffixes }, [])
  | some _ => (settings, [.suffixesIgnored])

/-- The settings in a file's bytes, and the warnings about them. -/
def ofBytes (b : Bytes) : Except Fault (Settings × List Record) :=
  match Charset.utf8.decode b with
  | .error f => .ok ({}, [.settingsUnread f.message])
  | .ok t =>
    let t := plainLines t
    match Json.read t with
    | .ok (.obj fields) => .ok (ofFields fields)
    | .ok _ => .ok ({}, [.settingsUnread "top level must be an object"])
    | .error f =>
      if f.problem.isDepth then .error (.deepSettings f.problem)
      else .ok ({}, [.settingsUnread (f.message t)])

def hasNul (s : String) : Bool := s.toList.contains (Char.ofNat 0)

/-- The settings the file at `path` gives, and the warnings about them. -/
def find (tree : FileTree) (path : String) : Except Fault (Settings × List Record) :=
  if hasNul path then .ok ({}, [])
  else
    match tree.locate path with
    | .error .nameTooLong => .error (.system .nameTooLong)
    | .error _ | .ok (.free _) => .ok ({}, [])
    | .ok _ =>
      match tree.readFile path with
      | .ok b => ofBytes b
      | .error e =>
        .ok ({}, [.settingsUnread ("[Errno " ++ toString e.number ++ "] " ++ e.text ++ ": " ++
          quoted path)])

/-- Reads the settings at a path. -/
def load (path : String) : Op Settings := do
  let (settings, warnings) ← Op.ofExcept (find (← Op.tree) path)
  warnings.forM Op.note
  return settings

/-- The settings as one value. -/
def toJson (s : Settings) : Json :=
  .obj [("encoding", s.encoding), ("log_level", s.logLevel), ("log_file", s.logFile),
    ("suffixes", .obj s.suffixes)]

/-- The directory a path lies in, its components last one first. -/
def parentOf (path : String) : List String := (pathComponents path).reverse.drop 1

/-- Makes the directories above `path` and then writes the text of `value` there. A value that has
none leaves the file as it is. A name that no path can hold is noticed when it is used: in the
directories at once, in the file only when its text is there. -/
def store (tree : FileTree) (path : String) (value : Json) : FileTree × Option Fault :=
  if (parentOf path).any hasNul then (tree, some .nulInPath)
  else
    match tree.makeDirs (pathRoot path) (parentOf path) with
    | (tree, some e) => (tree, some (.system e))
    | (tree, none) =>
      match value.written with
      | .error p => (tree, some (if p.isDepth then .deepSettings p else .unwritable p))
      | .ok text =>
        if hasNul path then (tree, some .nulInPath)
        else
          match tree.writeFile path (String.ofList text).toUTF8.data.toList with
          | .error e => (tree, some (.system e))
          | .ok tree => (tree, none)

/-- Writes any value as the settings file. -/
def save (value : Json) (path : String) : Op Unit := do
  let (tree, failed) := store (← Op.tree) path value
  modify fun d => { d with tree }
  match failed with
  | some e => throw e
  | none => Op.note (.settingsSaved path)

end Settings

end Excerpt
