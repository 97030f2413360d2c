import Excerpt.Settings

/-!
Setting up a logger by the settings: one handler for the error stream, and one for a log file when
the settings name one. A logger that has handlers is left as it is.
-/
namespace Excerpt

inductive LogHandler where
  | stream (level : Nat)
  | file (path : String) (level : Nat)
deriving DecidableEq, Repr

structure Logger where
  level : Nat := 0
  handlers : List LogHandler := []
  /-- What the error stream has received. -/
  stream : String := ""

namespace Logger

def debugLevel : Nat := 10

def warningLevel : Nat := 30

/-- The level names that settings may use. -/
def levels : List (String × Nat) :=
  [("CRITICAL", 50), ("FATAL", 50), ("ERROR", 40), ("WARN", 30), ("WARNING", 30), ("INFO", 20),
   ("DEBUG", 10), ("NOTSET", 0)]

/-- Upper case, as far as it yields the letters of a level name: besides the small letters, the
dotless i and the long s. -/
def upperLetter (c : Char) : Char :=
  if c.toNat == 0x131 then 'I' else if c.toNat == 0x17F then 'S' else c.toUpper

def levelOf (setting : Json) : Nat :=
  let name := if setting.isTruthy then setting.plain else "WARNING"
  let name := String.ofList (name.toList.map upperLetter)
  ((levels.find? fun l => l.1 == name).map (·.2)).getD warningLevel

/-- Resolves dots and double dots without looking at the directory. -/
def flatPath (s : String) : String :=
  let parts := (pathComponents s).foldl (fun up c => if c == ".." then up.drop 1 else c :: up) []
  if parts.isEmpty then "." else "/".intercalate parts.reverse

/-- Opens a log file for appending: it must be a file, or a free name in a directory. -/
def openLogFile (path : String) : Op Unit := do
  if Settings.hasNul path then throw .nulInPath
  let tree ← Op.tree
  match tree.locate path with
  | .error e => throw (.system e)
  | .ok (.entry _ .dir) | .ok .outside => throw (.system .isDirectory)
  | .ok (.entry _ (.file _)) => pure ()
  | .ok (.free p) => modify fun d => { d with tree := d.tree.insert p (.file []) }

/-- The file handler that a setting asks for. -/
def fileHandler (setting : Json) : Op (List LogHandler) :=
  if !setting.isTruthy then pure []
  else
    match setting with
    | .str path => do
      let path := flatPath path
      openLogFile path
      return [.file path debugLevel]
    | v => throw (.pathKind v.kindName)

/-- Installs the handlers on a logger that has none, the stream's first. When the log file cannot be
opened the stream's handler stays. -/
def setup (logger : Logger) (d : Desk) : Except Fault Unit × Logger × Desk :=
  let logger := { logger with level := debugLevel }
  if !logger.handlers.isEmpty then (.ok (), logger, d)
  else
    match (Settings.load Settings.defaultPath).run d with
    | (.error e, d) => (.error e, logger, d)
    | (.ok settings, d) =>
      let logger := { logger with handlers := [.stream (levelOf settings.logLevel)] }
      match (fileHandler settings.logFile).run d with
      | (.error e, d) => (.error e, logger, d)
      | (.ok more, d) => (.ok (), { logger with handlers := logger.handlers ++ more }, d)

def levelName (level : Int) : String :=
  match ["CRITICAL", "ERROR", "WARNING", "INFO", "DEBUG", "NOTSET"].find? fun n =>
      levels.any fun l => l.1 == n && (l.2 : Int) == level with
  | some name => name
  | none => "Level " ++ toString level

/-- One record as a line of a log. -/
def recordLine (level : Int) (message : String) : String :=
  let name := levelName level
  name ++ String.ofList (List.replicate (8 - name.length) ' ') ++ " | " ++ message ++ "\n"

def appendLog (tree : FileTree) (path : String) (line : String) : FileTree :=
  match tree.readFile path with
  | .ok b =>
    match tree.writeFile path (b ++ line.toUTF8.toList) with
    | .ok tree => tree
    | .error _ => tree
  | .error _ => tree

/-- Gives a record to every handler whose level it reaches. -/
def emit (level : Int) (message : String) (logger : Logger) (tree : FileTree) : Logger × FileTree :=
  if level < logger.level then (logger, tree)
  else
    logger.handlers.foldl (fun (logger, tree) h =>
      match h with
      | .stream least =>
        if level < least then (logger, tree)
        else ({ logger with stream := logger.stream ++ recordLine level message }, tree)
      | .file path least =>
        if level < least then (logger, tree)
        else (logger, appendLog tree path (recordLine level message))) (logger, tree)

/-- The log file of a handler, with its content. -/
def logFile (tree : FileTree) : LogHandler → List (String × Text)
  | .stream _ => []
  | .file path _ =>
    match (tree.readFile path).map Charset.utf8.decode with
    | .ok (.ok t) => [(path, t)]
    | _ => []

/-- The log files of a logger's handlers. -/
def logFiles (logger : Logger) (tree : FileTree) : List (String × Text) :=
  logger.handlers.flatMap (logFile tree)

end Logger

end Excerpt
