import Excerpt.Charset.Basic

/-!
The directory an extraction works in: files and directories under relative paths. Paths are walked
one component at a time, so the first component that fails decides the error.
-/
namespace Excerpt

/-- Why the file system refuses a path. -/
inductive OsError where
  | notFound
  | alreadyThere
  | notDirectory
  | isDirectory
  | nameTooLong
deriving DecidableEq, Repr

namespace OsError

def number : OsError → Nat
  | notFound => 2
  | alreadyThere => 17
  | notDirectory => 20
  | isDirectory => 21
  | nameTooLong => 36

def text : OsError → String
  | notFound => "No such file or directory"
  | alreadyThere => "File exists"
  | notDirectory => "Not a directory"
  | isDirectory => "Is a directory"
  | nameTooLong => "File name too long"

end OsError

/-- The components from the top directory down. -/
abbrev Path := List String

inductive Entry where
  | file (content : Bytes)
  | dir
deriving DecidableEq, Repr

/-- Every entry with its path; a later entry for the same path does not count. -/
structure FileTree where
  entries : List (Path × Entry)

def splitSlash : Text → List Text
  | [] => [[]]
  | '/' :: r => [] :: splitSlash r
  | c :: r =>
    match splitSlash r with
    | [] => [[c]]
    | w :: ws => (c :: w) :: ws

/-- The components of a path as written, empty ones and single dots left out. -/
def pathComponents (s : String) : List String :=
  ((splitSlash s.toList).filter fun w => !w.isEmpty && w != ['.']).map String.ofList

def isAbsolute (s : String) : Bool := s.toList.head? == some '/'

/-- The slashes a path is rooted at: exactly two in front stay two, any other number counts as
one. -/
def pathRoot (s : String) : String :=
  match s.toList.takeWhile (· == '/') with
  | [] => ""
  | [_, _] => "//"
  | _ => "/"

/-- A path without its empty components and single dots; an empty one is the directory itself. -/
def tidyPath (s : String) : String :=
  let body := "/".intercalate (pathComponents s)
  if isAbsolute s then pathRoot s ++ body else if body == "" then "." else body

/-- The name of a path's last component from its last dot on; nothing when that dot is the first or
the last character. -/
def suffixOf (s : String) : String :=
  match (pathComponents s).getLast? with
  | none => ""
  | some name =>
    let tail := name.toList.reverse.takeWhile (· != '.')
    if tail.isEmpty || tail.length + 1 ≥ name.length then ""
    else String.ofList ('.' :: tail.reverse)

/-- The longest component and the longest path, in bytes. -/
def maxName : Nat := 255

def maxPath : Nat := 4095

namespace FileTree

def get? (t : FileTree) (p : Path) : Option Entry :=
  match p with
  | [] => some .dir
  | p => (t.entries.find? fun e => e.1 == p).map (·.2)

/-- Where a walk ends: at an entry, at a free name in a directory, or above the top. -/
inductive Spot where
  | entry (path : Path) (found : Entry)
  | free (path : Path)
  | outside
deriving Repr

/-- Walks the components from a directory; `here` holds the components so far, last one first. -/
def walk (t : FileTree) (here : List String) : List String → Except OsError Spot
  | [] =>
    match t.get? here.reverse with
    | some e => .ok (.entry here.reverse e)
    | none => .ok (.free here.reverse)
  | c :: rest =>
    match t.get? here.reverse with
    | none => .error .notFound
    | some (.file _) => .error .notDirectory
    | some .dir =>
      if c.utf8ByteSize > maxName then .error .nameTooLong
      else if c == ".." then
        match here with
        | [] => if rest.all (· == "..") then .ok .outside else .error .notFound
        | _ :: up => walk t up rest
      else walk t (c :: here) rest

/-- The spot a written path leads to. -/
def locate (t : FileTree) (s : String) : Except OsError Spot :=
  if s == "" then .error .notFound
  else if s.utf8ByteSize > maxPath then .error .nameTooLong
  else if isAbsolute s then if (pathComponents s).isEmpty then .ok .outside else .error .notFound
  else
    match t.walk [] (pathComponents s) with
    | .ok (.entry p (.file b)) =>
      if s.toList.getLast? == some '/' || s.toList.reverse.take 2 == ['.', '/'] then
        .error .notDirectory
      else .ok (.entry p (.file b))
    | r => r

/-- The bytes of the file at a path. -/
def readFile (t : FileTree) (s : String) : Except OsError Bytes :=
  match t.locate s with
  | .error e => .error e
  | .ok (.entry _ (.file b)) => .ok b
  | .ok (.entry _ .dir) => .error .isDirectory
  | .ok .outside => .error .isDirectory
  | .ok (.free _) => .error .notFound

def insert (t : FileTree) (p : Path) (e : Entry) : FileTree :=
  ⟨(p, e) :: t.entries.filter fun q => q.1 != p⟩

/-- Replaces the content of the file at a path, or makes it in a directory that is there. -/
def writeFile (t : FileTree) (s : String) (b : Bytes) : Except OsError FileTree :=
  match t.locate s with
  | .error e => .error e
  | .ok (.entry p (.file _)) => .ok (t.insert p (.file b))
  | .ok (.entry _ .dir) => .error .isDirectory
  | .ok .outside => .error .isDirectory
  | .ok (.free p) => .ok (t.insert p (.file b))

/-- Makes one directory, whose parent must be there. -/
def makeDir (t : FileTree) (s : String) : Except OsError FileTree :=
  match t.locate s with
  | .error e => .error e
  | .ok (.entry _ _) => .error .alreadyThere
  | .ok .outside => .error .alreadyThere
  | .ok (.free p) => .ok (t.insert p .dir)

/-- Is there a directory at the path? -/
def isDir (t : FileTree) (s : String) : Bool :=
  match t.locate s with
  | .ok (.entry _ .dir) | .ok .outside => true
  | _ => false

/-- Makes a directory with its missing ancestors; one that is there already is fine. Ancestors made
before a failure stay. -/
def makeDirs (t : FileTree) (root : String) : (reversed : List String) → FileTree × Option OsError
  | [] => (t, none)
  | c :: up =>
    let s := root ++ "/".intercalate (c :: up).reverse
    match t.makeDir s with
    | .ok t => (t, none)
    | .error .notFound =>
      match t.makeDirs root up with
      | (t, some e) => (t, some e)
      | (t, none) => makeLast t s
    | .error e => (t, if t.isDir s then none else some e)
where
  makeLast (t : FileTree) (s : String) : FileTree × Option OsError :=
    match t.makeDir s with
    | .ok t => (t, none)
    | .error e => (t, if t.isDir s then none else some e)

/-- Removes an entry and all below it. -/
def delete (t : FileTree) (p : Path) : FileTree :=
  ⟨t.entries.filter fun q => !p.isPrefixOf q.1⟩

/-- Puts an entry with all its ancestors. -/
def plant (t : FileTree) (p : Path) (e : Entry) : FileTree :=
  let ancestors := (List.range p.length).filterMap fun n =>
    if n == 0 then none else some (p.take n)
  let t := ancestors.foldl (fun t a => if (t.get? a).isNone then t.insert a .dir else t) t
  if e == .dir && (t.get? p).isSome then t else t.insert p e

def empty : FileTree := ⟨[]⟩

end FileTree

end Excerpt
