import Excerpt.Extract

/-!
Entities of a running program, and where their text starts. Wrappers of every kind are looked
through to the function at their core; what has no text behind it resolves to no location.
-/
namespace Excerpt

/-- A piece of compiled code: its file, its first line, and its names. -/
structure CodeInfo where
  file : String
  line : Int
  name : String
  qualifiedName : String
deriving Repr

/-- A function: its code, and the names it goes by itself. -/
structure FunctionInfo where
  code : CodeInfo
  name : String
  qualifiedName : String
deriving Repr

/-- An item of a tuple: a plain value or a path. -/
inductive TupleItem where
  | value (v : Json)
  | path (p : String)
deriving Repr

inductive Entity where
  | absent
  | located (file line : Json)
  | tuple (items : List TupleItem)
  | value (v : Json)
  | code (info : CodeInfo)
  | function (info : FunctionInfo)
  /-- A function that says which entity it wraps. -/
  | wrapper (info : FunctionInfo) (inner : Entity)
  /-- A function that says it wraps itself. -/
  | loop (info : FunctionInfo)
  /-- A generator or coroutine in progress. -/
  | running (info : FunctionInfo)
  | frame (info : CodeInfo)
  | classMethod (func : Entity)
  | staticMethod (func : Entity)
  | boundMethod (func : Entity)
  | partialCall (func : Entity)
  | property (getter : Entity)
  | emptyProperty
  | classObject (module : Option String) (qualifiedName : String) (firstLine : Option Json)
  | builtin (name : String)
  | builtinClass (name : String)
  /-- Any other object: its attributes and how it is displayed. -/
  | object (attributes : List (String × Json)) (shown : String)
deriving Repr

/-- The files of the loaded modules; a module need not have one. -/
abbrev ModuleTable := List (String × Option String)

namespace Entity

def afterLastDot (s : String) : String :=
  String.ofList (s.toList.reverse.takeWhile (· != '.')).reverse

def textAttribute? (attributes : List (String × Json)) (key : String) : Option String :=
  match Json.field? key attributes with
  | some (.str s) => some s
  | _ => none

/-- A naming attribute, when the entity has it and it is text. Bound methods show those of their
function; class and static methods copy the first two. -/
def attribute? (key : String) : Entity → Option String
  | code info | frame info =>
    if key == "co_qualname" then some info.qualifiedName
    else if key == "co_name" then some info.name
    else none
  | function info | wrapper info _ | loop info | running info =>
    if key == "__qualname__" then some info.qualifiedName
    else if key == "__name__" then some info.name
    else none
  | classMethod f | staticMethod f =>
    if key == "__qualname__" || key == "__name__" then f.attribute? key else none
  | boundMethod f => f.attribute? key
  | classObject _ q _ | builtinClass q | builtin q =>
    if key == "__qualname__" then some q
    else if key == "__name__" then some (afterLastDot q)
    else none
  | object attributes _ => textAttribute? attributes key
  | _ => none

def nameKeys : List String := ["__qualname__", "__name__", "co_qualname", "co_name"]

/-- The first naming attribute that is text. A frame's code has names, the frame itself none. -/
def name? (e : Entity) : Option String :=
  match e with
  | frame _ => none
  | e => nameKeys.findSome? e.attribute?

/-- A name of code that did not come from a file. -/
def isSynthetic (file : String) : Bool :=
  let t := file.toList
  t.isEmpty || (t.head? == some '<' && t.getLast? == some '>')

/-- Which kind of answer an entity gets. -/
inductive Form where
  | fixed
  | code
  | classObject
deriving DecidableEq, Repr

/-- An entity as the extractor sees it: its name, and where its text starts. -/
structure Origin where
  form : Form
  name : Option String
  place : Except Fault (Option (Located Json))

def fixed (place : Option (Located Json)) (name : Option String) : Origin :=
  ⟨.fixed, name, .ok place⟩

/-- Code resolves to its first line, if its file and line are real. -/
def originOfCode (info : CodeInfo) (name : Option String) : Origin :=
  let name := match name with
    | some "" | none => info.qualifiedName
    | some s => s
  let place :=
    if isSynthetic info.file || info.line < 1 then .ok none
    else (Located.check (.str info.file) (.int info.line)).map some
  ⟨.code, some name, place⟩

/-- A truth value passes for a line number until the location is built. -/
def lineNumber? : Json → Option Int
  | .int n => some n
  | .bool b => some (if b then 1 else 0)
  | _ => none

def originOfClass (modules : ModuleTable) (module : Option String) (name : String)
    (firstLine : Option Json) : Origin :=
  let file := ((modules.find? fun m => m.1 == module.getD "").bind (·.2)).getD ""
  let place :=
    match firstLine with
    | none => .ok none
    | some v =>
      match lineNumber? v with
      | none => .ok none
      | some n =>
        if n < 1 || isSynthetic file then .ok none
        else (Located.check (.str file) v).map some
  ⟨.classObject, some name, place⟩

def TupleItem.display : TupleItem → String
  | .value v => v.display
  | .path p => "PosixPath(" ++ quoted (tidyPath p) ++ ")"

def displayTuple (items : List TupleItem) : String :=
  match items with
  | [a] => "(" ++ TupleItem.display a ++ ",)"
  | items => "(" ++ Json.joinComma (items.map TupleItem.display) ++ ")"

/-- The file a tuple's first item names. -/
def TupleItem.file? : TupleItem → Option String
  | .value (.str s) => some s
  | .path p => some (tidyPath p)
  | _ => none

/-- A pair of a file and a whole number is a location; any other tuple is just a value. -/
def originOfTuple (items : List TupleItem) : Except Fault Origin :=
  let other := fixed none (some (displayTuple items))
  match items with
  | [a, .value (.int n)] =>
    match TupleItem.file? a with
    | some file => (Located.check (.str file) (.int n)).map fun loc => fixed (some loc) none
    | none => .ok other
  | _ => .ok other

def originOfValue : Json → Origin
  | .null => fixed none none
  | v => fixed none (some v.display)

/-- The function at the core of nested partial calls. -/
def partialCore : Entity → Entity
  | partialCall f => partialCore f
  | e => e

def partialName (f : Entity) : String :=
  match (partialCore f).name? with
  | some "" | none => "functools.partial"
  | some s => s

def objectName (attributes : List (String × Json)) (shown : String) : String :=
  match (object attributes shown).name? with
  | some "" | none => shown
  | some s => s

variable (modules : ModuleTable)

/-- What every kind of entity that wraps nothing comes to. -/
def plainOrigin : Entity → Except Fault Origin
  | absent => .ok (fixed none none)
  | located file line => (Located.check file line).map fun loc => fixed (some loc) none
  | tuple items => originOfTuple items
  | value v => .ok (originOfValue v)
  | code info | frame info => .ok (originOfCode info none)
  | function info | running info => .ok (originOfCode info.code (some info.qualifiedName))
  | partialCall f => .ok (fixed none (some (partialName f)))
  | emptyProperty => .ok (fixed none none)
  | classObject module name firstLine => .ok (originOfClass modules module name firstLine)
  | builtinClass name => .ok (originOfClass modules (some "builtins") name none)
  | builtin name => .ok (fixed none (some name))
  | object attributes shown => .ok (fixed none (some (objectName attributes shown)))
  | _ => .error .wrapperLoop

mutual

/-- Where an entity's text starts. -/
def origin : Entity → Except Fault Origin
  | wrapper _ inner => originUnwrapped inner
  | loop _ => .error .wrapperLoop
  | classMethod f | staticMethod f | boundMethod f | property f => origin f
  | e => plainOrigin modules e

/-- The origin of an entity after following what it says it wraps, as far as that goes. -/
def originUnwrapped : Entity → Except Fault Origin
  | wrapper _ inner => originUnwrapped inner
  | loop _ => .error .wrapperLoop
  | classMethod f | staticMethod f => originUnwrapped f
  | boundMethod f => originThrough f
  | property f => origin f
  | object attributes shown =>
    match Json.field? "__wrapped__" attributes with
    | some v => .ok (originOfValue v)
    | none => plainOrigin modules (object attributes shown)
  | e => plainOrigin modules e

/-- The origin of a bound method of `f` after following what `f` says it wraps. -/
def originThrough : Entity → Except Fault Origin
  | wrapper _ inner => originUnwrapped inner
  | loop _ => .error .wrapperLoop
  | classMethod f | staticMethod f => originUnwrapped f
  | boundMethod f => originThrough f
  | property f => origin f
  | object attributes shown =>
    match Json.field? "__wrapped__" attributes with
    | some v => .ok (originOfValue v)
    | none => plainOrigin modules (object attributes shown)
  | e => plainOrigin modules e

end

end Entity

/-- A resolved place as a location; its file must be named by text. -/
def Location.ofPlace : Option (Located Json) → Except Fault (Option Location)
  | none => .ok none
  | some ⟨.str file, line, h⟩ => .ok (some ⟨file, line, h⟩)
  | some ⟨v, _, _⟩ => .error (.pathKind v.kindName)

/-- The text of an entity. -/
def sourceOf (modules : ModuleTable) (e : Entity) : Op Text := do
  let origin ← Op.ofExcept (e.origin modules)
  let place ← Op.ofExcept origin.place
  sourceAt (← Op.ofExcept (Location.ofPlace place)) origin.name

/-- The comment above an entity. -/
def commentOfEntity (modules : ModuleTable) (e : Entity) : Op Text := do
  let origin ← Op.ofExcept (e.origin modules)
  let place ← Op.ofExcept origin.place
  commentAt (← Op.ofExcept (Location.ofPlace place))

end Excerpt
