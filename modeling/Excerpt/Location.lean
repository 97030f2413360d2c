import Excerpt.Fault

/-!
Locations: a file and a line in it, counted from one. A location comes from a pair of values of any
kind; the second must be a whole number that is positive.
-/
namespace Excerpt

structure Located (φ : Type) where
  file : φ
  line : Nat
  line_pos : 0 < line

/-- A location whose file is named by text. -/
abbrev Location := Located String

namespace Located

variable {φ : Type}

/-- Checks a line number. A truth value is no number here. -/
def check (file : φ) : Json → Except Fault (Located φ)
  | .int n => if h : 0 < n.toNat then .ok ⟨file, n.toNat, h⟩ else .error (.lineNotPositive n)
  | v => .error (.lineNotWhole v)

end Located

/-- The two parts a value falls into: the items of an array, the characters of a string, or the names
of an object's fields. -/
def twoParts : Json → Except Fault (Json × Json)
  | .arr items => two items
  | .str s => two (s.toList.map fun c => .str (String.singleton c))
  | .obj fields => two (fields.map fun f => .str f.1)
  | v => .error (.noParts v.kindName)
where
  two : List Json → Except Fault (Json × Json)
    | [a, b] => .ok (a, b)
    | [] => .error (.tooFewParts 0)
    | [_] => .error (.tooFewParts 1)
    | _ => .error .tooManyParts

/-- The location a value describes; the null value describes none. -/
def Location.ofJson : Json → Except Fault (Option Location)
  | .null => .ok none
  | v => do
    let (file, line) ← twoParts v
    let loc ← Located.check file.plain line
    .ok (some loc)

namespace Location

/-- A location as log records and messages show it. -/
def label (loc : Location) : String := loc.file ++ ":" ++ toString loc.line

end Location

namespace Located

def plain (loc : Located Json) : String := loc.file.plain ++ ":" ++ toString loc.line

/-- A location as a quoted value. -/
def display (loc : Located Json) : String :=
  "SourceLocation(file_path=" ++ loc.file.display ++ ", line_number=" ++ toString loc.line ++ ")"

def valueEq (a b : Located Json) : Bool := a.file.valueEq b.file && a.line == b.line

/-- How many members the set of two locations has. A file named by an array or object cannot be a
member. -/
def setSize (a b : Located Json) : Except Fault Nat :=
  match a.file, b.file with
  | .arr _, _ | _, .arr _ => .error (.unhashable "list")
  | .obj _, _ | _, .obj _ => .error (.unhashable "dict")
  | _, _ => .ok (if a.valueEq b then 1 else 2)

/-- A location never changes: every assignment to a field is refused. -/
def assign (_ : Located Json) (field : String) : Fault := .frozenField field

end Located

end Excerpt
