import Excerpt.Binary64
import Excerpt.Text.Quoted

/-!
Values of unknown type, as they come out of a settings file or a caller's request: the JSON values,
with whole numbers of any size apart from floating-point ones, and objects in insertion order.
-/
namespace Excerpt

inductive Json where
  | null
  | bool (b : Bool)
  | int (n : Int)
  | float (x : Binary64)
  | str (s : String)
  | arr (items : List Json)
  | obj (fields : List (String × Json))
deriving Repr

instance : Inhabited Json := ⟨.null⟩

namespace Json

/-- Why a text is no JSON value, or a value has no text. -/
inductive Problem where
  | value
  | comma
  | colon
  | name
  | unterminated
  | control
  | escape
  | unicodeEscape
  | extra
  | byteOrderMark
  | longNumber (digits : Nat)
  | deepArray
  | deepObject
  /-- A number or a value that cannot be written. -/
  | longValue
  | deepValue
deriving DecidableEq, Repr

/-- How deep arrays and objects may nest, in a text and in a value. -/
def maxDepth : Nat := 985

/-- How many digits a whole number may have. -/
def maxDigits : Nat := 4300

/-- The value of the last field of that name. -/
def field? (key : String) : List (String × Json) → Option Json
  | [] => none
  | (k, v) :: rest =>
    match field? key rest with
    | some w => some w
    | none => if k == key then some v else none

def get? (v : Json) (key : String) : Option Json :=
  match v with
  | obj fields => field? key fields
  | _ => none

/-- Sets a field: a name already there keeps its place and gets the new value. -/
def put (key : String) (value : Json) : List (String × Json) → List (String × Json)
  | [] => [(key, value)]
  | (k, v) :: rest => if k == key then (k, value) :: rest else (k, v) :: put key value rest

/-- Empty, zero and absent values count as false. -/
def isTruthy : Json → Bool
  | null => false
  | bool b => b
  | int n => n != 0
  | float x => !x.isZero
  | str s => s != ""
  | arr items => !items.isEmpty
  | obj fields => !fields.isEmpty

/-- The name of the kind of value, as error messages give it. -/
def kindName : Json → String
  | null => "NoneType"
  | bool _ => "bool"
  | int _ => "int"
  | float _ => "float"
  | str _ => "str"
  | arr _ => "list"
  | obj _ => "dict"

def boolWord (b : Bool) : String := if b then "True" else "False"

def joinComma : List String → String
  | [] => ""
  | [s] => s
  | s :: t :: rest => s ++ ", " ++ joinComma (t :: rest)

mutual

/-- A value as messages quote it. -/
def display : Json → String
  | null => "None"
  | bool b => boolWord b
  | int n => toString n
  | float x => String.ofList x.text
  | str s => quoted s
  | arr items => "[" ++ joinComma (displayItems items) ++ "]"
  | obj fields => "\x7b" ++ joinComma (displayFields fields) ++ "\x7d"

def displayItems : List Json → List String
  | [] => []
  | v :: rest => display v :: displayItems rest

def displayFields : List (String × Json) → List String
  | [] => []
  | (k, v) :: rest => (quoted k ++ ": " ++ display v) :: displayFields rest

end

/-- A value as plain text: a string stands for itself. -/
def plain : Json → String
  | str s => s
  | v => display v

mutual

/-- Equality of values: numbers compare by value, whatever their kind, and truth values count as
zero and one. -/
def valueEq : Json → Json → Bool
  | null, null => true
  | str s, str t => s == t
  | arr xs, arr ys => itemsEq xs ys
  | obj xs, obj ys => xs.length == ys.length && fieldsIn xs ys
  | bool a, bool b => a == b
  | bool a, int n => (if a then 1 else 0) == n
  | int n, bool a => (if a then 1 else 0) == n
  | bool a, float x => x.eqInt (if a then 1 else 0)
  | float x, bool a => x.eqInt (if a then 1 else 0)
  | int n, int m => n == m
  | int n, float x => x.eqInt n
  | float x, int n => x.eqInt n
  | float x, float y => x.valueEq y
  | _, _ => false

def itemsEq : List Json → List Json → Bool
  | [], [] => true
  | x :: xs, y :: ys => valueEq x y && itemsEq xs ys
  | _, _ => false

def fieldsIn : List (String × Json) → List (String × Json) → Bool
  | [], _ => true
  | (k, v) :: rest, ys =>
    (match field? k ys with
      | some w => valueEq v w
      | none => false) && fieldsIn rest ys

end

end Json

end Excerpt
