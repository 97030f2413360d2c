import Excerpt.Json.Basic

/-!
Writing JSON text: pure ASCII, two spaces of indentation for each level, empty arrays and objects on
one line. Nesting and the length of whole numbers are limited as in reading. `line` writes the same
values on one line.
-/
namespace Excerpt.Json

/-- A character inside a string: controls, quotes and everything past ASCII are escaped, in two
halves beyond the basic plane. -/
def escapeChar (c : Char) : Text :=
  let n := c.toNat
  if c == '"' then ['\\', '"']
  else if c == '\\' then ['\\', '\\']
  else if c == '\n' then ['\\', 'n']
  else if c == '\r' then ['\\', 'r']
  else if c == '\t' then ['\\', 't']
  else if n == 8 then ['\\', 'b']
  else if n == 12 then ['\\', 'f']
  else if 32 ≤ n && n < 127 then [c]
  else if n < 0x10000 then '\\' :: 'u' :: hex 4 n
  else
    let m := n - 0x10000
    '\\' :: 'u' :: hex 4 (0xD800 + m / 0x400) ++ '\\' :: 'u' :: hex 4 (0xDC00 + m % 0x400)

def stringText (s : String) : Text := '"' :: s.toList.flatMap escapeChar ++ ['"']

/-- Numbers that are no numbers have words of their own. -/
def floatText : Binary64 → Text
  | .notANumber => ['N', 'a', 'N']
  | .infinite negative => (if negative then ['-'] else []) ++ "Infinity".toList
  | x => x.text

/-- A line feed and the indentation of a level. -/
def newLine (level : Nat) : Text := '\n' :: List.replicate (2 * level) ' '

mutual

def textAt (level : Nat) : Json → Text
  | null => "null".toList
  | bool b => if b then "true".toList else "false".toList
  | int n => (toString n).toList
  | float x => floatText x
  | str s => stringText s
  | arr [] => ['[', ']']
  | arr (v :: rest) =>
    '[' :: newLine (level + 1) ++ textAt (level + 1) v ++ itemsText (level + 1) rest ++
      newLine level ++ [']']
  | obj [] => ['{', '}']
  | obj ((k, v) :: rest) =>
    '{' :: newLine (level + 1) ++ stringText k ++ [':', ' '] ++ textAt (level + 1) v ++
      fieldsText (level + 1) rest ++ newLine level ++ ['}']

def itemsText (level : Nat) : List Json → Text
  | [] => []
  | v :: rest => ',' :: newLine level ++ textAt level v ++ itemsText level rest

def fieldsText (level : Nat) : List (String × Json) → Text
  | [] => []
  | (k, v) :: rest =>
    ',' :: newLine level ++ stringText k ++ [':', ' '] ++ textAt level v ++ fieldsText level rest

end

/-- The text of a value in a settings file. -/
def text (v : Json) : Text := textAt 0 v

mutual

/-- The first thing that keeps a value from being written, when it lies inside `depth` arrays and
objects. -/
def obstacleAt (depth : Nat) : Json → Option Problem
  | int n => if (toString n.natAbs).length > maxDigits then some .longValue else none
  | arr items => if depth ≥ maxDepth then some .deepValue else itemsObstacle (depth + 1) items
  | obj fields => if depth ≥ maxDepth then some .deepValue else fieldsObstacle (depth + 1) fields
  | _ => none

def itemsObstacle (depth : Nat) : List Json → Option Problem
  | [] => none
  | v :: rest => (obstacleAt depth v).or (itemsObstacle depth rest)

def fieldsObstacle (depth : Nat) : List (String × Json) → Option Problem
  | [] => none
  | (_, v) :: rest => (obstacleAt depth v).or (fieldsObstacle depth rest)

end

/-- The text of a value, when it can be written. -/
def written (v : Json) : Except Problem Text :=
  match obstacleAt 0 v with
  | some p => .error p
  | none => .ok v.text

mutual

def lineText : Json → Text
  | arr items => '[' :: lineItems items ++ [']']
  | obj fields => '{' :: lineFields fields ++ ['}']
  | v => textAt 0 v

def lineItems : List Json → Text
  | [] => []
  | [v] => lineText v
  | v :: w :: rest => lineText v ++ ',' :: lineItems (w :: rest)

def lineFields : List (String × Json) → Text
  | [] => []
  | [(k, v)] => stringText k ++ ':' :: lineText v
  | (k, v) :: f :: rest => stringText k ++ ':' :: lineText v ++ ',' :: lineFields (f :: rest)

end

/-- The text of a value on one line. -/
def line (v : Json) : String := String.ofList (lineText v)

end Excerpt.Json
