import Excerpt.Json.Basic

/-!
Reading JSON text. Besides the standard grammar the words `NaN`, `Infinity` and `-Infinity` are
numbers, the last of two fields with one name wins, and nesting and the length of whole numbers are
limited. A failure names what was expected and where.
-/
namespace Excerpt.Json

structure Fault where
  problem : Problem
  position : Nat
deriving DecidableEq, Repr

/-- The text that is left, and how many characters came before it. -/
structure Cursor where
  rest : Text
  position : Nat
deriving Repr

def fail {α : Type} (problem : Problem) (position : Nat) : Except Fault (α × Cursor) := .error ⟨problem, position⟩

def isJsonBlank (c : Char) : Bool := c == ' ' || c == '\t' || c == '\n' || c == '\r'

def Cursor.skipBlank (c : Cursor) : Cursor :=
  let blank := c.rest.takeWhile isJsonBlank
  ⟨c.rest.drop blank.length, c.position + blank.length⟩

def Cursor.advance (c : Cursor) (n : Nat) : Cursor := ⟨c.rest.drop n, c.position + n⟩

def hexValue? (c : Char) : Option Nat :=
  if '0' ≤ c && c ≤ '9' then some (c.toNat - 48)
  else if 'a' ≤ c && c ≤ 'f' then some (c.toNat - 87)
  else if 'A' ≤ c && c ≤ 'F' then some (c.toNat - 55)
  else none

/-- The value of four hexadecimal digits and what follows them. -/
def hex4? : Text → Option (Nat × Text)
  | a :: b :: c :: d :: rest => do
    let a ← hexValue? a
    let b ← hexValue? b
    let c ← hexValue? c
    let d ← hexValue? d
    some (((a * 16 + b) * 16 + c) * 16 + d, rest)
  | _ => none

def isHighSurrogate (n : Nat) : Bool := 0xD800 ≤ n && n < 0xDC00

def isLowSurrogate (n : Nat) : Bool := 0xDC00 ≤ n && n < 0xE000

/-- A code point as a character; half of a pair has none and becomes the replacement character. -/
def charOf (n : Nat) : Char :=
  if isHighSurrogate n || isLowSurrogate n then Char.ofNat 0xFFFD else Char.ofNat n

def simpleEscape? (c : Char) : Option Char :=
  if c == '"' || c == '\\' || c == '/' then some c
  else if c == 'b' then some (Char.ofNat 8)
  else if c == 'f' then some (Char.ofNat 12)
  else if c == 'n' then some '\n'
  else if c == 'r' then some '\r'
  else if c == 't' then some '\t'
  else none

/-- The characters of a string up to its closing quote, last one first. `start` is the position of
the opening quote. -/
def stringBody (start : Nat) : Nat → Text → Cursor → Except Fault (Text × Cursor)
  | 0, _, _ => fail .unterminated start
  | fuel + 1, acc, ⟨rest, p⟩ =>
    match rest with
    | [] => fail .unterminated start
    | '"' :: r => .ok (acc, ⟨r, p + 1⟩)
    | ['\\'] => fail .unterminated start
    | '\\' :: 'u' :: r =>
      if r.length ≤ 4 then fail .unicodeEscape (p + 1)
      else
        match hex4? r with
        | none => fail .unicodeEscape (p + 1)
        | some (n, r₁) =>
          match isHighSurrogate n && r₁.length > 6, r₁ with
          | true, '\\' :: 'u' :: r₂ =>
            match hex4? r₂ with
            | none => fail .unicodeEscape (p + 7)
            | some (m, r₃) =>
              if isLowSurrogate m then
                let full := 0x10000 + (n - 0xD800) * 0x400 + (m - 0xDC00)
                stringBody start fuel (Char.ofNat full :: acc) ⟨r₃, p + 12⟩
              else stringBody start fuel (charOf n :: acc) ⟨r₁, p + 6⟩
          | _, _ => stringBody start fuel (charOf n :: acc) ⟨r₁, p + 6⟩
    | '\\' :: c :: r =>
      match simpleEscape? c with
      | some d => stringBody start fuel (d :: acc) ⟨r, p + 2⟩
      | none => fail .escape p
    | c :: r =>
      if c.toNat < 32 then fail .control p else stringBody start fuel (c :: acc) ⟨r, p + 1⟩

/-- A string, from after its opening quote. -/
def string (c : Cursor) : Except Fault (String × Cursor) := do
  let (body, c) ← stringBody (c.position - 1) (c.rest.length + 1) [] c
  .ok (String.ofList body.reverse, c)

def natOfDigits (ds : Text) : Nat := ds.foldl (fun n d => n * 10 + (d.toNat - 48)) 0

/-- The digits of an exponent with its sign, when there are any. -/
def exponent? : Text → Option (Int × Nat)
  | e :: rest =>
    if e == 'e' || e == 'E' then
      let (negative, skipped, rest) : Bool × Nat × Text :=
        match rest with
        | '-' :: r => (true, 2, r)
        | '+' :: r => (false, 2, r)
        | r => (false, 1, r)
      let ds := rest.takeWhile Char.isDigit
      if ds.isEmpty then none
      else
        let n : Int := natOfDigits ds
        some (if negative then -n else n, skipped + ds.length)
    else none
  | [] => none

/-- Is there a minus sign in front, and what follows it. -/
def signOf : Text → Bool × Text
  | '-' :: r => (true, r)
  | r => (false, r)

/-- The digits before the point: a zero alone, or all that there are. -/
def wholeDigits : Text → Text
  | '0' :: _ => ['0']
  | r => r.takeWhile Char.isDigit

/-- The digits after the point, when there is one. -/
def fractionDigits : Text → Text
  | '.' :: r => r.takeWhile Char.isDigit
  | _ => []

/-- A number; `none` when none starts here. -/
def number (c : Cursor) : Except Fault (Json × Cursor) :=
  let (negative, body) := signOf c.rest
  let whole := wholeDigits body
  if whole.isEmpty then fail .value c.position
  else
    let afterWhole := body.drop whole.length
    let fraction := fractionDigits afterWhole
    let fractionSize := if fraction.isEmpty then 0 else fraction.length + 1
    let (power, powerSize) := (exponent? (afterWhole.drop fractionSize)).getD (0, 0)
    let size := (if negative then 1 else 0) + whole.length + fractionSize + powerSize
    let next := c.advance size
    if fractionSize == 0 && powerSize == 0 then
      if whole.length > maxDigits then fail (.longNumber whole.length) c.position
      else
        let n : Int := natOfDigits whole
        .ok (.int (if negative then -n else n), next)
    else
      let digits := natOfDigits (whole ++ fraction)
      .ok (.float (Binary64.ofDecimal negative digits (power - (fraction.length : Int))), next)

/-- The words that stand for a value. -/
def words : List (Text × Json) :=
  [("null".toList, .null), ("true".toList, .bool true), ("false".toList, .bool false),
   ("NaN".toList, .float .notANumber), ("Infinity".toList, .float (.infinite false)),
   ("-Infinity".toList, .float (.infinite true))]

def word? (c : Cursor) : Option (Json × Cursor) :=
  words.findSome? fun (w, v) => if startsWith w c.rest then some (v, c.advance w.length) else none

mutual

/-- A value, from its first character. -/
def value : Nat → Nat → Cursor → Except Fault (Json × Cursor)
  | 0, _, c => fail .value c.position
  | fuel + 1, depth, c =>
    match c.rest with
    | '"' :: _ => do
      let (s, c) ← string (c.advance 1)
      .ok (.str s, c)
    | '[' :: _ =>
      if depth ≥ maxDepth then fail .deepArray c.position
      else
        let c := (c.advance 1).skipBlank
        match c.rest with
        | ']' :: _ => .ok (.arr [], c.advance 1)
        | _ => do
          let (items, c) ← items fuel (depth + 1) [] c
          .ok (.arr items, c)
    | '{' :: _ =>
      if depth ≥ maxDepth then fail .deepObject c.position
      else
        let c := (c.advance 1).skipBlank
        match c.rest with
        | '}' :: _ => .ok (.obj [], c.advance 1)
        | _ => do
          let (fields, c) ← fields fuel (depth + 1) [] c
          .ok (.obj fields, c)
    | _ =>
      match word? c with
      | some r => .ok r
      | none => number c

/-- The items of an array up to its closing bracket. -/
def items : Nat → Nat → List Json → Cursor → Except Fault (List Json × Cursor)
  | 0, _, _, c => fail .value c.position
  | fuel + 1, depth, acc, c => do
    let (v, c) ← value fuel depth c
    let c := c.skipBlank
    match c.rest with
    | ']' :: _ => .ok ((v :: acc).reverse, c.advance 1)
    | ',' :: _ => items fuel depth (v :: acc) (c.advance 1).skipBlank
    | _ => fail .comma c.position

/-- The fields of an object up to its closing brace. -/
def fields : Nat → Nat → List (String × Json) → Cursor → Except Fault (List (String × Json) × Cursor)
  | 0, _, _, c => fail .name c.position
  | fuel + 1, depth, acc, c =>
    match c.rest with
    | '"' :: _ => do
      let (key, c) ← string (c.advance 1)
      let c := c.skipBlank
      match c.rest with
      | ':' :: _ =>
        let (v, c) ← value fuel depth (c.advance 1).skipBlank
        let c := c.skipBlank
        let acc := put key v acc
        match c.rest with
        | '}' :: _ => .ok (acc, c.advance 1)
        | ',' :: _ => fields fuel depth acc (c.advance 1).skipBlank
        | _ => fail .comma c.position
      | _ => fail .colon c.position
    | _ => fail .name c.position

end

/-- The one value that `t` consists of, blanks around it apart. -/
def read (t : Text) : Except Fault Json :=
  match t with
  | c :: _ =>
    if c.toNat == 0xFEFF then .error ⟨.byteOrderMark, 0⟩ else readValue t
  | [] => readValue t
where
  readValue (t : Text) : Except Fault Json := do
    -- Two steps for each character: an array takes one for its bracket and one for its items.
    let (v, c) ← value (2 * t.length + 1) 0 (Cursor.mk t 0).skipBlank
    let c := c.skipBlank
    if c.rest.isEmpty then .ok v else .error ⟨.extra, c.position⟩

def Problem.text : Problem → String
  | value => "Expecting value"
  | comma => "Expecting ',' delimiter"
  | colon => "Expecting ':' delimiter"
  | name => "Expecting property name enclosed in double quotes"
  | unterminated => "Unterminated string starting at"
  | control => "Invalid control character at"
  | escape => "Invalid \\escape"
  | unicodeEscape => "Invalid \\uXXXX escape"
  | extra => "Extra data"
  | byteOrderMark => "Unexpected UTF-8 BOM (decode using utf-8-sig)"
  | longNumber digits =>
    "Exceeds the limit (4300 digits) for integer string conversion: value has " ++
      toString digits ++ " digits; use sys.set_int_max_str_digits() to increase the limit"
  | deepArray =>
    "maximum recursion depth exceeded while decoding a JSON array from a unicode string"
  | deepObject =>
    "maximum recursion depth exceeded while decoding a JSON object from a unicode string"
  | longValue =>
    "Exceeds the limit (4300 digits) for integer string conversion; use " ++
      "sys.set_int_max_str_digits() to increase the limit"
  | deepValue => "maximum recursion depth exceeded while calling a Python object"

/-- Is the failure one of nesting, which no caller forgives? -/
def Problem.isDepth : Problem → Bool
  | deepArray | deepObject | deepValue => true
  | _ => false

/-- The message of a failure in the text `t`: what, and at which line, column and character. -/
def Fault.message (t : Text) (f : Fault) : String :=
  match f.problem with
  | .longNumber _ | .deepArray | .deepObject | .longValue | .deepValue => f.problem.text
  | p =>
    let before := t.take f.position
    let line := before.count '\n' + 1
    let column := (before.reverse.takeWhile (· != '\n')).length + 1
    p.text ++ ": line " ++ toString line ++ " column " ++ toString column ++ " (char " ++
      toString f.position ++ ")"

end Excerpt.Json
