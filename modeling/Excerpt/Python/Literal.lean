import Excerpt.Text.IdentifierChars
import Excerpt.Text.Blank
import Excerpt.Json.Reader

/-!
The literals of Python: numbers, and strings with their escapes. A formatted string is checked down
to the texts of its replacement fields; those are expressions and left to the grammar.
-/
namespace Excerpt.Python

def isNameChar (c : Char) : Bool := c.isAlphanum || c == '_' || c.toNat ≥ 128

/-- Words that may follow a number without a space. -/
def wordsAfterNumber : List Text :=
  ["and", "else", "for", "if", "in", "is", "or", "not"].map String.toList

/-- May a number end here? -/
def endsNumber (rest : Text) : Bool :=
  wordsAfterNumber.any (startsWith · rest) ||
    match rest with
    | c :: _ => !isNameChar c
    | [] => true

/-- Digits with single underscores between them: those digits and what follows. The first character
is a digit. -/
def digitsTail (p : Char → Bool) : Nat → Text → Option (Nat × Text)
  | count, c :: r =>
    if p c then digitsTail p (count + 1) r
    else if c == '_' then
      match r with
      | d :: s => if p d then digitsTail p (count + 1) s else none
      | [] => none
    else some (count, c :: r)
  | count, [] => some (count, [])

/-- The end of a number after its digits; `imaginary` says whether it had the mark. -/
def finishNumber (rest : Text) : Option (Bool × Text) :=
  match rest with
  | c :: r =>
    if c == 'j' || c == 'J' then if endsNumber r then some (true, r) else none
    else if endsNumber rest then some (false, rest)
    else none
  | [] => some (false, [])

/-- The exponent that may follow, then the end. The letter `e` alone belongs to a word. -/
def exponentAndEnd (rest : Text) : Option (Bool × Text) :=
  match rest with
  | e :: r =>
    if e == 'e' || e == 'E' then
      match r with
      | s :: d :: t =>
        if s == '+' || s == '-' then
          if d.isDigit then (digitsTail Char.isDigit 1 t).bind fun (_, u) => finishNumber u else none
        else if s.isDigit then
          (digitsTail Char.isDigit 1 (d :: t)).bind fun (_, u) => finishNumber u
        else if endsNumber rest then some (false, rest) else none
      | [s] =>
        if s.isDigit then finishNumber []
        else if endsNumber rest && s != '+' && s != '-' then some (false, rest) else none
      | [] => if endsNumber rest then some (false, rest) else none
    else finishNumber rest
  | [] => finishNumber []

/-- From after the point of a number. -/
def fraction (rest : Text) : Option (Bool × Text) :=
  match rest with
  | d :: r =>
    if d.isDigit then (digitsTail Char.isDigit 1 r).bind fun (_, u) => exponentAndEnd u
    else exponentAndEnd rest
  | [] => exponentAndEnd []

def isOctal (c : Char) : Bool := '0' ≤ c && c ≤ '7'

def isBinary (c : Char) : Bool := c == '0' || c == '1'

def isHex (c : Char) : Bool := (Json.hexValue? c).isSome

/-- A number in another base, from after its two-character mark. -/
def based (p : Char → Bool) (rest : Text) : Option (Bool × Text) :=
  let rest :=
    match rest with
    | '_' :: r => r
    | r => r
  match rest with
  | d :: r =>
    if p d then
      (digitsTail p 1 r).bind fun (_, u) =>
        match u with
        | c :: _ => if c.isDigit || !endsNumber u then none else some (false, u)
        | [] => some (false, [])
    else none
  | [] => none

/-- How many digits a whole decimal number may have. -/
def maxDigits : Nat := 4300

/-- What follows the digits of a decimal number. `whole` says whether it may end there. -/
def afterDigits (whole : Bool) (rest : Text) : Option (Bool × Text) :=
  match rest with
  | '.' :: r => fraction r
  | c :: _ =>
    if c == 'e' || c == 'E' then
      match exponentAndEnd rest with
      | some (imaginary, after) =>
        if after.length == rest.length && !whole then none else some (imaginary, after)
      | none => none
    else if c == 'j' || c == 'J' then finishNumber rest
    else if whole then finishNumber rest
    else none
  | [] => if whole then some (false, []) else none

/-- The zeros in front of a number, with underscores, and what follows them. -/
def zerosTail : Text → Option Text
  | '0' :: r => zerosTail r
  | '_' :: d :: r => if d.isDigit then if d == '0' then zerosTail r else some (d :: r) else none
  | ['_'] => none
  | r => some r

/-- A number, from its first digit: whether it is imaginary, and what follows it. -/
def number : Text → Option (Bool × Text)
  | '0' :: x :: r =>
    if x == 'x' || x == 'X' then based isHex r
    else if x == 'o' || x == 'O' then based isOctal r
    else if x == 'b' || x == 'B' then based isBinary r
    else
      match zerosTail (x :: r) with
      | none => none
      | some (d :: s) =>
        if d.isDigit then (digitsTail Char.isDigit 1 s).bind fun (_, u) => afterDigits false u
        else afterDigits true (d :: s)
      | some [] => some (false, [])
  | d :: r =>
    if d.isDigit then
      (digitsTail Char.isDigit 1 r).bind fun (count, u) =>
        match afterDigits true u with
        | none => none
        | some (imaginary, after) =>
          if count > maxDigits && after.length == u.length then none else some (imaginary, after)
    else none
  | [] => none

/-- What a string's marks in front say. -/
structure StringForm where
  bytes : Bool
  raw : Bool
  formatted : Bool
deriving DecidableEq, Repr

/-- The body of a string in one line or between triple quotes, from after its opening quotes. -/
def stringBody (quote : Char) (triple : Bool) : Text → Option (Text × Text)
  | [] => none
  | '\\' :: c :: r => (stringBody quote triple r).map fun p => ('\\' :: c :: p.1, p.2)
  | ['\\'] => none
  | c :: r =>
    if c == quote then
      if triple then
        match r with
        | d :: e :: s =>
          if d == quote && e == quote then some ([], s)
          else (stringBody quote triple r).map fun p => (c :: p.1, p.2)
        | _ => none
      else some ([], r)
    else if c == '\n' && !triple then none
    else (stringBody quote triple r).map fun p => (c :: p.1, p.2)

/-- A string's body, from its first quote. -/
def quotedBody : Text → Option (Char × Bool × Text × Text)
  | a :: b :: c :: r =>
    if a == b && b == c then (stringBody a true r).map fun p => (a, true, p.1, p.2)
    else (stringBody a false (b :: c :: r)).map fun p => (a, false, p.1, p.2)
  | a :: r => (stringBody a false r).map fun p => (a, false, p.1, p.2)
  | [] => none

/-- Are there `n` hexadecimal digits in front? -/
def hexDigits? : Nat → Text → Option (Nat × Text)
  | 0, r => some (0, r)
  | n + 1, c :: r => do
    let v ← Json.hexValue? c
    let (rest, t) ← hexDigits? n r
    some (v * 16 ^ n + rest, t)
  | _ + 1, [] => none

/-- The name between the braces of a named character, and what follows. -/
def namedChar? : Text → Option (Text × Text)
  | '{' :: r =>
    match r.span (· != '}') with
    | (name, '}' :: rest) => if name.isEmpty then none else some (name, rest)
    | _ => none
  | _ => none

/-- Are all escapes of a text string sound? `known` tells which character names there are. -/
def escapesFit (known : Text → Bool) : Nat → Text → Bool
  | 0, _ => true
  | fuel + 1, t =>
    match t with
    | '\\' :: 'x' :: r => (hexDigits? 2 r).any fun p => escapesFit known fuel p.2
    | '\\' :: 'u' :: r => (hexDigits? 4 r).any fun p => escapesFit known fuel p.2
    | '\\' :: 'U' :: r =>
      (hexDigits? 8 r).any fun p => p.1 ≤ 0x10FFFF && escapesFit known fuel p.2
    | '\\' :: 'N' :: r =>
      (namedChar? r).any fun p => known p.1 && escapesFit known fuel p.2
    | '\\' :: _ :: r => escapesFit known fuel r
    | _ :: r => escapesFit known fuel r
    | [] => true

/-- Are all escapes of a byte string sound? -/
def byteEscapesFit : Nat → Text → Bool
  | 0, _ => true
  | fuel + 1, t =>
    match t with
    | '\\' :: 'x' :: r => (hexDigits? 2 r).any fun p => byteEscapesFit fuel p.2
    | '\\' :: _ :: r => byteEscapesFit fuel r
    | _ :: r => byteEscapesFit fuel r
    | [] => true

/-- The quote a scan through a replacement field is inside of. -/
structure Inside where
  quote : Char
  triple : Bool
deriving DecidableEq, Repr

def closes (opening closing : Char) : Bool :=
  (opening == '(' && closing == ')') || (opening == '[' && closing == ']') ||
    (opening == '{' && closing == '}')

/-- How many brackets may nest. -/
def maxBrackets : Nat := 200

/-- The expression at the start of a replacement field, up to the character that ends it. It may
hold no backslash and no comment mark. -/
def fieldExpression (inside : Option Inside) (brackets : List Char) : Text → Option (Text × Text)
  | [] => none
  | c :: r =>
    let keep (inside : Option Inside) (brackets : List Char) :=
      (fieldExpression inside brackets r).map fun p => (c :: p.1, p.2)
    if c == '\\' then none
    else
      match inside with
      | some q =>
        if c == q.quote then
          if q.triple then
            match r with
            | d :: e :: s =>
              if d == c && e == c then
                (fieldExpression none brackets s).map fun p => (c :: d :: e :: p.1, p.2)
              else keep inside brackets
            | _ => keep inside brackets
          else keep none brackets
        else keep inside brackets
      | none =>
        if c == '\'' || c == '"' then
          match r with
          | d :: e :: s =>
            if d == c && e == c then
              (fieldExpression (some ⟨c, true⟩) brackets s).map fun p => (c :: d :: e :: p.1, p.2)
            else keep (some ⟨c, false⟩) brackets
          | _ => keep (some ⟨c, false⟩) brackets
        else if c == '(' || c == '[' || c == '{' then
          if brackets.length ≥ maxBrackets then none else keep none (c :: brackets)
        else if c == '#' then none
        else
          match brackets with
          | b :: outer =>
            if c == ')' || c == ']' || c == '}' then
              if closes b c then keep none outer else none
            else keep none brackets
          | [] =>
            if c == ')' || c == ']' then none
            else if c == '!' || c == ':' || c == '}' || c == '=' || c == '<' || c == '>' then
              match r with
              | '=' :: s =>
                if c == '!' || c == '=' || c == '<' || c == '>' then
                  (fieldExpression none [] s).map fun p => (c :: '=' :: p.1, p.2)
                else some ([], c :: r)
              | _ => if c == '<' || c == '>' then keep none [] else some ([], c :: r)
            else keep none []

def isFieldBlank (c : Char) : Bool := c == ' ' || c == '\t' || c == '\n' || c.toNat == 12

/-- White space that may follow the equals sign of a field that shows its own text. -/
def isSpaceAfterEquals (c : Char) : Bool := isFieldBlank c || c.toNat == 11 || c == '\r'

/-- Literal text up to a brace, with the braces that are doubled left out of account, and what
follows: the rest from the brace on. In a format specification (`depth` above zero) doubling means
nothing. -/
def literalPart (raw : Bool) (depth : Nat) : Nat → Text → Option (Text × Text)
  | 0, _ => none
  | fuel + 1, t =>
    match t with
    | [] => some ([], [])
    | c :: r =>
      let keep (front rest : Text) :=
        (literalPart raw depth fuel rest).map fun p => (front ++ p.1, p.2)
      if c == '\\' && !raw then
        match r with
        | 'N' :: '{' :: s =>
          let name := s.takeWhile (· != '}')
          let rest := s.drop name.length
          keep ('\\' :: 'N' :: '{' :: name ++ rest.take 1) (rest.drop 1)
        | d :: s => if d == '{' || d == '}' then keep [c] r else keep [c, d] s
        | [] => keep [c] []
      else if c == '{' || c == '}' then
        match r with
        | d :: s =>
          if depth == 0 && d == c then keep [] s
          else if depth == 0 && c == '}' then none
          else some ([], t)
        | [] => if depth == 0 && c == '}' then none else some ([], t)
      else keep [c] r

/-- Does literal text of a formatted string have sound escapes? A backslash at its end stands for
itself. -/
def literalFits (known : Text → Bool) (raw : Bool) (t : Text) : Bool :=
  raw || escapesFit known (t.length + 1) t

mutual

/-- The expressions of a formatted string's fields, in order; `none` when it is malformed. At depth
zero all text is used up, deeper the text goes on from the closing brace. -/
def fields (known : Text → Bool) (raw : Bool) (depth : Nat) : Nat → Text → Option (List Text × Text)
  | 0, _ => none
  | fuel + 1, t => do
    let (literal, rest) ← literalPart raw depth (t.length + 1) t
    if !literalFits known raw literal then none
    match rest with
    | '{' :: r =>
      let (inner, r) ← field known raw depth fuel r
      let (more, r) ← fields known raw depth fuel r
      some (inner ++ more, r)
    | r => some ([], r)

/-- One field, from after its opening brace. -/
def field (known : Text → Bool) (raw : Bool) (depth : Nat) : Nat → Text → Option (List Text × Text)
  | 0, _ => none
  | fuel + 1, t => do
    if depth ≥ 2 then none
    let (expression, r) ← fieldExpression none [] t
    if expression.all isFieldBlank then none
    let r :=
      match r with
      | '=' :: s => s.dropWhile isSpaceAfterEquals
      | s => s
    let r ←
      match r with
      | '!' :: c :: s => if c == 's' || c == 'r' || c == 'a' then some s else none
      | ['!'] => none
      | s => some s
    match r with
    | ':' :: s =>
      let (inner, s) ← fields known raw (depth + 1) fuel s
      match s with
      | '}' :: s => some (expression :: inner, s)
      | _ => none
    | '}' :: s => some ([expression], s)
    | _ => none

end

/-- The texts of all replacement fields of a formatted string. -/
def formattedFields (known : Text → Bool) (raw : Bool) (body : Text) : Option (List Text) :=
  match fields known raw 0 (2 * body.length + 2) body with
  | some (inner, []) => some inner
  | _ => none

/-- Checks a string's body. The result holds the texts of its replacement fields. -/
def checkString (known : Text → Bool) (form : StringForm) (body : Text) : Option (List Text) :=
  if form.bytes then
    if body.any (·.toNat ≥ 128) then none
    else if form.raw || byteEscapesFit (body.length + 1) body then some []
    else none
  else if form.formatted then formattedFields known form.raw body
  else if form.raw || escapesFit known (body.length + 1) body then some []
  else none

end Excerpt.Python
