import Excerpt.Python.Literal

/-!
Cutting Python text into tokens. Lines count by line feeds, carriage returns having been turned into
them; indentation becomes tokens of its own outside brackets.
-/
namespace Excerpt.Python

inductive Token where
  | word (text : String)
  | number (imaginary : Bool)
  /-- A string with the tokens of its replacement fields, each in parentheses. -/
  | string (bytes : Bool) (fields : List (List Token))
  | op (text : String)
  | newline
  | indent
  | dedent
  | stop

/-- Line endings as line feeds, and one at the end. -/
def withLineFeeds : Text → Text
  | [] => ['\n']
  | ['\n'] => ['\n']
  | ['\r'] => ['\n']
  | ['\r', '\n'] => ['\n']
  | '\r' :: '\n' :: r => '\n' :: withLineFeeds r
  | '\r' :: r => '\n' :: withLineFeeds r
  | c :: r => c :: withLineFeeds r

/-- How far a line is indented: with tabs to multiples of eight, and with tabs as single columns.
Both must agree on what is deeper. -/
structure Indent where
  column : Nat
  narrow : Nat
deriving DecidableEq, Repr

/-- The indentation in front of a line and the text after it. A backslash joins the next line, and
the first one fixes the column. -/
def measureIndent (here : Indent) (fixed : Nat) : Text → Option (Indent × Text)
  | ' ' :: r => measureIndent ⟨here.column + 1, here.narrow + 1⟩ fixed r
  | '\t' :: r => measureIndent ⟨(here.column / 8 + 1) * 8, here.narrow + 1⟩ fixed r
  | '\\' :: '\n' :: r =>
    if r.isEmpty then none else measureIndent here (if fixed == 0 then here.column else fixed) r
  | '\\' :: _ => none
  | c :: r =>
    if c.toNat == 12 then measureIndent ⟨0, 0⟩ fixed r
    else some (if fixed == 0 then here else ⟨fixed, fixed⟩, c :: r)
  | [] => some (if fixed == 0 then here else ⟨fixed, fixed⟩, [])

/-- How deep blocks may nest, counting the outermost level. -/
def maxIndents : Nat := 100

/-- The tokens for a line's indentation, and the indentations now open, innermost first. -/
def reindent (now : Indent) : List Indent → Option (List Token × List Indent)
  | [] =>
    if now.column == 0 then if now.narrow == 0 then some ([], []) else none
    else if now.narrow == 0 then none
    else some ([.indent], [now])
  | top :: outer =>
    if now.column == top.column then if now.narrow == top.narrow then some ([], top :: outer) else none
    else if now.column > top.column then
      if outer.length + 2 ≥ maxIndents || now.narrow ≤ top.narrow then none
      else some ([.indent], now :: top :: outer)
    else (dedent outer).map fun p => (.dedent :: p.1, p.2)
where
  dedent : List Indent → Option (List Token × List Indent)
    | [] =>
      if now.column == 0 && now.narrow == 0 then some ([], []) else none
    | top :: outer =>
      if now.column < top.column then (dedent outer).map fun p => (.dedent :: p.1, p.2)
      else if now == top then some ([], top :: outer)
      else none

def operators : List Text :=
  ["**=", "//=", "<<=", ">>=", "...", "!=", "%=", "&=", "**", "*=", "+=", "-=", "->", "//", "/=",
   ":=", "<<", "<=", "==", ">=", ">>", "@=", "^=", "|=", "%", "&", "(", ")", "*", "+", ",", "-", ".",
   "/", ":", ";", "<", "=", ">", "@", "[", "]", "^", "\x7b", "|", "\x7d", "~"].map String.toList

/-- The longest operator in front. The spelling of inequality by two angles is not one. -/
def operator? (t : Text) : Option (Text × Text) :=
  if startsWith ['<', '>'] t then none
  else operators.findSome? fun op => (after? op t).map fun rest => (op, rest)

/-- The marks in front of a string, when the letters in front of a quote are such. -/
def stringForm? (marks : Text) : Option StringForm :=
  match marks.map Char.toLower with
  | [] => some ⟨false, false, false⟩
  | ['b'] => some ⟨true, false, false⟩
  | ['u'] => some ⟨false, false, false⟩
  | ['r'] => some ⟨false, true, false⟩
  | ['f'] => some ⟨false, false, true⟩
  | ['b', 'r'] | ['r', 'b'] => some ⟨true, true, false⟩
  | ['f', 'r'] | ['r', 'f'] => some ⟨false, true, true⟩
  | _ => none

def isQuote (c : Char) : Bool := c == '\'' || c == '"'

/-- A string in front, with its form and body, and what follows it. -/
def string? (t : Text) : Option (Option (StringForm × Text × Text)) :=
  let marks := (t.takeWhile fun c => c.isAlpha).take 3
  match t.drop marks.length with
  | q :: r =>
    if isQuote q then
      match stringForm? marks with
      | some form => some ((quotedBody (q :: r)).map fun p => (form, p.2.2.1, p.2.2.2))
      | none => none
    else none
  | [] => none

def isName (word : Text) : Bool :=
  word.all (·.toNat < 128) ||
    match word with
    | c :: r => isIdentifierStart c && r.all isIdentifierContinue
    | [] => false

/-- What a scan remembers between tokens. -/
structure Scan where
  indents : List Indent := []
  brackets : List Char := []
  /-- At the beginning of a line. -/
  fresh : Bool := true

def skipComment (t : Text) : Text := t.dropWhile (· != '\n')

def isGap (c : Char) : Bool := c == ' ' || c == '\t' || c.toNat == 12

def openBracket (s : Scan) (c : Char) : Option Scan :=
  if s.brackets.length ≥ maxBrackets then none else some { s with brackets := c :: s.brackets }

def closeBracket (s : Scan) (c : Char) : Option Scan :=
  match s.brackets with
  | b :: outer => if closes b c then some { s with brackets := outer } else none
  | [] => none

/-- The scan's brackets after an operator. -/
def track (s : Scan) (op : Text) : Option Scan :=
  match op with
  | [c] =>
    if c == '(' || c == '[' || c == '{' then openBracket s c
    else if c == ')' || c == ']' || c == '}' then closeBracket s c
    else some s
  | _ => some s

/-- The tokens of a text whose lines end in line feeds. -/
def scan (known : Text → Bool) : Nat → Scan → Text → Option (List Token)
  | 0, _, _ => none
  | fuel + 1, s, t =>
    if s.fresh then
      match measureIndent ⟨0, 0⟩ 0 t with
      | none => none
      | some (_, '\n' :: r) => scan known fuel s r
      | some (_, '#' :: r) => scan known fuel s ((skipComment r).drop 1)
      | some (now, r) =>
        let s := { s with fresh := false }
        if s.brackets.isEmpty then
          match reindent now s.indents with
          | none => none
          | some (front, indents) =>
            (scan known fuel { s with indents } r).map (front ++ ·)
        else scan known fuel s r
    else
      match t.dropWhile isGap with
      | [] => if s.brackets.isEmpty then some [.stop] else none
      | '#' :: r => scan known fuel s (skipComment r)
      | '\n' :: r =>
        let s := { s with fresh := true }
        if s.brackets.isEmpty then (scan known fuel s r).map (.newline :: ·)
        else scan known fuel s r
      | '\\' :: '\n' :: r => if r.isEmpty then none else scan known fuel s r
      | c :: r =>
        match string? (c :: r) with
        | some none => none
        | some (some (form, body, rest)) => do
          let texts ← checkString known form body
          let fields ← texts.mapM fun e =>
            scan known fuel { fresh := false } ('(' :: e ++ [')'])
          let more ← scan known fuel s rest
          some (.string form.bytes fields :: more)
        | none =>
          if c.isDigit || (c == '.' && r.head?.any Char.isDigit) then do
            let (imaginary, rest) ← if c == '.' then fraction r else number (c :: r)
            let more ← scan known fuel s rest
            some (.number imaginary :: more)
          else if isNameChar c then do
            let word := c :: r.takeWhile isNameChar
            if !isName word then none
            let more ← scan known fuel s (r.drop (word.length - 1))
            some (.word (String.ofList word) :: more)
          else do
            let (op, rest) ← operator? (c :: r)
            let s ← track s op
            let more ← scan known fuel s rest
            some (.op (String.ofList op) :: more)

/-- The tokens of a program. -/
def tokens (known : Text → Bool) (t : Text) : Option (List Token) :=
  let t := withLineFeeds t
  scan known (3 * t.length + 3) {} t

end Excerpt.Python
