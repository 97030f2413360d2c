import Excerpt.Text.Blank
import Excerpt.Text.WordChars

/-!
The tokens of Ruby that need no grammar: words, numbers, variables, symbols, operator names, and the
heads of quoted literals and here-documents. Each reader takes the text from the token on and gives
what comes after it.
-/
namespace Excerpt.Ruby

/-- A character that may stand in a name; everything past ASCII may. -/
def isNamePart (c : Char) : Bool :=
  c.toNat > 32 && !":;`\"'@$#.,|^&<=>+-*/\\%?!~()[]\x7b\x7d".toList.contains c

def isSpace (c : Char) : Bool := (9 ≤ c.toNat && c.toNat ≤ 13) || c == ' '

def isHex (c : Char) : Bool :=
  c.isDigit || ('a' ≤ c && c ≤ 'f') || ('A' ≤ c && c ≤ 'F')

def isOctal (c : Char) : Bool := '0' ≤ c && c ≤ '7'

/-- A name with its closing mark, if it has one. A question mark always belongs to the name, an
exclamation mark unless an equals sign follows. -/
def word? (t : Text) : Option (String × Text) :=
  match t.takeWhile isNamePart with
  | [] => none
  | c :: w =>
    if c.isDigit then none
    else
      match t.drop (w.length + 1) with
      | '?' :: r => some (String.ofList (c :: w ++ ['?']), r)
      | '!' :: '=' :: r => some (String.ofList (c :: w), '!' :: '=' :: r)
      | '!' :: r => some (String.ofList (c :: w ++ ['!']), r)
      | r => some (String.ofList (c :: w), r)

/-- The rest after a given word. -/
def keyword? (w : String) (t : Text) : Option Text :=
  match word? t with
  | some (v, r) => if v == w then some r else none
  | none => none

def isConstant (w : String) : Bool :=
  match w.toList with
  | c :: _ => c.isUpper
  | [] => false

/-- Ends the name in a mark of its own? -/
def isMarked (w : String) : Bool :=
  match w.toList.getLast? with
  | some c => c == '?' || c == '!'
  | none => false

/-- The rest after a colon that is not one of two. -/
def colon? : Text → Option Text
  | ':' :: ':' :: _ => none
  | ':' :: r => some r
  | _ => none

/-- The rest after a name and the colon right behind it. -/
def key? (t : Text) : Option Text := (word? t).bind fun p => colon? p.2

/-- A run of digits, single underscores between them. -/
def digitRun (isDigit : Char → Bool) : Text → Text
  | '_' :: c :: r => if isDigit c then digitRun isDigit r else '_' :: c :: r
  | c :: r => if isDigit c then digitRun isDigit r else c :: r
  | [] => []

def digitRun? (isDigit : Char → Bool) : Text → Option Text
  | c :: r => if isDigit c then some (digitRun isDigit r) else none
  | [] => none

/-- What follows a fraction and an exponent, as far as they are there. -/
def afterFraction (t : Text) : Text :=
  let t :=
    match t with
    | '.' :: c :: r => if c.isDigit then digitRun Char.isDigit r else t
    | _ => t
  match t with
  | e :: r =>
    if e == 'e' || e == 'E' then
      let unsigned :=
        match r with
        | s :: u => if s == '+' || s == '-' then u else r
        | [] => r
      (digitRun? Char.isDigit unsigned).getD t
    else t
  | [] => []

/-- What follows the letters that make a number rational or imaginary. -/
def afterKind : Text → Text
  | 'r' :: 'i' :: r => r
  | 'r' :: r => r
  | 'i' :: r => r
  | t => t

/-- Letters that go on as a word belong to no number. -/
def number? (t : Text) : Option Text := do
  let r ←
    match t with
    | '0' :: x :: r =>
      let radix :=
        if x == 'x' || x == 'X' then digitRun? isHex r
        else if x == 'b' || x == 'B' then digitRun? (fun c => c == '0' || c == '1') r
        else if x == 'o' || x == 'O' then digitRun? isOctal r
        else if x == 'd' || x == 'D' then digitRun? Char.isDigit r
        else none
      match radix with
      | some r => some r
      | none => (digitRun? Char.isDigit t).map afterFraction
    | t => (digitRun? Char.isDigit t).map afterFraction
  some (afterKind r)

/-- The rest after an instance, class or global variable. -/
def sigilName? (t : Text) : Option Text :=
  let named (r : Text) : Option Text :=
    match r with
    | c :: u => if isNamePart c && !c.isDigit then some (u.dropWhile isNamePart) else none
    | [] => none
  let isWord (c : Char) : Bool := c.isAlphanum || c == '_'
  match t with
  | '@' :: '@' :: r => named r
  | '@' :: r => named r
  | '$' :: '-' :: c :: r => if isWord c then some r else none
  | '$' :: c :: r =>
    if c.isDigit then some (r.dropWhile Char.isDigit)
    else if isWord c then some (r.dropWhile isWord)
    else if "!@&`'+~=/\\,;.<>*$?:\"".toList.contains c then some r
    else none
  | _ => none

/-- The operators that are names of methods, longer ones first. -/
def operatorNames : List String :=
  ["[]=", "<=>", "===", "[]", "==", "=~", "!~", "!=", "**", "+@", "-@", "~@", "!@", "<<", ">>", "<=",
   ">=", "..", "+", "-", "*", "/", "%", "!", "~", "<", ">", "|", "^", "&", "`"]

def operator? (t : Text) : Option Text := operatorNames.findSome? fun o => after? o.toList t

/-- The rest after a symbol's name, from after its colon. -/
def symbolName? (t : Text) : Option Text := do
  let start :=
    match t with
    | '@' :: '@' :: r => r
    | '@' :: r => r
    | '$' :: r => r
    | r => r
  let r ←
    match start with
    | c :: r => if isNamePart c then some (r.dropWhile isNamePart) else operator? start
    | [] => none
  let r :=
    match r with
    | '?' :: u => u
    | '!' :: u => u
    | u => u
  match r with
  | '=' :: '~' :: _ => some r
  | '=' :: '>' :: _ => some r
  | '=' :: '=' :: _ => some r
  | '=' :: u => if (word? start).isSome then some u else some r
  | u => some u

/-- A name that a method may have. -/
def methodName? (t : Text) : Option Text :=
  match word? t with
  | some (_, '=' :: '=' :: r) => some ('=' :: '=' :: r)
  | some (_, '=' :: '~' :: r) => some ('=' :: '~' :: r)
  | some (_, '=' :: '>' :: r) => some ('=' :: '>' :: r)
  | some (_, '=' :: r) => some r
  | some (_, r) => some r
  | none =>
    match t with
    | ':' :: r => symbolName? r
    | t =>
      match sigilName? t with
      | some r => some r
      | none => operator? t

/-- What follows an escape, from after its backslash. -/
def escape? : Text → Option Text
  | 'x' :: c :: r => if isHex c then some r else none
  | 'x' :: [] => none
  | 'u' :: '{' :: r =>
    match r.dropWhile fun c => isHex c || c == ' ' with
    | '}' :: s => some s
    | _ => none
  | 'u' :: a :: b :: c :: d :: r => if isHex a && isHex b && isHex c && isHex d then some r else none
  | 'u' :: _ => none
  | _ :: r => some r
  | [] => none

/-- What follows a character written after a question mark. -/
def character? : Text → Option Text
  | '\\' :: c :: r =>
    if isSpace c then none
    else
      match r with
      | '{' :: u =>
        match u.dropWhile isHex with
        | '}' :: v => some v
        | _ => some r
      | '-' :: d :: u => if isSpace d then some r else some u
      | r => some (r.dropWhile isHex)
  | c :: r => if isSpace c then none else some r
  | [] => none

/-- A quoted literal: its two delimiters, whether values may be put in, and whether letters may
follow. -/
structure Literal where
  opening : Char
  closing : Char
  filled : Bool
  lettered : Bool := false
deriving DecidableEq, Repr

def Literal.ofQuote (q : Char) (filled : Bool) : Literal := ⟨q, q, filled, false⟩

/-- The delimiters that a character opens. After a value a blank or an equals sign opens nothing. -/
def delimiters? (afterValue : Bool) (c : Char) : Option (Char × Char) :=
  if c == '(' then some ('(', ')')
  else if c == '[' then some ('[', ']')
  else if c == '{' then some ('{', '}')
  else if c == '<' then some ('<', '>')
  else if isSpace c || c == '=' then if afterValue then none else some (c, c)
  else if c.isAlphanum || c.toNat ≥ 128 then none
  else some (c, c)

/-- The head of a literal with a percent sign, from after that sign. -/
def percent? (afterValue : Bool) (t : Text) : Option (Literal × Text) :=
  let build (filled lettered : Bool) (t : Text) : Option (Literal × Text) :=
    match t with
    | c :: r => (delimiters? afterValue c).map fun d => (⟨d.1, d.2, filled, lettered⟩, r)
    | [] => none
  match t with
  | 'w' :: r | 'i' :: r | 'q' :: r | 's' :: r => build false false r
  | 'W' :: r | 'I' :: r | 'Q' :: r | 'x' :: r => build true false r
  | 'r' :: r => build true true r
  | r => build true false r

/-- A here-document: the word that ends it, whether that word may be indented, and whether values may
be put in. -/
structure Heredoc where
  word : Text
  indented : Bool
  filled : Bool
deriving DecidableEq, Repr

/-- The head of a here-document. -/
def heredoc? (t : Text) : Option (Heredoc × Text) :=
  match t with
  | '<' :: '<' :: r =>
    let (indented, r) :=
      match r with
      | '-' :: u => (true, u)
      | '~' :: u => (true, u)
      | u => (false, u)
    match r with
    | q :: u =>
      if q == '"' || q == '\'' || q == '`' then
        match u.dropWhile (· != q) with
        | _ :: v =>
          let word := u.takeWhile (· != q)
          if word.isEmpty then none else some (⟨word, indented, q != '\''⟩, v)
        | [] => none
      else if isWordChar q then some (⟨r.takeWhile isWordChar, indented, true⟩, r.dropWhile isWordChar)
      else none
    | [] => none
  | _ => none

/-- The rest after a long comment. -/
def longComment? (t : Text) : Option Text :=
  (after? "=begin".toList t).bind fun r =>
    close (r.dropWhile (· != '\n'))
where
  close : Text → Option Text
    | [] => none
    | '=' :: 'e' :: 'n' :: 'd' :: r => some (r.dropWhile (· != '\n'))
    | '=' :: 'e' :: 'n' :: _ :: r => close r
    | '=' :: 'e' :: _ :: r => close r
    | '=' :: _ :: r => close r
    | _ :: r => close r

/-- What follows an operator between two values. A bar may close parameters instead. -/
def binary? (bars : Bool) (t : Text) : Option Text :=
  match t with
  | '<' :: '=' :: '>' :: r => some r
  | '=' :: '=' :: '=' :: r => some r
  | '*' :: '*' :: '=' :: _ => none
  | '=' :: '=' :: r | '=' :: '~' :: r | '!' :: '=' :: r | '!' :: '~' :: r | '<' :: '=' :: r
  | '>' :: '=' :: r => some r
  | '=' :: _ | '!' :: _ => none
  | '-' :: '>' :: _ => none
  | '&' :: '.' :: _ => none
  | '<' :: '<' :: r | '>' :: '>' :: r | '*' :: '*' :: r | '&' :: '&' :: r =>
    if r.head? == some '=' then none else some r
  | '|' :: '|' :: r => if r.head? == some '=' || bars then none else some r
  | '<' :: r | '>' :: r => some r
  | '|' :: r => if r.head? == some '=' || bars then none else some r
  | c :: r =>
    if ['+', '-', '*', '/', '%', '&', '^'].contains c then
      if r.head? == some '=' then none else some r
    else none
  | [] => none

/-- What follows an assignment that also computes. -/
def augmented? (t : Text) : Option Text :=
  ["**=", "||=", "&&=", "<<=", ">>=", "+=", "-=", "*=", "/=", "|=", "&=", "%=", "^="].findSome?
    fun o => after? o.toList t

/-- What follows a plain equals sign. -/
def equals? : Text → Option Text
  | '=' :: c :: r => if c == '=' || c == '~' || c == '>' then none else some (c :: r)
  | '=' :: [] => some []
  | _ => none

/-- What follows the parenthesis that closes the `depth` open ones. Quotes are not looked into. -/
def afterParens? : Nat → Text → Option Text
  | _, [] => none
  | depth, '(' :: r => afterParens? (depth + 1) r
  | depth, ')' :: r => if depth ≤ 1 then some r else afterParens? (depth - 1) r
  | depth, _ :: r => afterParens? depth r

/-- Does the text start with a group in parentheses that a comma or an equals sign follows? -/
def startsGroup (t : Text) : Bool :=
  (afterParens? 0 t).any fun r =>
    let r := r.dropWhile isSpace
    r.head? == some ',' || (equals? r).isSome

end Excerpt.Ruby
