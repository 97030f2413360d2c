import Excerpt.JavaScript.Trivia

/-!
The tokens of JavaScript that need no grammar: words, numbers, strings, regular expressions and the
operators that follow a value. Each reader takes the text from the token on and gives what comes
after it.
-/
namespace Excerpt.JavaScript

/-- A character that may stand in a word. -/
def isWordPart (c : Char) : Bool :=
  c.toNat ≥ 32 && !isSpace c && !":;`\"'@#.,|^&<=>+-*/\\%?!~()[]\x7b\x7d".toList.contains c

def isHex (c : Char) : Bool :=
  c.isDigit || ('a' ≤ c && c ≤ 'f') || ('A' ≤ c && c ≤ 'F')

/-- What follows the code point of an escape, from after its `u`. -/
def codePoint? : Text → Option Text
  | '{' :: r =>
    match r.takeWhile isHex, r.dropWhile isHex with
    | _ :: _, '}' :: s => some s
    | _, _ => none
  | a :: b :: c :: d :: r => if isHex a && isHex b && isHex c && isHex d then some r else none
  | _ => none

/-- The word in front, escapes included; the first argument bounds its length. -/
def takeWord : Text → Text → Text × Text
  | [], t => ([], t)
  | _ :: bound, '\\' :: 'u' :: r =>
    match codePoint? r with
    | some s => let (w, s) := takeWord bound s; ('\\' :: w, s)
    | none => ([], '\\' :: 'u' :: r)
  | _ :: bound, c :: r =>
    if isWordPart c then let (w, s) := takeWord bound r; (c :: w, s) else ([], c :: r)
  | _, [] => ([], [])

/-- A word and what follows it. -/
def word? (t : Text) : Option (String × Text) :=
  match t with
  | [] => none
  | c :: _ =>
    if c.isDigit then none
    else
      match takeWord t t with
      | ([], _) => none
      | (w, r) => some (String.ofList w, r)

def reserved : List String :=
  ["break", "case", "catch", "class", "const", "continue", "debugger", "default", "delete", "do",
   "else", "export", "extends", "false", "finally", "for", "function", "if", "import", "in",
   "instanceof", "new", "null", "return", "super", "switch", "this", "throw", "true", "try",
   "typeof", "var", "void", "while", "with"]

/-- The rest after a given word. -/
def keyword? (w : String) (t : Text) : Option Text :=
  match word? t with
  | some (v, r) => if v == w then some r else none
  | none => none

/-- The rest after a word that may be declared as a name. -/
def name? (t : Text) : Option Text :=
  match word? t with
  | some (v, r) => if reserved.contains v then none else some r
  | none => none

/-- A run of digits, single underscores between them. -/
def digitRun (isDigit : Char → Bool) : Text → Text
  | '_' :: c :: r => if isDigit c then digitRun isDigit r else '_' :: c :: r
  | c :: r => if isDigit c then digitRun isDigit r else c :: r
  | [] => []

def digitRun? (isDigit : Char → Bool) : Text → Option Text
  | c :: r => if isDigit c then some (digitRun isDigit r) else none
  | [] => none

def afterBig (t : Text) : Text :=
  match t with
  | 'n' :: r => r
  | t => t

/-- What follows an exponent, if one stands here. -/
def afterExponent (t : Text) : Text :=
  match t with
  | c :: r =>
    if c == 'e' || c == 'E' then
      let unsigned :=
        match r with
        | s :: u => if s == '+' || s == '-' then u else r
        | [] => r
      (digitRun? Char.isDigit unsigned).getD t
    else t
  | [] => []

/-- A fraction may follow unless the whole part has a useless zero in front. -/
def takesFraction : Text → Bool
  | '0' :: d :: _ => !(d == '0' || d == '_')
  | _ => true

def number? (t : Text) : Option Text :=
  match t with
  | '0' :: x :: r =>
    let radix :=
      if x == 'x' || x == 'X' then digitRun? isHex r
      else if x == 'b' || x == 'B' then digitRun? (fun c => c == '0' || c == '1') r
      else if x == 'o' || x == 'O' then digitRun? (fun c => '0' ≤ c && c ≤ '7') r
      else none
    match radix with
    | some r => some (afterBig r)
    | none => decimal? t
  | t => decimal? t
where
  decimal? (t : Text) : Option Text :=
    match t with
    | '.' :: r => (digitRun? Char.isDigit r).map afterExponent
    | t =>
      match digitRun? Char.isDigit t with
      | none => none
      | some ('n' :: r) => some r
      | some r =>
        if !takesFraction (t.take (t.length - r.length)) then some r
        else
          match r with
          | '.' :: s => some (afterExponent ((digitRun? Char.isDigit s).getD s))
          | r => some (afterExponent r)

/-- What follows an escape, from after its backslash. -/
def escape? : Text → Option Text
  | 'x' :: a :: b :: r => if isHex a && isHex b then some r else none
  | 'x' :: _ => none
  | 'u' :: r => codePoint? r
  | '\r' :: '\n' :: r => some r
  | _ :: r => some r
  | [] => none

/-- What follows a string, from after its opening quote. A line break may stand only before the
closing quote or a comment. -/
def string? (quote : Char) : Text → Text → Option Text
  | [], _ => none
  | _ :: bound, t =>
    match t with
    | [] => none
    | '\\' :: r => (escape? r).bind (string? quote bound)
    | c :: r =>
      if c == quote then some r
      else if c == '\n' || c == '\r' then
        match r.dropWhile isSpace with
        | '/' :: '/' :: s => string? quote bound (dropLine s)
        | '/' :: '*' :: s => (afterBlock? s).bind (string? quote bound)
        | d :: s => if d == quote then some s else none
        | [] => none
      else string? quote bound r

/-- The rest after a string literal. -/
def literal? : Text → Option Text
  | '"' :: r => string? '"' ('"' :: r) r
  | '\'' :: r => string? '\'' ('\'' :: r) r
  | _ => none

/-- What follows a regular expression, from after its opening slash; `inClass` inside brackets. -/
def regex? : Bool → Text → Option Text
  | _, [] => none
  | inClass, '\\' :: c :: r => if c == '\n' then none else regex? inClass r
  | _, ['\\'] => none
  | true, c :: r => if c == '\n' then none else regex? (c != ']') r
  | false, c :: r =>
    if c == '\n' then none
    else if c == '/' then some (r.dropWhile fun d => 'a' ≤ d && d ≤ 'z')
    else regex? (c == '[') r

/-- What follows an operator of two values. -/
def binary? (t : Text) : Option Text :=
  match t with
  | '>' :: '>' :: '>' :: '=' :: _ => none
  | '>' :: '>' :: '>' :: r => some r
  | '=' :: '=' :: '=' :: r => some r
  | '!' :: '=' :: '=' :: r => some r
  | '=' :: '=' :: r => some r
  | '!' :: '=' :: r => some r
  | '<' :: '=' :: r => some r
  | '>' :: '=' :: r => some r
  | '+' :: '+' :: _ => none
  | '-' :: '-' :: _ => none
  | '=' :: _ => none
  | '<' :: '<' :: r | '>' :: '>' :: r | '*' :: '*' :: r | '&' :: '&' :: r | '|' :: '|' :: r
  | '?' :: '?' :: r => if r.head? == some '=' then none else some r
  | '<' :: r | '>' :: r => some r
  | c :: r =>
    if ['&', '|', '^', '+', '-', '*', '/', '%'].contains c then
      if r.head? == some '=' then none else some r
    else
      match word? t with
      | some ("in", r) | some ("instanceof", r) => some r
      | _ => none
  | [] => none

/-- What follows an assignment that also computes. -/
def augmented? (t : Text) : Option Text :=
  [">>>=", ">>=", "<<=", "**=", "&&=", "||=", "??=", "+=", "-=", "*=", "/=", "%=", "^=", "&=",
    "|="].findSome? fun o => after? o.toList t

/-- What follows the mark of a choice between two values. -/
def question? : Text → Option Text
  | '?' :: '?' :: _ => none
  | '?' :: '.' :: c :: r => if c.isDigit then some ('.' :: c :: r) else none
  | '?' :: ['.'] => none
  | '?' :: r => some r
  | _ => none

/-- What follows a plain equals sign. -/
def equals? : Text → Option Text
  | '=' :: '=' :: _ => none
  | '=' :: '>' :: _ => none
  | '=' :: r => some r
  | _ => none

/-- Can an operand start here? -/
def startsOperand (t : Text) : Bool :=
  match t with
  | '!' :: c :: _ => c != '='
  | '<' :: c :: _ => c != '=' && c != '<'
  | '.' :: c :: _ => c.isDigit
  | c :: _ =>
    ['(', '[', '{', '`', '"', '\'', '/', '+', '-', '~', '@', '#'].contains c || c.isDigit ||
      match word? t with
      | some (w, _) => w != "in" && w != "instanceof" && w != "of"
      | none => false
  | [] => false

/-- A character reference such as `&amp;`, from after its ampersand. -/
def reference? (t : Text) : Option Text :=
  let closing (digits : Char → Bool) (most : Nat) (t : Text) : Option Text :=
    let body := t.takeWhile digits
    if body.isEmpty || body.length > most then none
    else
      match t.drop body.length with
      | ';' :: r => some r
      | _ => none
  match t with
  | '#' :: 'x' :: r | '#' :: 'X' :: r => closing isHex 6 r
  | '#' :: r => closing Char.isDigit 5 r
  | t => closing Char.isAlpha 30 t

/-- What follows a string among the attributes of an element. -/
def attributeString? (quote : Char) : Text → Text → Option Text
  | [], _ => none
  | _ :: bound, t =>
    match t with
    | [] => none
    | '&' :: c :: r =>
      match reference? (c :: r) with
      | some s => attributeString? quote bound s
      | none => if c == '#' || c.isAlpha then none else attributeString? quote bound r
    | c :: r => if c == quote then some r else attributeString? quote bound r

/-- A word with hyphens in it, as elements and attributes have. -/
def elementWord? (t : Text) : Option Text :=
  let isPart (c : Char) : Bool := c.isAlphanum || c == '_' || c == '$'
  let hyphened :=
    match t with
    | c :: r =>
      if isPart c && !c.isDigit then
        match r.dropWhile isPart with
        | '-' :: s => some (s.dropWhile fun c => isPart c || c == '-')
        | _ => none
      else none
    | [] => none
  match hyphened with
  | some r => some r
  | none => (word? t).map (·.2)

end Excerpt.JavaScript
