import Excerpt.Text.Blank
import Excerpt.Text.WordChars

/-!
What stands between the tokens of JavaScript: white space, comments, and the semicolons that a line
break stands for. A break ends a statement unless the next line starts with something that goes on
with it.
-/
namespace Excerpt.JavaScript

/-- White space between tokens. -/
def isSpace (c : Char) : Bool :=
  let n := c.toNat
  (9 ≤ n && n ≤ 13) || n == 32 || n == 0xA0 || n == 0x1680 || (0x2000 ≤ n && n ≤ 0x200B) ||
    n == 0x2028 || n == 0x2029 || n == 0x202F || n == 0x205F || n == 0x2060 || n == 0x3000 ||
    n == 0xFEFF

/-- White space that may stand between a value and the line break that ends its statement: the
non-breaking kinds are left out. -/
def isBreakingSpace (c : Char) : Bool :=
  let n := c.toNat
  (9 ≤ n && n ≤ 13) || n == 32 || n == 0x1680 || (0x2000 ≤ n && n ≤ 0x2006) ||
    (0x2008 ≤ n && n ≤ 0x200A) || n == 0x2028 || n == 0x2029 || n == 0x205F || n == 0x3000

def isLineBreak (c : Char) : Bool := c == '\n' || c.toNat == 0x2028 || c.toNat == 0x2029

/-- What follows a comment to the end of the line. -/
def dropLine (t : Text) : Text := t.dropWhile fun c => !(isLineBreak c || c == '\r')

/-- What follows the end of a block comment, and whether a line break came before that end. -/
def closeBlock : Bool → Text → Option (Bool × Text)
  | _, [] => none
  | broke, '*' :: '/' :: r => some (broke, r)
  | broke, c :: r => closeBlock (broke || isLineBreak c) r

/-- What follows the end of a block comment. -/
def afterBlock? (t : Text) : Option Text := (closeBlock false t).map (·.2)

/-- Steps over white space and comments, and over comments in the style of HTML if `html` says so.
The first argument bounds the number of steps. -/
def skipOver (html : Bool) : Text → Text → Text
  | [], t => t
  | _ :: bound, t =>
    match t with
    | '/' :: '/' :: r => skipOver html bound (dropLine r)
    | '/' :: '*' :: r =>
      match afterBlock? r with
      | some r => skipOver html bound r
      | none => t
    | '<' :: '!' :: '-' :: '-' :: r =>
      if html then skipOver html bound (r.dropWhile fun c => !isLineBreak c) else t
    | '-' :: '-' :: '>' :: r =>
      if html then skipOver html bound (r.dropWhile fun c => !isLineBreak c) else t
    | c :: r => if isSpace c then skipOver html bound r else t
    | [] => []

/-- The next token, where no value comes before it. -/
def skip (t : Text) : Text := skipOver true t t

/-- What a run of blanks and comments says about a semicolon. -/
inductive Lull where
  /-- A token that starts with a slash comes next. -/
  | refused
  /-- A comment came, and no line break in it. -/
  | sameLine
  | passed
deriving DecidableEq, Repr

/-- Reads over blanks and comments; unless `whole`, at most over the first block comment. -/
def lull (whole : Bool) : Text → Bool → Text → Lull × Text
  | [], _, t => (.passed, t)
  | _ :: bound, broke, t =>
    match t.dropWhile isBreakingSpace with
    | '/' :: '/' :: r => lull whole bound broke (r.dropWhile fun c => !isLineBreak c)
    | '/' :: '*' :: r =>
      match closeBlock broke r with
      | none => (.passed, [])
      | some (broke, r) =>
        if whole || r.head? == some '/' then lull whole bound broke r
        else (if broke then .passed else .sameLine, r)
    | '/' :: r => (.refused, r)
    | r => (.passed, r)

def isLetter (c : Char) : Bool :=
  c.isAlpha || (c.toNat ≥ 128 && isWordChar c)

/-- Does a line that starts so begin a statement, rather than go on with the one before? -/
def beginsStatement : Text → Bool
  | '.' :: c :: _ => c.isDigit
  | '.' :: [] => false
  | '+' :: r => r.head? == some '+'
  | '-' :: r => r.head? == some '-'
  | '!' :: r => r.head? != some '='
  | 'i' :: 'n' :: r =>
    match r with
    | [] => false
    | c :: _ =>
      isLetter c &&
        match after? "stanceof".toList r with
        | some (d :: _) => isLetter d
        | some [] => false
        | none => true
  | c :: _ =>
    !(['`', ',', ':', ';', '*', '%', '>', '<', '=', '[', '(', '?', '^', '|', '&', '/'].contains c)
  | [] => true

/-- Does a semicolon belong here though none is written? At the end, before a closing brace, and
before a line that begins a statement. A comment with a line break in it counts as one, except after
a value. -/
def semicolonDue (afterValue : Bool) : Text → Text → Bool
  | _, [] => true
  | [], _ => false
  | _ :: bound, c :: r =>
    let onward (c : Char) (r : Text) : Bool :=
      if c == '}' then true
      else if isLineBreak c then
        match lull true (c :: r) false r with
        | (.refused, _) => false
        | (_, r) => beginsStatement r
      else if isBreakingSpace c then semicolonDue afterValue bound r
      else false
    if c == '/' then
      match lull false (c :: r) false (c :: r) with
      | (.refused, _) => false
      | (how, r) =>
        if how == .passed && !afterValue && r.head? != some ',' && r.head? != some '=' then true
        else
          match r with
          | [] => false
          | c :: r => onward c r
    else onward c r

/-- Where the text goes on after a token: nowhere if a semicolon is due and `ends` says that the
statement may end here, otherwise at the next token. -/
def pauseWithin (ends afterValue : Bool) : Text → Text → Option Text
  | [], t => some t
  | _ :: bound, t =>
    if ends && semicolonDue afterValue (' ' :: t) t then none
    else
      match t.dropWhile isSpace with
      | '/' :: '/' :: r => pauseWithin ends afterValue bound (dropLine r)
      | '/' :: '*' :: r =>
        match afterBlock? r with
        | some s => pauseWithin ends afterValue bound s
        | none => some ('/' :: '*' :: r)
      | r => some r

def pause (ends afterValue : Bool) (t : Text) : Option Text := pauseWithin ends afterValue (' ' :: t) t

/-- The text after the end of a statement, where its semicolon is written or due. -/
def finish (afterValue : Bool) (t : Text) : Option Text :=
  match pause true afterValue t with
  | none => some t
  | some (';' :: r) => some r
  | some _ => none

end Excerpt.JavaScript
