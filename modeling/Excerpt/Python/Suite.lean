import Excerpt.Text.Lines
import Excerpt.Text.WordChars

/-!
Does a text open an indented block? This is decided line by line, a line ending at a line feed only:
the first line that starts a statement deeper than the margin opens one, and so does a text that ends
inside a string, a bracket or a continued line.
-/
namespace Excerpt.Python.Suite

/-- The string that a line leaves open, by its quote; `continued` strings need a backslash at the end
of each line. -/
inductive OpenString where
  | triple (quote : Char)
  | continued (quote : Char)
deriving DecidableEq, Repr

/-- What one line leaves for the next. -/
structure Carry where
  /-- Brackets opened less brackets closed; it may fall below zero. -/
  brackets : Int := 0
  /-- The line ended in a backslash. -/
  joined : Bool := false
  string : Option OpenString := none
deriving DecidableEq, Repr

def isGap (c : Char) : Bool := c == ' ' || c == '\t' || c.toNat == 12

/-- The text after the closing triple quote, if the line has it. A backslash hides the next character
but not the end of the line. -/
def afterTriple (quote : Char) : Text → Option Text
  | '\\' :: '\n' :: _ => none
  | '\\' :: _ :: r => afterTriple quote r
  | c :: r =>
    if c == quote then
      match r with
      | d :: e :: s => if d == quote && e == quote then some s else afterTriple quote r
      | _ => none
    else afterTriple quote r
  | [] => none

/-- The text after the closing quote of a string continued from the line before. -/
def afterContinued (quote : Char) : Text → Option Text
  | '\\' :: '\n' :: _ => none
  | '\\' :: _ :: r => afterContinued quote r
  | c :: r => if c == quote then some r else afterContinued quote r
  | [] => none

/-- Where a string that opens in a line ends: in it, or at the backslash that ends it. -/
inductive StringEnd where
  | closed (rest : Text)
  | continues
  | never

def stringEnd (quote : Char) : Text → StringEnd
  | '\\' :: '\n' :: _ => .continues
  | '\\' :: '\r' :: '\n' :: _ => .continues
  | '\\' :: _ :: r => stringEnd quote r
  | '\n' :: _ => .never
  | c :: r => if c == quote then .closed r else stringEnd quote r
  | [] => .never

/-- The letters that may stand in front of a quote. -/
def stringMarks : List Text :=
  ["", "b", "r", "u", "f", "br", "rb", "fr", "rf"].map String.toList

/-- The quote and the text behind it, when a string starts here with the given marks. -/
def startBy? (t marks : Text) : Option (Char × Text) :=
  if startsWith marks ((t.take marks.length).map Char.toLower) then
    match t.drop marks.length with
    | c :: r => if c == '\'' || c == '"' then some (c, r) else none
    | [] => none
  else none

/-- The quote and the text behind it, when a string starts here. -/
def stringStart? (t : Text) : Option (Char × Text) := stringMarks.findSome? (startBy? t)

/-- One step of a scan: the line is done with, or the scan goes on with what is left of it. -/
inductive Advance where
  | stop (carry : Carry)
  | go (brackets : Int) (rest : Text)

/-- Past a string in one line, `s` being the text behind its quote and `t` all of it. One that never
ends is no string, and its quote is skipped. -/
def pastQuoted (n : Int) (q : Char) (s t : Text) : Advance :=
  match stringEnd q s with
  | .closed rest => .go n rest
  | .continues => .stop { brackets := n, string := some (.continued q) }
  | .never => .go n (t.drop (max 1 (t.takeWhile isWordChar).length))

/-- Past a string of either kind. -/
def pastString (n : Int) (q : Char) (s t : Text) : Advance :=
  match s with
  | a :: b :: u =>
    if a == q && b == q then
      match afterTriple q u with
      | some rest => .go n rest
      | none => .stop { brackets := n, string := some (.triple q) }
    else pastQuoted n q s t
  | _ => pastQuoted n q s t

/-- Past a character that is neither bracket nor quote, with the word it may start. -/
def pastWord (c : Char) (r : Text) : Text := if isWordChar c then r.dropWhile isWordChar else r

/-- One step from the front of a line: past a comment, a bracket, a string or a word. -/
def advance (n : Int) : Text → Advance
  | [] => .stop { brackets := n }
  | c :: r =>
    if c == '#' then .go n (r.dropWhile fun d => d != '\n' && d != '\r')
    else if c == '\\' && (r == ['\n'] || r == ['\r', '\n']) then
      .stop { brackets := n, joined := true }
    else if c == '(' || c == '[' || c == '{' then .go (n + 1) r
    else if c == ')' || c == ']' || c == '}' then .go (n - 1) r
    else
      match stringStart? (c :: r) with
      | some (q, s) => pastString n q s (c :: r)
      | none => .go n (pastWord c r)

/-- Scans the rest of a line for brackets, strings and a joining backslash. -/
def scanLine : Nat → Int → Text → Carry
  | 0, n, _ => { brackets := n }
  | fuel + 1, n, t =>
    match advance n t with
    | .stop carry => carry
    | .go m rest => scanLine fuel m rest

/-- Whether a line starts a statement deeper than the margin, is to be passed over, or ends the
text. -/
inductive Margin where
  | deeper
  | flush
  | quiet
  | trailing

def marginOf (column : Nat) : Text → Margin
  | ' ' :: r => marginOf (column + 1) r
  | '\t' :: r => marginOf ((column / 8 + 1) * 8) r
  | [] => .trailing
  | c :: r =>
    if c.toNat == 12 then marginOf 0 r
    else if c == '#' || c == '\r' || c == '\n' then .quiet
    else if column > 0 then .deeper
    else .flush

def endsInBackslash (line : Text) : Bool :=
  startsWith ['\n', '\\'] line.reverse || startsWith ['\n', '\r', '\\'] line.reverse

/-- One line after another, from what the lines before left. -/
def linesOpen : Carry → List Text → Bool
  | carry, [] => carry.string.isSome || carry.joined || carry.brackets != 0
  | carry, line :: rest =>
    let scanFrom (t : Text) := scanLine (line.length + 1) carry.brackets t
    match carry.string with
    | some (.triple q) =>
      match afterTriple q line with
      | some t => linesOpen (scanFrom t) rest
      | none => linesOpen carry rest
    | some (.continued q) =>
      match afterContinued q line with
      | some t => linesOpen (scanFrom t) rest
      | none =>
        if endsInBackslash line then linesOpen carry rest
        else linesOpen { carry with string := none } rest
    | none =>
      if carry.joined || carry.brackets != 0 then linesOpen (scanFrom line) rest
      else
        match marginOf 0 line with
        | .deeper => true
        | .quiet => linesOpen carry rest
        | .trailing => false
        | .flush => linesOpen (scanFrom line) rest

/-- Does the text open an indented block? -/
def opens (t : Text) : Bool := linesOpen {} (feedLines t)

end Excerpt.Python.Suite
