import Excerpt.Text.Blank

/-!
Two ways to cut text into lines, both keeping the terminators. A file's lines end at a line feed,
a carriage return, or the pair of them; display lines also end at the other separators that Unicode
counts as line boundaries.
-/
namespace Excerpt

/-- The first line with its terminator, and what follows it. -/
def cutLine : Text → Text × Text
  | [] => ([], [])
  | '\n' :: r => (['\n'], r)
  | '\r' :: '\n' :: r => (['\r', '\n'], r)
  | '\r' :: r => (['\r'], r)
  | c :: r => let (line, rest) := cutLine r; (c :: line, rest)

/-- As `cutLine`, but only when a terminator is there. -/
def cutLine? : Text → Option (Text × Text)
  | [] => none
  | '\n' :: r => some (['\n'], r)
  | '\r' :: '\n' :: r => some (['\r', '\n'], r)
  | '\r' :: r => some (['\r'], r)
  | c :: r => (cutLine? r).map fun p => (c :: p.1, p.2)

/-- The lines of a file. -/
def lines : Text → List Text
  | [] => []
  | '\n' :: r => ['\n'] :: lines r
  | '\r' :: '\n' :: r => ['\r', '\n'] :: lines r
  | '\r' :: r => ['\r'] :: lines r
  | c :: r =>
    match lines r with
    | [] => [[c]]
    | line :: more => (c :: line) :: more

/-- The separators beside line feed and carriage return that end a display line. -/
def isWideBreak (c : Char) : Bool :=
  let n := c.toNat
  n == 0x0B || n == 0x0C || (0x1C ≤ n && n ≤ 0x1E) || n == 0x85 || n == 0x2028 || n == 0x2029

/-- Display lines, terminators kept. -/
def displayLines : Text → List Text
  | [] => []
  | '\n' :: r => ['\n'] :: displayLines r
  | '\r' :: '\n' :: r => ['\r', '\n'] :: displayLines r
  | '\r' :: r => ['\r'] :: displayLines r
  | c :: r =>
    if isWideBreak c then [c] :: displayLines r
    else
      match displayLines r with
      | [] => [[c]]
      | line :: more => (c :: line) :: more

/-- A display line without its terminator. -/
def dropBreak (line : Text) : Text :=
  line.takeWhile fun c => !(c == '\n' || c == '\r' || isWideBreak c)

/-- Display lines without their terminators. -/
def bareLines (t : Text) : List Text := (displayLines t).map dropBreak

/-- The lines a line-feed cut gives, terminators kept; carriage returns are ordinary here. -/
def feedLines : Text → List Text
  | [] => []
  | '\n' :: r => ['\n'] :: feedLines r
  | c :: r =>
    match feedLines r with
    | [] => [[c]]
    | line :: more => (c :: line) :: more

end Excerpt
