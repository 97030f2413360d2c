/-!
Text as a list of characters, and the blank characters that trimming removes and that a blank
line consists of.
-/
namespace Excerpt

/-- Source text, one character at a time. -/
abbrev Text := List Char

/-- The blank characters: the white space of every script, and the four information separators
`U+001C` to `U+001F`. -/
def isBlank (c : Char) : Bool :=
  let n := c.toNat
  (9 ≤ n && n ≤ 13) || (28 ≤ n && n ≤ 32) || n == 0x85 || n == 0xA0 || n == 0x1680 ||
    (0x2000 ≤ n && n ≤ 0x200A) || n == 0x2028 || n == 0x2029 || n == 0x202F || n == 0x205F ||
    n == 0x3000

/-- Spaces and tabs, the only characters that count as indentation. -/
def isIndent (c : Char) : Bool := c == ' ' || c == '\t'

def trimStart (t : Text) : Text := t.dropWhile isBlank

def trimEnd : Text → Text
  | [] => []
  | c :: r =>
    match trimEnd r with
    | [] => if isBlank c then [] else [c]
    | d :: s => c :: d :: s

/-- Removes the blank characters at both ends. -/
def trim (t : Text) : Text := trimEnd (trimStart t)

def indentOf (line : Text) : Text := line.takeWhile isIndent

/-- The number of spaces and tabs in front, each counted as one. -/
def indentWidth (line : Text) : Nat := (indentOf line).length

/-- A line with no character but blank ones. -/
def isBlankLine (line : Text) : Bool := line.all isBlank

/-- Does `t` start with `p`? -/
def startsWith (p t : Text) : Bool := p.isPrefixOf t

/-- The text after `p`, when it starts with `p`. -/
def after? : Text → Text → Option Text
  | [], t => some t
  | _ :: _, [] => none
  | p :: ps, c :: cs => if p == c then after? ps cs else none

end Excerpt
