import Excerpt.Python.Grammar
import Excerpt.Python.Suite
import Excerpt.Text.CharacterNames
import Excerpt.Language

/-!
When is Python text a whole unit? It must be a module, with the first line's indentation taken off
all lines. Blocks have no closing mark, so one that is open counts as closed only at a blank line,
before a line that starts a new statement, or at the end of the file.
-/
namespace Excerpt.Python

/-- Takes the indentation of the first line off every line that has it. -/
def dedent (code : Text) : Text :=
  match displayLines code with
  | [] => code
  | first :: rest =>
    let base := indentOf first
    if base.isEmpty || isBlankLine first then code
    else ((first :: rest).map fun line => (after? base line).getD line).flatten

/-- Words that go on with a statement whose block has ended. -/
def continuations : List Text :=
  ["else", "elif", "except", "finally", "case"].map String.toList

/-- Does the line go on with the statement before it: by such a word, or by a closing bracket? -/
def continuesSuite (line : Text) : Bool :=
  let t := trimStart line
  (continuations.any fun w =>
    match after? w t with
    | some (c :: _) => !isWordChar c
    | some [] => true
    | none => false) ||
    match t with
    | c :: _ => c == ')' || c == ']' || c == '}'
    | [] => false

/-- Does the line after a block start a new statement, not deeper than the block's first line? -/
def closesSuite (first : Text) : Option Text → Bool
  | none => false
  | some next =>
    if isBlankLine next || startsWith ['#'] (trimStart next) then false
    else if indentWidth next > indentWidth first then false
    else !continuesSuite next

/-- What decides about Python text besides its lines: which texts are modules, and which open a
block. -/
structure Host where
  isModule : Text → Bool
  opensSuite : Text → Bool

namespace Host

/-- The decision, for any notion of module and block. -/
def accepts (h : Host) (code : Text) (e : Evidence) : Bool :=
  let body := dedent code
  if !h.isModule body then false
  else if e.final || !h.opensSuite body then true
  else if closesSuite ((bareLines code).headD []) e.next then true
  else isBlankLine ((bareLines body).getLastD [])

end Host

/-- The grammar of this library. -/
def host : Host := ⟨isModule isCharacterName, Suite.opens⟩

end Excerpt.Python
