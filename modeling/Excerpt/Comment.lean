import Excerpt.Source
import Excerpt.Language

/-!
The comment block that touches a line: the comment and blank lines right above it, joined and
trimmed.
-/
namespace Excerpt

/-- The lines kept after one more line: quiet lines pile up, and any other line clears the pile. -/
def pileUp (d : Dialect) (pile : List Text) (line : Text) : List Text :=
  if d.isQuietLine line then pile ++ [line] else []

/-- One pass down the lines above. -/
def touching (d : Dialect) (above : List Text) : List Text := above.foldl (pileUp d) []

/-- The longest run of quiet lines that ends the list. -/
def lastQuietRun (d : Dialect) (above : List Text) : List Text :=
  (above.reverse.takeWhile d.isQuietLine).reverse

def commentOf (d : Dialect) (above : List Text) : Text := trim (touching d above).flatten

/-- The comment above a location in an open file. -/
def readComment (d : Dialect) (loc : Location) (h : Handle) : Op Text := do
  let (above, _) ← Source.approach h loc
  return commentOf d above

/-- Opens the file of a location and collects the comment above it. -/
def collectComment (d : Dialect) (encoding : Json) (loc : Location) : Op Text := do
  let h ← Source.openText loc.file encoding
  let comment ← Op.closing (readComment d loc h) (Source.close h)
  Op.note (.commentLines loc (displayLines comment).length)
  return comment

end Excerpt
