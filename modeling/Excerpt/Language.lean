import Excerpt.Text.Lines

/-!
A language: its name, the suffixes of its files, the mark of its one-line comments, and the question
whether a text is one whole unit.
-/
namespace Excerpt

/-- What is known about a candidate unit besides its text. `final` says that the file ends after it,
`next` is the line after it when that has been read. -/
structure Evidence where
  final : Bool
  next : Option Text
deriving DecidableEq, Repr

/-- Nothing is known but the text. -/
def Evidence.none : Evidence := ⟨false, Option.none⟩

/-- The line after the candidate is known. -/
def Evidence.ahead (line : Text) : Evidence := ⟨false, some line⟩

/-- The file ends after the candidate. -/
def Evidence.atEnd : Evidence := ⟨true, Option.none⟩

/-- How a language looks to the reader of comments: its name and the mark that starts one. -/
structure Dialect where
  name : String
  commentMark : Text

namespace Dialect

/-- A line whose first characters, blank ones apart, are the comment mark. -/
def isCommentLine (d : Dialect) (line : Text) : Bool := startsWith d.commentMark (trimStart line)

def isQuietLine (d : Dialect) (line : Text) : Bool := isBlankLine line || d.isCommentLine line

/-- Does the text have nothing but blank lines and comments, by display lines? -/
def isQuiet (d : Dialect) (code : Text) : Bool := (bareLines code).all d.isQuietLine

end Dialect

structure Language extends Dialect where
  suffixes : List String
  /-- Is the text a whole unit, once comment-only text is ruled out? -/
  accepts : Text → Evidence → Bool

namespace Language

/-- Comments alone are never a unit; for the rest the language decides. -/
def isComplete (lang : Language) (code : Text) (e : Evidence) : Bool :=
  if lang.isQuiet code then false else lang.accepts code e

end Language

end Excerpt
