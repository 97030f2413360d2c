import Excerpt.JavaScript.Grammar
import Excerpt.Language

/-!
When is JavaScript text a whole unit? It must be a program, or the inside of a class.
-/
namespace Excerpt.JavaScript

/-- The text as the inside of a class. -/
def inClass (code : Text) : Text := "class _ \x7b\n".toList ++ code ++ "\n\x7d".toList

/-- A program, or the members of a class. -/
def isUnit (isProgram : Text → Bool) (code : Text) : Bool :=
  isProgram code || isProgram (inClass code)

end Excerpt.JavaScript

namespace Excerpt

/-- The lines around the text make no difference. -/
def javaScriptAccepts (code : Text) (_ : Evidence) : Bool :=
  JavaScript.isUnit JavaScript.isProgram code

end Excerpt
