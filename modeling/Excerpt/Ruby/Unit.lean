import Excerpt.Ruby.Grammar
import Excerpt.Language

/-!
When is Ruby text a whole unit? Exactly when it is a program.
-/
namespace Excerpt

/-- The lines around the text make no difference. -/
def rubyAccepts (code : Text) (_ : Evidence) : Bool := Ruby.isProgram code

end Excerpt
