import Excerpt.Unit
import Excerpt.Comment
import Excerpt.Registry

/-!
The two questions about a location: what is the text of the unit that starts there, and what does the
comment above it say.
-/
namespace Excerpt

/-- The unit at a location. `name` is what to call the entity if there is no location. -/
def sourceAt (loc : Option Location) (name : Option String) : Op Text :=
  match loc with
  | none => throw (.noLocation name)
  | some loc => do
    let lang ← Language.find loc.file
    Source.withPlaced loc (readUnit lang loc)

/-- The comment above a location, in a given language or in that of the file. -/
def commentAbove (lang : Option Language) (loc : Location) : Op Text := do
  let settings ← Settings.load Settings.defaultPath
  let lang ←
    match lang with
    | some lang => pure lang
    | none => Op.ofExcept (Language.ofFile settings.suffixes loc.file)
  collectComment lang.toDialect settings.encoding loc

/-- The comment above a location; empty when there is none. -/
def commentAt (loc : Option Location) : Op Text :=
  match loc with
  | none => pure []
  | some loc => commentAbove none loc

/-- As `sourceAt`, for a location given by a value of any kind. -/
def extractSource (location : Json) (name : Option String) : Op Text := do
  sourceAt (← Op.ofExcept (Location.ofJson location)) name

/-- As `commentAt`, for a location given by a value of any kind. -/
def extractComment (location : Json) : Op Text := do
  commentAt (← Op.ofExcept (Location.ofJson location))

/-- Is the text one whole unit of the file's language? -/
def checkText (code : Text) (file : String) : Op Bool := do
  return (← Language.find file).isComplete code .none

end Excerpt
