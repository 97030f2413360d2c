import Excerpt.Settings
import Excerpt.Text.LowerCase
import Excerpt.Python.Unit
import Excerpt.Ruby.Unit
import Excerpt.JavaScript.Unit

/-!
The known languages, and the choice of one by the suffix of a file's name. Suffixes from the settings
come before the built-in ones; an unknown suffix means Python.
-/
namespace Excerpt

namespace Language

def python : Language where
  name := "python"
  commentMark := ['#']
  suffixes := [".py", ".pyw"]
  accepts := Python.host.accepts

def ruby : Language where
  name := "ruby"
  commentMark := ['#']
  suffixes := [".rb", ".rake", ".gemspec", ".ru"]
  accepts := rubyAccepts

def javaScript : Language where
  name := "javascript"
  commentMark := ['/', '/']
  suffixes := [".js", ".mjs", ".cjs", ".jsx"]
  accepts := javaScriptAccepts

def all : List Language := [python, ruby, javaScript]

def named? (name : String) : Option Language := all.find? fun lang => lang.name == name

def bySuffix (suffix : String) : Language :=
  (all.find? fun lang => lang.suffixes.contains suffix).getD python

/-- The value of the last field whose name agrees with `suffix` but for case. -/
def configured? (suffix : String) (suffixes : List (String × Json)) : Option Json :=
  Json.field? suffix (suffixes.map fun f => (lower f.1, f.2))

/-- The language of a file, given the suffixes of the settings. -/
def ofFile (suffixes : List (String × Json)) (file : String) : Except Fault Language :=
  let suffix := lower (suffixOf file)
  match configured? suffix suffixes with
  | none => .ok (bySuffix suffix)
  | some v =>
    match named? (lower v.plain) with
    | some lang => .ok lang
    | none => .error (.unknownLanguage v suffix)

/-- The suffixes of settings given as a value of any kind. -/
def suffixesOf : Json → Except Fault (List (String × Json))
  | .obj fields =>
    match (Json.field? "suffixes" fields).getD .null with
    | .obj suffixes => .ok suffixes
    | v => if v.isTruthy then .error (.noItems v.kindName) else .ok []
  | v => .error (.noFields v.kindName)

/-- The language of a file by the settings in force. -/
def find (file : String) : Op Language := do
  let settings ← Settings.load Settings.defaultPath
  Op.ofExcept (ofFile settings.suffixes file)

end Language

end Excerpt
