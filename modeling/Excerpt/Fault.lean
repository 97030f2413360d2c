import Excerpt.Json.Reader
import Excerpt.Charset.Decode
import Excerpt.FileTree

/-!
Everything that can go wrong, one constructor for each cause, and the wording of each.
-/
namespace Excerpt

/-- What stands between a location and the text of its file. -/
inductive Obstacle where
  | system (error : OsError)
  | undecodable (reason : DecodeReason)
deriving DecidableEq, Repr

def Obstacle.text : Obstacle → String
  | system e => e.text
  | undecodable r => "cannot decode: " ++ r.text

inductive Fault where
  /-- No file and line could be found for the entity of that name. -/
  | noLocation (name : Option String)
  /-- The file behind a location cannot be opened or decoded. -/
  | unreadable (file : String) (obstacle : Obstacle)
  /-- The file ended before a whole unit was read. -/
  | endOfInput (file : String) (line linesRead : Nat)
  | lineNotWhole (value : Json)
  | lineNotPositive (n : Int)
  | tooFewParts (got : Nat)
  | tooManyParts
  | noParts (kind : String)
  | unknownLanguage (value : Json) (suffix : String)
  | noItems (kind : String)
  | noFields (kind : String)
  | encodingKind (kind : String)
  | unknownCharset (name : String)
  | nulInCharset
  | missingMark
  | undecodable (fault : DecodeFault)
  | nulInPath
  | pathKind (kind : String)
  | system (error : OsError)
  | deepSettings (problem : Json.Problem)
  | unwritable (problem : Json.Problem)
  | unhashable (kind : String)
  | frozenField (field : String)
  /-- A function is wrapped around itself. -/
  | wrapperLoop
deriving Repr

namespace Fault

def noLocationText (name : String) : String :=
  if name == "" then "Cannot locate source: no source location available"
  else "Cannot locate source for this callable: " ++ name

def unreadableText (file reason : String) : String :=
  "Backing file unreadable: " ++ file ++ (if reason == "" then "" else " (" ++ reason ++ ")")

def endOfInputText (file line linesRead : String) : String :=
  file ++ ":" ++ line ++ ": reached end of file after " ++ linesRead ++
    " line(s) without a complete expression"

def message : Fault → String
  | noLocation name => noLocationText (name.getD "")
  | unreadable file obstacle => unreadableText file obstacle.text
  | endOfInput file line linesRead => endOfInputText file (toString line) (toString linesRead)
  | lineNotWhole v => "line_number must be an int, got " ++ v.display
  | lineNotPositive n => "line_number is 1-indexed, got " ++ toString n
  | tooFewParts got => "not enough values to unpack (expected 2, got " ++ toString got ++ ")"
  | tooManyParts => "too many values to unpack (expected 2)"
  | noParts kind => "cannot unpack non-iterable " ++ kind ++ " object"
  | unknownLanguage v suffix =>
    "Unknown language " ++ v.display ++ " for suffix " ++ quoted suffix
  | noItems kind => "'" ++ kind ++ "' object has no attribute 'items'"
  | noFields kind => "'" ++ kind ++ "' object has no attribute 'get'"
  | encodingKind kind => "open() argument 'encoding' must be str or None, not " ++ kind
  | unknownCharset name => "unknown encoding: " ++ name
  | nulInCharset => "embedded null character"
  | missingMark => DecodeReason.missingMark.text
  | undecodable f => f.message
  | nulInPath => "embedded null byte"
  | pathKind kind => "expected str, bytes or os.PathLike object, not " ++ kind
  | system e => e.text
  | deepSettings p => p.text
  | unwritable p => p.text
  | unhashable kind => "unhashable type: '" ++ kind ++ "'"
  | frozenField field => "cannot assign to field " ++ quoted field
  | wrapperLoop => "wrapper loop"

end Fault

end Excerpt
