import Excerpt.Location

/-!
The records that reading and extraction leave behind.
-/
namespace Excerpt

inductive Severity where
  | debug
  | info
  | warning
deriving DecidableEq, Repr

def Severity.name : Severity → String
  | debug => "DEBUG"
  | info => "INFO"
  | warning => "WARNING"

structure Record where
  severity : Severity
  text : String
deriving DecidableEq, Repr

namespace Record

def opened (file : String) : Record := ⟨.debug, "opened " ++ file⟩

def openFailed (file : String) (e : OsError) : Record :=
  ⟨.debug, "open failed for " ++ file ++ ": [Errno " ++ toString e.number ++ "] " ++ e.text ++ ": " ++
    quoted file⟩

def fileTooShort (loc : Location) (read : Nat) : Record :=
  ⟨.warning, loc.label ++ ": file has only " ++ toString read ++ " line(s)"⟩

def incomplete (loc : Location) (count : Nat) : Record :=
  ⟨.debug, loc.label ++ ": incomplete after " ++ toString count ++ " line(s)"⟩

def complete (loc : Location) (count : Nat) : Record :=
  ⟨.debug, loc.label ++ ": complete after " ++ toString count ++ " line(s)"⟩

def completeAtEnd (loc : Location) (count : Nat) : Record :=
  ⟨.debug, loc.label ++ ": complete at end of file after " ++ toString count ++ " line(s)"⟩

def noUnit (loc : Location) (language : String) : Record :=
  ⟨.warning, loc.label ++ ": no complete " ++ language ++ " expression before end of file"⟩

def commentLines (loc : Location) (count : Nat) : Record :=
  ⟨.debug, loc.label ++ ": " ++ toString count ++ " comment line(s)"⟩

def settingsUnread (why : String) : Record :=
  ⟨.warning, "Config read error (" ++ why ++ "); using defaults."⟩

def suffixesIgnored : Record := ⟨.warning, "Config 'suffixes' must be an object, ignoring it."⟩

def settingsSaved (path : String) : Record := ⟨.info, "Config saved: " ++ path⟩

end Record

end Excerpt
