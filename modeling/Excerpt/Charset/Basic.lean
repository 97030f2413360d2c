import Excerpt.Text.Blank

/-!
Character sets and their names. A name is looked up without regard to case, and every run of
characters other than letters, digits and points counts as one separator.
-/
namespace Excerpt

abbrev Bytes := List UInt8

inductive Charset where
  | utf8
  | utf8Marked
  | latin1
  | ascii
  | utf16
  | utf16Little
  | utf16Big
  | windows1252
deriving DecidableEq, Repr

namespace Charset

/-- The spellings of each set, separators written as underscores. -/
def spellings : List (Charset × List String) :=
  [(utf8, ["utf_8", "utf8", "u8", "utf", "utf8_ucs2", "utf8_ucs4", "cp65001"]),
   (utf8Marked, ["utf_8_sig"]),
   (latin1, ["latin_1", "latin1", "latin", "l1", "iso8859", "iso8859_1", "iso_8859_1", "8859",
     "cp819", "csisolatin1", "ibm819", "iso_8859_1_1987", "iso_ir_100"]),
   (ascii, ["ascii", "us_ascii", "646", "ansi_x3.4_1968", "ansi_x3_4_1968", "ansi_x3.4_1986",
     "cp367", "csascii", "ibm367", "iso646_us", "iso_646.irv_1991", "iso_ir_6", "us"]),
   (utf16, ["utf_16", "utf16", "u16"]),
   (utf16Little, ["utf_16_le", "utf_16le", "unicodelittleunmarked"]),
   (utf16Big, ["utf_16_be", "utf_16be", "unicodebigunmarked"]),
   (windows1252, ["cp1252", "1252", "windows_1252"])]

/-- Lower case, one underscore for every run of separators, none in front. `gap` says that a
separator is due before the next character kept. -/
def foldName (gap started : Bool) : Text → Text
  | [] => []
  | c :: r =>
    if c.isAlphanum || c == '.' then
      if gap && started then '_' :: c.toLower :: foldName false true r
      else c.toLower :: foldName false true r
    else foldName true started r

def ofName? (name : String) : Option Charset :=
  if name == "locale" then some utf8
  else
    let key := String.ofList (foldName false false name.toList)
    (spellings.find? fun s => s.2.contains key).map (·.1)

/-- The name that decoding errors give. -/
def label : Charset → String
  | utf8 | utf8Marked => "utf-8"
  | latin1 => "latin-1"
  | ascii => "ascii"
  | utf16 => "utf-16"
  | utf16Little => "utf-16-le"
  | utf16Big => "utf-16-be"
  | windows1252 => "charmap"

end Charset

end Excerpt
