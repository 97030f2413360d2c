import Excerpt.Settings
import Excerpt.Feed

/-!
Opening the file behind a location and going to its line. A handle counts as open from the moment it
is made until it is closed.
-/
namespace Excerpt

structure Handle where
  number : Nat
  feed : Feed

/-- The character set a setting asks for; none asked for means UTF-8. -/
def charsetOf : Json → Except Fault Charset
  | .null => .ok .utf8
  | .str name =>
    if Settings.hasNul name then .error .nulInCharset
    else
      match Charset.ofName? name with
      | some cs => .ok cs
      | none => .error (.unknownCharset name)
  | v => .error (.encodingKind v.kindName)

/-- Why a read failed. -/
def readFault (file : String) (f : DecodeFault) : Fault :=
  if f.reason == .missingMark then .missingMark else .unreadable file (.undecodable f.reason)

/-- A setting of the wrong kind is noticed before the file is looked for, an unknown name after. -/
def encodingMisfit : Json → Option Fault
  | .null => none
  | .str name => if Settings.hasNul name then some .nulInCharset else none
  | v => some (.encodingKind v.kindName)

namespace Source

def openText (file : String) (encoding : Json) : Op Handle := do
  if let some e := encodingMisfit encoding then throw e
  if Settings.hasNul file then throw .nulInPath
  match (← Op.tree).readFile file with
  | .error e =>
    Op.note (.openFailed file e)
    throw (.unreadable file (.system e))
  | .ok bytes =>
    let cs ← Op.ofExcept (charsetOf encoding)
    let d ← get
    set d.opened
    Op.note (.opened file)
    return ⟨d.nextHandle, Feed.ofBytes cs bytes⟩

def close (h : Handle) : Op Unit := modify (·.closed h.number)

end Source

/-- How a walk over the lines above a location ends. -/
inductive Approach where
  | reached (feed : Feed)
  /-- The file has fewer lines. -/
  | short (read : Nat)
  | stuck (fault : DecodeFault)

/-- The next `n` lines of a feed, and how that went; `read` lines came before. -/
def linesAbove (n read : Nat) : Feed → List Text × Approach
  | ⟨lines, ending⟩ => go n read ending lines
where
  go (n read : Nat) (ending : Ending) : List Text → List Text × Approach
    | lines =>
      match n, lines with
      | 0, lines => ([], .reached ⟨lines, ending⟩)
      | _ + 1, [] =>
        match ending with
        | .done => ([], .short read)
        | .stuck f _ => ([], .stuck f)
      | n + 1, line :: rest =>
        let (above, how) := go n (read + 1) ending rest
        (line :: above, how)

/-- What is left once the chunk that cannot be decoded has been tried. -/
def Feed.pastStuck (fault : DecodeFault) : Piece → Feed
  | .ok t => ⟨Excerpt.lines t, .done⟩
  | .error e => ⟨[], .stuck e (.error fault)⟩

/-- One more line, empty at the end of the file. -/
def Feed.next (f : Feed) : Except DecodeFault Text × Feed :=
  match f.lines, f.ending with
  | line :: rest, ending => (.ok line, ⟨rest, ending⟩)
  | [], .done => (.ok [], f)
  | [], .stuck e rest => (.error e, Feed.pastStuck e rest)

namespace Source

/-- The lines above a location, and the feed from its line on. -/
def approach (h : Handle) (loc : Location) : Op (List Text × Handle) :=
  match linesAbove (loc.line - 1) 0 h.feed with
  | (above, .reached feed) => pure (above, { h with feed })
  | (_, .short read) => do
    Op.note (.fileTooShort loc read)
    throw (.endOfInput loc.file loc.line read)
  | (_, .stuck f) => throw (readFault loc.file f)

/-- Opens the file of a location and goes to its line. A handle that cannot be placed is closed. -/
def openAt (loc : Location) : Op Handle := do
  let settings ← Settings.load Settings.defaultPath
  let h ← openText loc.file settings.encoding
  fun d =>
    match approach h loc d with
    | (.ok (_, h), d) => (.ok h, d)
    | (.error e, d) => (do close h; throw e : Op Handle) d

/-- Runs `body` with the file opened at a location, and closes it however that ends. -/
def withPlaced {α : Type} (loc : Location) (body : Handle → Op α) : Op α := do
  let h ← openAt loc
  Op.closing (body h) (close h)

/-- As `openAt`, when there may be no location: then nothing is opened. -/
def openAt? : Option Location → Op (Option Handle)
  | none => pure none
  | some loc => return some (← openAt loc)

/-- As `withPlaced`, when there may be no location: then `body` runs without a handle. -/
def withPlaced? {α : Type} (loc : Option Location) (body : Option Handle → Op α) : Op α :=
  match loc with
  | none => body none
  | some loc => withPlaced loc fun h => body (some h)

end Source

end Excerpt
