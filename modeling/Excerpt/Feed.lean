import Excerpt.Charset.Decode
import Excerpt.Text.Lines

/-!
A file as its reader sees it: the lines it hands out one by one, and how they end. Bytes are decoded
in chunks of a fixed size, so an undecodable byte stops the first line that needs its chunk, and
bytes in a chunk that no line needs do no harm.
-/
namespace Excerpt

/-- A chunk's text, or why it has none. -/
abbrev Piece := Except DecodeFault Text

/-- How a feed ends: at the end of the file, or at a chunk that cannot be decoded, after which the
rest of the file may still be read in one go. -/
inductive Ending where
  | done
  | stuck (fault : DecodeFault) (rest : Piece)

structure Feed where
  lines : List Text
  ending : Ending

def chunkSize : Nat := 8192

def chunks : Nat → Bytes → List Bytes
  | 0, _ => []
  | n + 1, b => if b.isEmpty then [] else b.take chunkSize :: chunks n (b.drop chunkSize)

/-- A carriage return at the end of a chunk waits for the next one, where a line feed may follow. -/
def holdReturn (t : Text) : Text × Bool :=
  if t.getLast? == some '\r' then (t.dropLast, true) else (t, false)

def giveBack (held : Bool) (t : Text) : Text := if held then '\r' :: t else t

/-- Decodes chunk after chunk and then the end of the input. -/
def decodeChunks (d : Decoder) (before : Nat) (held : Bool) : List Bytes → List Piece
  | [] => [(d.feed before true []).1.map (giveBack held)]
  | b :: rest =>
    match d.feed before false b with
    | (.ok t, d) =>
      let (t, held) := holdReturn (giveBack held t)
      .ok t :: decodeChunks d (before + b.length) held rest
    | (.error e, d) => .error e :: decodeChunks d (before + b.length) held rest

def pieces (cs : Charset) (b : Bytes) : List Piece :=
  decodeChunks { charset := cs } 0 false (chunks (b.length / chunkSize + 1) b)

/-- All that the pieces hold, when every one of them is text. -/
def joinPieces : List Piece → Piece
  | [] => .ok []
  | .ok t :: rest => (joinPieces rest).map (t ++ ·)
  | .error e :: _ => .error e

/-- The lines that end inside `t`, and the line it leaves open. -/
def closedLines : Text → List Text × Text
  | [] => ([], [])
  | '\n' :: r => let (ls, t) := closedLines r; (['\n'] :: ls, t)
  | '\r' :: '\n' :: r => let (ls, t) := closedLines r; (['\r', '\n'] :: ls, t)
  | '\r' :: r => let (ls, t) := closedLines r; (['\r'] :: ls, t)
  | c :: r =>
    match closedLines r with
    | ([], t) => ([], c :: t)
    | (line :: ls, t) => ((c :: line) :: ls, t)

namespace Feed

def prepend (ls : List Text) (f : Feed) : Feed := { f with lines := ls ++ f.lines }

/-- The feed of a sequence of pieces, after text that no terminator has closed yet. -/
def ofPieces (opened : Text) : List Piece → Feed
  | [] => ⟨Excerpt.lines opened, .done⟩
  | .ok t :: rest =>
    let (ls, opened) := closedLines (opened ++ t)
    (ofPieces opened rest).prepend ls
  | [.error e] => ⟨[], .stuck e (.error e)⟩
  | .error e :: rest => ⟨[], .stuck e (joinPieces rest)⟩

/-- The feed of a file's bytes. -/
def ofBytes (cs : Charset) (b : Bytes) : Feed := ofPieces [] (pieces cs b)

/-- All that is left, read in one go. -/
def rest (f : Feed) : Piece :=
  match f.ending with
  | .done => .ok f.lines.flatten
  | .stuck e _ => .error e

end Feed

end Excerpt
