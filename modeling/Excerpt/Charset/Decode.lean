import Excerpt.Charset.Basic

/-!
Decoding bytes piece by piece. A decoder keeps the bytes of a character that is cut off and goes on
with them when more input comes; only at the end of the input is a cut-off character an error.
-/
namespace Excerpt

/-- Why bytes are not text. -/
inductive DecodeReason where
  | invalidStart
  | invalidContinuation
  | unexpectedEnd
  | outsideAscii
  | truncated
  | undefined
  | illegalEncoding
  | illegalSurrogate
  | missingMark
deriving DecidableEq, Repr

def DecodeReason.text : DecodeReason → String
  | invalidStart => "invalid start byte"
  | invalidContinuation => "invalid continuation byte"
  | unexpectedEnd => "unexpected end of data"
  | outsideAscii => "ordinal not in range(128)"
  | truncated => "truncated data"
  | undefined => "character maps to <undefined>"
  | illegalEncoding => "illegal encoding"
  | illegalSurrogate => "illegal UTF-16 surrogate"
  | missingMark => "UTF-16 stream does not start with BOM"

/-- The bytes from `start` to before `stop` cannot be decoded; `first` is the first of them. -/
structure DecodeFault where
  charset : Charset
  reason : DecodeReason
  start : Nat
  stop : Nat
  first : Nat
deriving DecidableEq, Repr

/-- The text before an undecodable place, and what is wrong there: the reason, how many bytes came
before, and how many are involved. -/
structure Stuck where
  reason : DecodeReason
  offset : Nat
  size : Nat

/-- Decoded characters with the bytes kept for later, or the place where decoding stops. -/
abbrev Decoded := Except Stuck (Text × Bytes)

def Decoded.cons (size : Nat) (c : Char) : Decoded → Decoded
  | .ok (t, kept) => .ok (c :: t, kept)
  | .error s => .error { s with offset := s.offset + size }

/-- How many continuation bytes a lead byte asks for, and the range of the first of them. -/
def utf8Lead (b : Nat) : Option (Nat × Nat × Nat) :=
  if 0xC2 ≤ b && b ≤ 0xDF then some (1, 0x80, 0xBF)
  else if b == 0xE0 then some (2, 0xA0, 0xBF)
  else if b == 0xED then some (2, 0x80, 0x9F)
  else if 0xE1 ≤ b && b ≤ 0xEF then some (2, 0x80, 0xBF)
  else if b == 0xF0 then some (3, 0x90, 0xBF)
  else if 0xF1 ≤ b && b ≤ 0xF3 then some (3, 0x80, 0xBF)
  else if b == 0xF4 then some (3, 0x80, 0x8F)
  else none

def isContinuation (b : UInt8) : Bool := 0x80 ≤ b.toNat && b.toNat ≤ 0xBF

/-- A cut-off character: kept while more input may come, an error at the end. -/
def cutOff (final : Bool) (reason : DecodeReason) (kept : Bytes) : Decoded :=
  if final then .error ⟨reason, 0, kept.length⟩ else .ok ([], kept)

def decodeUtf8 (final : Bool) : Bytes → Decoded
  | [] => .ok ([], [])
  | a :: r =>
    let n := a.toNat
    if n < 0x80 then (decodeUtf8 final r).cons 1 (Char.ofNat n)
    else
      match utf8Lead n with
      | none => .error ⟨.invalidStart, 0, 1⟩
      | some (more, lo, hi) =>
        match r with
        | [] => cutOff final .unexpectedEnd [a]
        | b :: r₁ =>
          if !(lo ≤ b.toNat && b.toNat ≤ hi) then .error ⟨.invalidContinuation, 0, 1⟩
          else if more == 1 then
            (decodeUtf8 final r₁).cons 2 (Char.ofNat (n % 32 * 64 + b.toNat % 64))
          else
            match r₁ with
            | [] => cutOff final .unexpectedEnd [a, b]
            | c :: r₂ =>
              if !isContinuation c then .error ⟨.invalidContinuation, 0, 2⟩
              else if more == 2 then
                (decodeUtf8 final r₂).cons 3
                  (Char.ofNat ((n % 16 * 64 + b.toNat % 64) * 64 + c.toNat % 64))
              else
                match r₂ with
                | [] => cutOff final .unexpectedEnd [a, b, c]
                | d :: r₃ =>
                  if !isContinuation d then .error ⟨.invalidContinuation, 0, 3⟩
                  else
                    (decodeUtf8 final r₃).cons 4
                      (Char.ofNat (((n % 8 * 64 + b.toNat % 64) * 64 + c.toNat % 64) * 64 +
                        d.toNat % 64))

/-- A two-byte unit in either byte order. -/
def unit16 (big : Bool) (a b : UInt8) : Nat :=
  if big then a.toNat * 256 + b.toNat else b.toNat * 256 + a.toNat

def decodeUtf16 (final big : Bool) : Bytes → Decoded
  | [] => .ok ([], [])
  | [a] => cutOff final .truncated [a]
  | a :: b :: r =>
    let n := unit16 big a b
    if n < 0xD800 || 0xE000 ≤ n then (decodeUtf16 final big r).cons 2 (Char.ofNat n)
    else if 0xDC00 ≤ n then .error ⟨.illegalEncoding, 0, 2⟩
    else
      match r with
      | c :: d :: r₁ =>
        let m := unit16 big c d
        if 0xDC00 ≤ m && m < 0xE000 then
          (decodeUtf16 final big r₁).cons 4
            (Char.ofNat (0x10000 + (n - 0xD800) * 0x400 + (m - 0xDC00)))
        else .error ⟨.illegalSurrogate, 0, 2⟩
      | kept => cutOff final .unexpectedEnd (a :: b :: kept)

def decodeAscii : Bytes → Decoded
  | [] => .ok ([], [])
  | a :: r =>
    if a.toNat < 128 then (decodeAscii r).cons 1 (Char.ofNat a.toNat)
    else .error ⟨.outsideAscii, 0, 1⟩

/-- The characters of `0x80` to `0x9F`; zero where there is none. -/
def windows1252High : List Nat :=
  [0x20AC, 0, 0x201A, 0x0192, 0x201E, 0x2026, 0x2020, 0x2021, 0x02C6, 0x2030, 0x0160, 0x2039,
   0x0152, 0, 0x017D, 0, 0, 0x2018, 0x2019, 0x201C, 0x201D, 0x2022, 0x2013, 0x2014, 0x02DC, 0x2122,
   0x0161, 0x203A, 0x0153, 0, 0x017E, 0x0178]

/-- The character of a byte, where there is one. -/
def windows1252Char? (n : Nat) : Option Char :=
  if 0x80 ≤ n && n < 0xA0 then
    let m := windows1252High.getD (n - 0x80) 0
    if m == 0 then none else some (Char.ofNat m)
  else some (Char.ofNat n)

def decodeWindows1252 : Bytes → Decoded
  | [] => .ok ([], [])
  | a :: r =>
    match windows1252Char? a.toNat with
    | none => .error ⟨.undefined, 0, 1⟩
    | some c => (decodeWindows1252 r).cons 1 c

/-- What a decoder has learned from a byte order mark. -/
inductive Mark where
  | unseen
  | none
  | little
  | big
deriving DecidableEq, Repr

/-- The state between two inputs: bytes kept, and the mark. -/
structure Decoder where
  charset : Charset
  kept : Bytes := []
  mark : Mark := .unseen

def utf8Mark : Bytes := [0xEF, 0xBB, 0xBF]

def Decoded.skip (n : Nat) : Decoded → Decoded
  | .ok p => .ok p
  | .error s => .error { s with offset := s.offset + n }

/-- Decodes the bytes kept and the new ones together. -/
def Decoder.run (d : Decoder) (final : Bool) (input : Bytes) : Decoded × Mark :=
  let all := d.kept ++ input
  match d.charset with
  | .utf8 => (decodeUtf8 final all, d.mark)
  | .latin1 => (.ok (all.map fun b => Char.ofNat b.toNat, []), d.mark)
  | .ascii => (decodeAscii all, d.mark)
  | .windows1252 => (decodeWindows1252 all, d.mark)
  | .utf16Little => (decodeUtf16 final false all, d.mark)
  | .utf16Big => (decodeUtf16 final true all, d.mark)
  | .utf8Marked =>
    if d.mark != .unseen then (decodeUtf8 final all, d.mark)
    else if all.length < 3 then
      if all.isPrefixOf utf8Mark then (.ok ([], all), .unseen) else (decodeUtf8 final all, .none)
    else if utf8Mark.isPrefixOf all then ((decodeUtf8 final (all.drop 3)).skip 3, .none)
    else (decodeUtf8 final all, .none)
  | .utf16 =>
    match d.mark with
    | .little => (decodeUtf16 final false all, .little)
    | .big => (decodeUtf16 final true all, .big)
    | _ =>
      match all with
      | 0xFF :: 0xFE :: r => ((decodeUtf16 final false r).skip 2, .little)
      | 0xFE :: 0xFF :: r => ((decodeUtf16 final true r).skip 2, .big)
      | _ =>
        match decodeUtf16 final false all with
        | .ok (t, kept) =>
          if all.length ≥ 2 && kept.length ≤ all.length - 2 then
            (.error ⟨.missingMark, 0, 0⟩, .unseen)
          else (.ok (t, kept), .unseen)
        | e => (e, .unseen)

/-- Feeds a decoder. `before` is the number of bytes that earlier inputs held. An error leaves the
decoder as it was. -/
def Decoder.feed (d : Decoder) (before : Nat) (final : Bool) (input : Bytes) :
    Except DecodeFault Text × Decoder :=
  match d.run final input with
  | (.ok (t, kept), mark) => (.ok t, { d with kept, mark })
  | (.error s, _) =>
    let start := before - d.kept.length + s.offset
    let first := ((d.kept ++ input).getD s.offset 0).toNat
    (.error ⟨d.charset, s.reason, start, start + s.size, first⟩, d)

/-- Decodes a whole file at once. -/
def Charset.decode (cs : Charset) (b : Bytes) : Except DecodeFault Text :=
  (Decoder.feed { charset := cs } 0 true b).1

def DecodeFault.message (f : DecodeFault) : String :=
  if f.reason == .missingMark then f.reason.text
  else
    let place :=
      if f.stop == f.start + 1 then
        "byte 0x" ++ String.ofList (byteHex f.first) ++ " in position " ++ toString f.start
      else "bytes in position " ++ toString f.start ++ "-" ++ toString (f.stop - 1)
    "'" ++ f.charset.label ++ "' codec can't decode " ++ place ++ ": " ++ f.reason.text
where
  nibble (n : Nat) : Char := if n < 10 then Char.ofNat (48 + n) else Char.ofNat (87 + n)
  byteHex (n : Nat) : Text := [nibble (n / 16), nibble (n % 16)]

end Excerpt
