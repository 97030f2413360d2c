import Excerpt.Proofs.JsonText

/-! The steps of the readers of JSON, one equation for each: a string by the piece that stands first in
it, a value by its first character, items and fields by what follows an entry. -/
namespace Excerpt.Json

/-! ### Strings -/

/-- Four digits with more behind them. -/
def unit? (t : Text) : Option (ℕ × Text) := (hex4? t).filter fun u => !u.2.isEmpty

/-- What is left to read of a character after its first four digits, `n`: when they are a half of a
pair and four more digits follow, these decide. -/
def secondUnit (n : ℕ) : Text → Except Problem (Option Char × Text)
  | '\\' :: 'u' :: r =>
    if isHighSurrogate n then
      match unit? r with
      | none => .error .unicodeEscape
      | some (m, r') =>
        if isLowSurrogate m then
          .ok (some (Char.ofNat (0x10000 + (n - 0xD800) * 0x400 + (m - 0xDC00))), r')
        else .ok (some (charOf n), '\\' :: 'u' :: r)
    else .ok (some (charOf n), '\\' :: 'u' :: r)
  | r => .ok (some (charOf n), r)

/-- What stands first in a string: a character in one of its spellings, or nothing but the closing
quote. -/
def piece : Text → Except Problem (Option Char × Text)
  | [] | ['\\'] => .error .unterminated
  | '"' :: r => .ok (none, r)
  | '\\' :: 'u' :: r =>
    match unit? r with
    | none => .error .unicodeEscape
    | some (n, r) => secondUnit n r
  | '\\' :: e :: r =>
    match simpleEscape? e with
    | none => .error .escape
    | some c => .ok (some c, r)
  | c :: r => if c.toNat < 32 then .error .control else .ok (some c, r)

theorem secondUnit_lone {n : ℕ} {r : Text}
    (h : ∀ r', isHighSurrogate n = true → r ≠ '\\' :: 'u' :: r') :
    secondUnit n r = .ok (some (charOf n), r) := by
  unfold secondUnit
  split
  · next r' => rw [if_neg fun hhigh => h r' hhigh rfl]
  · rfl

theorem piece_escape {e : Char} (he : e ≠ 'u') (r : Text) :
    piece ('\\' :: e :: r) =
      match simpleEscape? e with
      | none => .error .escape
      | some c => .ok (some c, r) := by
  rw [piece]
  simpa using he

theorem piece_plain {c : Char} (hquote : c ≠ '"') (hback : c ≠ '\\') (r : Text) :
    piece (c :: r) = if c.toNat < 32 then .error .control else .ok (some c, r) := by
  simp [piece, hback]

/-- The steps that reading a string can take at the text `t`, by its first piece. -/
inductive StringStep (start fuel : ℕ) (acc t : Text) : Except Fault (Text × Cursor) → Prop
  | fault {problem : Problem} (p : ℕ) (h : piece t = .error problem) :
      StringStep start fuel acc t (fail problem p)
  | quote {r : Text} (p : ℕ) (h : piece t = .ok (none, r)) :
      StringStep start fuel acc t (.ok (acc, ⟨r, p⟩))
  | char {c : Char} {r : Text} (p : ℕ) (h : piece t = .ok (some c, r)) :
      StringStep start fuel acc t (stringBody start fuel (c :: acc) ⟨r, p⟩)

theorem hex4?_eq_some {t r : Text} {n : ℕ} (h : hex4? t = some (n, r)) :
    ∃ a b c d, t = a :: b :: c :: d :: r := by
  match t, h with
  | a :: b :: c :: d :: rest, h =>
    simp only [hex4?, Option.bind_eq_bind, Option.bind_eq_some_iff, Option.some.injEq,
      Prod.mk.injEq] at h
    obtain ⟨_, _, _, _, _, _, _, _, -, rfl⟩ := h
    exact ⟨a, b, c, d, rfl⟩

theorem unit?_eq_some {t r : Text} {n : ℕ} :
    unit? t = some (n, r) ↔ hex4? t = some (n, r) ∧ 4 < t.length := by
  rw [unit?, Option.filter_eq_some_iff]
  apply and_congr_right
  intro h
  obtain ⟨a, b, c, d, rfl⟩ := hex4?_eq_some h
  cases r <;> simp

theorem unit?_eq_none {t : Text} : unit? t = none ↔ hex4? t = none ∨ t.length ≤ 4 := by
  rcases hu : unit? t with _ | ⟨n, r⟩
  · refine iff_of_true rfl ?_
    by_contra hno
    rw [not_or, ← ne_eq, Option.ne_none_iff_exists'] at hno
    obtain ⟨⟨⟨n, r⟩, hn⟩, hlen⟩ := hno
    rw [unit?_eq_some.mpr ⟨hn, Nat.not_le.mp hlen⟩] at hu
    cases hu
  · obtain ⟨hn, hlen⟩ := unit?_eq_some.mp hu
    simp [hn, Nat.not_le.mpr hlen]

section
variable (start : ℕ) {fuel : ℕ} (acc : Text) (p : ℕ) {r r₁ r₂ : Text} {n : ℕ}

theorem stringStep_half (hu : unit? r = some (n, '\\' :: 'u' :: r₂))
    (hhigh : isHighSurrogate n = true) (hfuel : 0 < fuel) :
    StringStep start fuel acc ('\\' :: 'u' :: r)
      (stringBody start (fuel + 1) acc ⟨'\\' :: 'u' :: r, p⟩) := by
  obtain ⟨hhex, hlen⟩ := unit?_eq_some.mp hu
  have hpiece : piece ('\\' :: 'u' :: r) = secondUnit n ('\\' :: 'u' :: r₂) := by
    simp only [piece, hu]
  rw [stringBody, if_neg (Nat.not_le.mpr hlen), hhex]
  simp only [hhigh, List.length_cons, Bool.true_and]
  by_cases hlong : r₂.length + 1 + 1 > 6
  · -- There is room for four more digits, which make a pair of the two or leave the first half alone.
    rw [decide_eq_true hlong]
    rcases hhex₂ : hex4? r₂ with _ | ⟨m, r₃⟩
    · simp only [hhex₂]
      refine .fault (p + 7) ?_
      simp only [hpiece, secondUnit, hhigh, if_true, unit?_eq_none.mpr (Or.inl hhex₂)]
    · have hu₂ : unit? r₂ = some (m, r₃) := unit?_eq_some.mpr ⟨hhex₂, by omega⟩
      simp only [hhex₂]
      split_ifs with hlow
      · refine .char (p + 12) ?_
        simp only [hpiece, secondUnit, hhigh, hu₂, hlow, if_true]
      · refine .char (p + 6) ?_
        simp only [hpiece, secondUnit, hhigh, hu₂, hlow, if_true]
        rfl
  · -- The text ends before that: the first half is taken alone, and the next step fails.
    have hshort : r₂.length ≤ 4 := by omega
    obtain ⟨fuel, rfl⟩ := Nat.exists_eq_succ_of_ne_zero hfuel.ne'
    rw [decide_eq_false hlong]
    rw [stringBody, if_pos hshort]
    refine .fault _ ?_
    simp only [hpiece, secondUnit, hhigh, if_true, unit?_eq_none.mpr (Or.inr hshort)]

theorem stringStep_lone (hu : unit? r = some (n, r₁))
    (hlone : ∀ r₂, isHighSurrogate n = true → r₁ ≠ '\\' :: 'u' :: r₂) :
    StringStep start fuel acc ('\\' :: 'u' :: r)
      (stringBody start (fuel + 1) acc ⟨'\\' :: 'u' :: r, p⟩) := by
  obtain ⟨hhex, hlen⟩ := unit?_eq_some.mp hu
  have hpiece : piece ('\\' :: 'u' :: r) = .ok (some (charOf n), r₁) := by
    simp only [piece, hu, secondUnit_lone hlone]
  rw [stringBody, if_neg (Nat.not_le.mpr hlen), hhex]
  dsimp only
  split
  · next r₂ hpair =>
    rw [Bool.and_eq_true] at hpair
    exact absurd rfl (hlone r₂ hpair.1)
  · exact .char (p + 6) hpiece

theorem stringStep_unit (hfuel : 0 < fuel) :
    StringStep start fuel acc ('\\' :: 'u' :: r)
      (stringBody start (fuel + 1) acc ⟨'\\' :: 'u' :: r, p⟩) := by
  rcases hu : unit? r with _ | ⟨n, r₁⟩
  · have hpiece : piece ('\\' :: 'u' :: r) = .error .unicodeEscape := by
      simp only [piece, hu]
    rw [stringBody]
    split_ifs with hlen
    · exact .fault (p + 1) hpiece
    · rw [(unit?_eq_none.mp hu).resolve_right hlen]
      exact .fault (p + 1) hpiece
  · by_cases hhalf : isHighSurrogate n = true ∧ ∃ r₂, r₁ = '\\' :: 'u' :: r₂
    · obtain ⟨hhigh, r₂, rfl⟩ := hhalf
      exact stringStep_half start acc p hu hhigh hfuel
    · exact stringStep_lone start acc p hu fun r₂ hhigh heq => hhalf ⟨hhigh, r₂, heq⟩

theorem stringStep {t : Text} (hfuel : t.length ≤ fuel) :
    StringStep start fuel acc t (stringBody start (fuel + 1) acc ⟨t, p⟩) := by
  -- The cases are those of `piece`: by the first character, and behind a backslash by the second.
  rcases t with _ | ⟨c, t⟩
  · exact .fault start rfl
  by_cases hquote : c = '"'
  · subst hquote
    exact .quote (p + 1) rfl
  by_cases hback : c = '\\'
  · subst hback
    rcases t with _ | ⟨e, t⟩
    · exact .fault start rfl
    by_cases hunit : e = 'u'
    · subst hunit
      simp only [List.length_cons] at hfuel
      exact stringStep_unit start acc p (by omega)
    rcases hescape : simpleEscape? e with _ | d
    · have hbody : stringBody start (fuel + 1) acc ⟨'\\' :: e :: t, p⟩ = fail .escape p := by
        simp [stringBody, hescape]
      rw [hbody]
      exact .fault p (by rw [piece_escape hunit, hescape])
    · rw [stringBody_escape start fuel acc t p hunit hescape]
      exact .char (p + 2) (by rw [piece_escape hunit, hescape])
  · have hpiece := piece_plain hquote hback t
    by_cases hcontrol : c.toNat < 32
    · have hbody : stringBody start (fuel + 1) acc ⟨c :: t, p⟩ = fail .control p := by
        simp [stringBody, hback, hcontrol]
      rw [hbody]
      exact .fault p (by rw [hpiece, if_pos hcontrol])
    · rw [stringBody_plain start fuel acc t p hquote hback (Nat.not_lt.mp hcontrol)]
      exact .char (p + 1) (by rw [hpiece, if_neg hcontrol])

end

/-! ### Words and numbers -/

/-- A word, or else a number. -/
def scalar (c : Cursor) : Except Fault (Json × Cursor) :=
  match word? c with
  | some r => .ok r
  | none => number c

theorem word?_eq (c : Cursor) :
    word? c = (words.find? fun w => startsWith w.1 c.rest).map fun w => (w.2, c.advance w.1.length) := by
  rw [word?]
  generalize words = ws
  induction ws with
  | nil => rfl
  | cons w ws ih =>
    obtain ⟨w, v⟩ := w
    rw [List.findSome?_cons, List.find?_cons, ih]
    dsimp only
    cases startsWith w c.rest <;> rfl

/-! ### Values by their first character -/

/-- Opens an array or an object. -/
def isOpening (c : Char) : Bool := c == '[' || c == '{'

/-- An array or an object behind its opening bracket and the blanks after that: at once closed, or
with what `inner` reads. -/
def opened (close : Char) (empty : Json) (inner : Cursor → Except Fault (Json × Cursor)) (c : Cursor) :
    Except Fault (Json × Cursor) :=
  if c.rest.head? = some close then .ok (empty, c.advance 1) else inner c

/-- What follows an entry and the blanks after it: the closing bracket, or a comma and more. -/
def entryEnd {α : Type} (close : Char) (all : α) (more : Cursor → Except Fault (α × Cursor))
    (c : Cursor) : Except Fault (α × Cursor) :=
  if c.rest.head? = some close then .ok (all, c.advance 1)
  else if c.rest.head? = some ',' then more (c.advance 1).skipBlank
  else fail .comma c.position

section
variable (fuel depth : ℕ) (t : Text) (p : ℕ)

theorem value_scalar {c : Cursor} (h : ∀ b ∈ c.rest.head?, b ≠ '"' ∧ isOpening b = false) :
    value (fuel + 1) depth c = scalar c := by
  rw [value]
  split
  · next heq => exact absurd rfl (h '"' (by simp [heq])).1
  · next heq => exact absurd (h '[' (by simp [heq])).2 (by decide)
  · next heq => exact absurd (h '{' (by simp [heq])).2 (by decide)
  · rfl

theorem value_string : value (fuel + 1) depth ⟨'"' :: t, p⟩ =
    (string ⟨t, p + 1⟩ >>= fun r => .ok (.str r.1, r.2)) := rfl

theorem value_bracket : value (fuel + 1) depth ⟨'[' :: t, p⟩ =
    if maxDepth ≤ depth then fail .deepArray p
    else
      opened ']' (.arr []) (fun c => items fuel (depth + 1) [] c >>= fun r => .ok (.arr r.1, r.2))
        (Cursor.skipBlank ⟨t, p + 1⟩) := by
  have hopen : Cursor.advance ⟨'[' :: t, p⟩ 1 = ⟨t, p + 1⟩ := rfl
  simp only [value, hopen, opened]
  generalize Cursor.skipBlank ⟨t, p + 1⟩ = c
  rcases c with ⟨_ | ⟨b, r⟩, q⟩
  · rfl
  · by_cases hb : b = ']'
    · subst hb
      rfl
    · simp [hb]

theorem value_brace : value (fuel + 1) depth ⟨'{' :: t, p⟩ =
    if maxDepth ≤ depth then fail .deepObject p
    else
      opened '}' (.obj []) (fun c => fields fuel (depth + 1) [] c >>= fun r => .ok (.obj r.1, r.2))
        (Cursor.skipBlank ⟨t, p + 1⟩) := by
  have hopen : Cursor.advance ⟨'{' :: t, p⟩ 1 = ⟨t, p + 1⟩ := rfl
  simp only [value, hopen, opened]
  generalize Cursor.skipBlank ⟨t, p + 1⟩ = c
  rcases c with ⟨_ | ⟨b, r⟩, q⟩
  · rfl
  · by_cases hb : b = '}'
    · subst hb
      rfl
    · simp [hb]

theorem items_succ (acc : List Json) (c : Cursor) :
    items (fuel + 1) depth acc c =
      (value fuel depth c >>= fun r =>
        entryEnd ']' (r.1 :: acc).reverse (items fuel depth (r.1 :: acc)) r.2.skipBlank) := by
  rw [items]
  congr 1
  funext r
  obtain ⟨v, c⟩ := r
  simp only [entryEnd]
  rcases c.skipBlank with ⟨_ | ⟨b, r⟩, q⟩
  · rfl
  · by_cases hb : b = ']'
    · subst hb
      rfl
    · by_cases hb' : b = ','
      · subst hb'
        rfl
      · simp [hb, hb']

theorem fields_succ (acc : List (String × Json)) (c : Cursor) :
    fields (fuel + 1) depth acc c =
      if c.rest.head? = some '"' then
        string (c.advance 1) >>= fun s =>
          if s.2.skipBlank.rest.head? = some ':' then
            value fuel depth (s.2.skipBlank.advance 1).skipBlank >>= fun r =>
              entryEnd '}' (put s.1 r.1 acc) (fields fuel depth (put s.1 r.1 acc)) r.2.skipBlank
          else fail .colon s.2.skipBlank.position
      else fail .name c.position := by
  rcases c with ⟨_ | ⟨b, r⟩, q⟩
  · rfl
  by_cases hquote : b = '"'
  swap
  · simp [fields, hquote]
  subst hquote
  rw [fields]
  simp only [List.head?_cons, if_true]
  congr 1
  funext r
  obtain ⟨key, c⟩ := r
  dsimp only
  rcases c.skipBlank with ⟨_ | ⟨b, r⟩, q⟩
  · rfl
  by_cases hb : b = ':'
  swap
  · simp [hb]
  subst hb
  rw [List.head?_cons, if_pos rfl]
  refine congrArg (fun more => value fuel depth (Cursor.skipBlank ⟨r, q + 1⟩) >>= more)
    (funext fun x => ?_)
  obtain ⟨v, c⟩ := x
  simp only [entryEnd]
  rcases c.skipBlank with ⟨_ | ⟨b, r⟩, q⟩
  · rfl
  · by_cases hb : b = '}'
    · subst hb
      rfl
    · by_cases hb' : b = ','
      · subst hb'
        rfl
      · simp [hb, hb']

end

/-! ### The whole text -/

/-- The mark that a text may not start with. -/
def IsMarked (t : Text) : Prop := ∃ c ∈ t.head?, c.toNat = 0xFEFF

theorem read_marked {t : Text} (h : IsMarked t) : read t = .error ⟨.byteOrderMark, 0⟩ := by
  obtain ⟨c, hc, hmark⟩ := h
  obtain ⟨r, rfl⟩ := List.head?_eq_some_iff.mp hc
  simp [read, hmark]

theorem read_unmarked {t : Text} (h : ¬ IsMarked t) :
    read t = (value (2 * t.length + 1) 0 (Cursor.skipBlank ⟨t, 0⟩) >>= fun r =>
      if r.2.skipBlank.rest.isEmpty then .ok r.1 else .error ⟨.extra, r.2.skipBlank.position⟩) := by
  cases t with
  | nil => rfl
  | cons c r =>
    have hmark : c.toNat ≠ 0xFEFF := fun hmark => h ⟨c, rfl, hmark⟩
    simp only [read, hmark, beq_iff_eq, if_false]
    rfl

end Excerpt.Json
