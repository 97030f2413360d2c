import Excerpt.Settings
import Mathlib.Algebra.Order.Ring.Int

/-! JSON strings and whole numbers read back from what the printer writes for them: every character
from its escape, in two halves beyond the basic plane, and every number from its decimal digits. -/
namespace Excerpt.Json

theorem hexValue?_hexDigit : ∀ n, n < 16 → hexValue? (hexDigit n) = some n := by decide

theorem hex4?_hex {n : ℕ} (h : n < 0x10000) (r : Text) : hex4? (hex 4 n ++ r) = some (n, r) := by
  have hdigit (m : ℕ) : hexValue? (hexDigit (m % 16)) = some (m % 16) :=
    hexValue?_hexDigit _ (Nat.mod_lt _ (by omega))
  simp only [hex, List.nil_append, List.cons_append, hex4?, hdigit, bind, Option.bind]
  congr 2
  omega

theorem length_hex (w n : ℕ) : (hex w n).length = w := by
  induction w generalizing n with
  | zero => rfl
  | succ w ih => simp [hex, ih]

section
variable {c e d : Char} (start fuel : ℕ) (acc r : Text) (p : ℕ)

theorem stringBody_plain (hq : c ≠ '"') (hb : c ≠ '\\') (h : 32 ≤ c.toNat) :
    stringBody start (fuel + 1) acc ⟨c :: r, p⟩ = stringBody start fuel (c :: acc) ⟨r, p + 1⟩ := by
  rw [stringBody]
  · simp [Nat.not_lt.mpr h]
  · simpa using hq
  · simp [hb]
  · simp [hb]
  · simp [hb]

theorem stringBody_escape (hu : e ≠ 'u') (h : simpleEscape? e = some d) :
    stringBody start (fuel + 1) acc ⟨'\\' :: e :: r, p⟩ =
      stringBody start fuel (d :: acc) ⟨r, p + 2⟩ := by
  rw [stringBody]
  · simp [h]
  · simpa using hu

/-- Four digits that are no half of a pair. -/
theorem stringBody_unit {n : ℕ} (hn : n < 0x10000) (hh : isHighSurrogate n = false) (hr : r ≠ []) :
    stringBody start (fuel + 1) acc ⟨'\\' :: 'u' :: (hex 4 n ++ r), p⟩ =
      stringBody start fuel (charOf n :: acc) ⟨r, p + 6⟩ := by
  have hlen : ¬ (hex 4 n ++ r).length ≤ 4 := by
    have hpos := List.length_pos_iff.mpr hr
    rw [List.length_append, length_hex]
    omega
  rw [stringBody]
  simp only [if_neg hlen, hex4?_hex hn, hh, Bool.false_and]

/-- Two halves make one character. -/
theorem stringBody_pair {n m : ℕ} (hn : n < 0x10000) (hm : m < 0x10000)
    (hh : isHighSurrogate n = true) (hl : isLowSurrogate m = true) (hr : r ≠ []) :
    stringBody start (fuel + 1) acc
        ⟨'\\' :: 'u' :: (hex 4 n ++ '\\' :: 'u' :: (hex 4 m ++ r)), p⟩ =
      stringBody start fuel (Char.ofNat (0x10000 + (n - 0xD800) * 0x400 + (m - 0xDC00)) :: acc)
        ⟨r, p + 12⟩ := by
  have hpos := List.length_pos_iff.mpr hr
  have hlen : ¬ (hex 4 n ++ '\\' :: 'u' :: (hex 4 m ++ r)).length ≤ 4 := by
    simp only [List.length_append, List.length_cons, length_hex]
    omega
  have hlong : ('\\' :: 'u' :: (hex 4 m ++ r)).length > 6 := by
    simp only [List.length_append, List.length_cons, length_hex]
    omega
  rw [stringBody]
  simp only [if_neg hlen, hex4?_hex hn, hh, hlong, decide_true, Bool.and_self, hex4?_hex hm, hl,
    if_true]

end

/-- A character is read back from what stands for it, if the string goes on behind it. -/
theorem stringBody_escapeChar (c : Char) (start fuel : ℕ) (acc : Text) {r : Text} (p : ℕ)
    (hr : r ≠ []) :
    ∃ q, stringBody start (fuel + 1) acc ⟨escapeChar c ++ r, p⟩ =
      stringBody start fuel (c :: acc) ⟨r, q⟩ := by
  have hvalid : c.toNat < 0xD800 ∨ 0xDFFF < c.toNat ∧ c.toNat < 0x110000 := c.valid
  have hsimple {e : Char} (hu : e ≠ 'u') (h : simpleEscape? e = some c) :
      ∃ q, stringBody start (fuel + 1) acc ⟨['\\', e] ++ r, p⟩ =
        stringBody start fuel (c :: acc) ⟨r, q⟩ :=
    ⟨p + 2, stringBody_escape start fuel acc r p hu h⟩
  have hcode {n : ℕ} (hn : c.toNat = n) : c = Char.ofNat n := by
    rw [← hn, Char.ofNat_toNat]
  simp only [escapeChar]
  split_ifs with hquote hback hfeed hreturn htab hback' hform hplain hbasic
  · obtain rfl : c = '"' := by simpa using hquote
    exact hsimple (by decide) (by decide)
  · obtain rfl : c = '\\' := by simpa using hback
    exact hsimple (by decide) (by decide)
  · obtain rfl : c = '\n' := by simpa using hfeed
    exact hsimple (by decide) (by decide)
  · obtain rfl : c = '\r' := by simpa using hreturn
    exact hsimple (by decide) (by decide)
  · obtain rfl : c = '\t' := by simpa using htab
    exact hsimple (by decide) (by decide)
  · obtain rfl : c = Char.ofNat 8 := hcode (by simpa using hback')
    exact hsimple (by decide) (by decide)
  · obtain rfl : c = Char.ofNat 12 := hcode (by simpa using hform)
    exact hsimple (by decide) (by decide)
  · simp only [Bool.and_eq_true, decide_eq_true_eq] at hplain
    exact ⟨p + 1, stringBody_plain start fuel acc r p (by simpa using hquote) (by simpa using hback)
      hplain.1⟩
  · -- A character of the basic plane is never half of a pair.
    have hhigh : isHighSurrogate c.toNat = false := by
      simp only [isHighSurrogate, Bool.and_eq_false_iff, decide_eq_false_iff_not]
      omega
    have hlow : isLowSurrogate c.toNat = false := by
      simp only [isLowSurrogate, Bool.and_eq_false_iff, decide_eq_false_iff_not]
      omega
    have hchar : charOf c.toNat = c := by
      simp [charOf, hhigh, hlow, Char.ofNat_toNat]
    have hstep := stringBody_unit start fuel acc r p hbasic hhigh hr
    rw [hchar] at hstep
    exact ⟨p + 6, hstep⟩
  · -- Beyond it the two halves hold ten bits each of what is left.
    have hn : 0xD800 + (c.toNat - 0x10000) / 0x400 < 0x10000 := by omega
    have hm : 0xDC00 + (c.toNat - 0x10000) % 0x400 < 0x10000 := by omega
    have hhigh : isHighSurrogate (0xD800 + (c.toNat - 0x10000) / 0x400) = true := by
      simp only [isHighSurrogate, Bool.and_eq_true, decide_eq_true_eq]
      omega
    have hlow : isLowSurrogate (0xDC00 + (c.toNat - 0x10000) % 0x400) = true := by
      simp only [isLowSurrogate, Bool.and_eq_true, decide_eq_true_eq]
      omega
    have hchar : c = Char.ofNat (0x10000 + (0xD800 + (c.toNat - 0x10000) / 0x400 - 0xD800) * 0x400 +
        (0xDC00 + (c.toNat - 0x10000) % 0x400 - 0xDC00)) := hcode (by omega)
    have hstep := stringBody_pair start fuel acc r p hn hm hhigh hlow hr
    rw [← hchar] at hstep
    exact ⟨p + 12, by simpa using hstep⟩

/-- A string is read back from its escaped characters and the quote that closes it. -/
theorem stringBody_flatMap (cs : Text) (start : ℕ) {fuel : ℕ} (acc r : Text) (p : ℕ)
    (hfuel : cs.length < fuel) :
    ∃ q, stringBody start fuel acc ⟨cs.flatMap escapeChar ++ '"' :: r, p⟩ =
      .ok (cs.reverse ++ acc, ⟨r, q⟩) := by
  induction cs generalizing fuel acc p with
  | nil =>
    obtain ⟨fuel, rfl⟩ := Nat.exists_eq_succ_of_ne_zero (by omega : fuel ≠ 0)
    exact ⟨p + 1, rfl⟩
  | cons c cs ih =>
    obtain ⟨fuel, rfl⟩ := Nat.exists_eq_succ_of_ne_zero (by omega : fuel ≠ 0)
    obtain ⟨q, hstep⟩ := stringBody_escapeChar c start fuel acc p
      (by simp : cs.flatMap escapeChar ++ '"' :: r ≠ [])
    obtain ⟨q', hrest⟩ := ih (c :: acc) q (by simpa using hfuel)
    refine ⟨q', ?_⟩
    rw [List.flatMap_cons, List.append_assoc, hstep, hrest, List.reverse_cons, List.append_assoc]
    rfl

theorem length_escapeChar (c : Char) : 0 < (escapeChar c).length := by
  simp only [escapeChar]
  split_ifs <;> simp

theorem string_stringText (s : String) (r : Text) (p : ℕ) :
    ∃ q, string ⟨s.toList.flatMap escapeChar ++ '"' :: r, p⟩ = .ok (s, ⟨r, q⟩) := by
  have hfuel : s.toList.length <
      (s.toList.flatMap escapeChar ++ '"' :: r).length + 1 := by
    -- No character vanishes, so the text is long enough for one step each.
    have hle : s.toList.length ≤ (s.toList.flatMap escapeChar).length := by
      generalize s.toList = cs
      induction cs with
      | nil => simp
      | cons c cs ih =>
        have hpos := length_escapeChar c
        rw [List.flatMap_cons, List.length_append, List.length_cons]
        omega
    rw [List.length_append]
    omega
  obtain ⟨q, hbody⟩ := stringBody_flatMap s.toList (p - 1) [] r p hfuel
  refine ⟨q, ?_⟩
  simp only [string, bind, Except.bind, hbody]
  simp

/-- What may stand behind a number: nothing that would go on with it. -/
def EndsNumber (r : Text) : Prop :=
  ∀ c ∈ r.head?, c.isDigit = false ∧ c ≠ '.' ∧ c ≠ 'e' ∧ c ≠ 'E'

theorem natOfDigits_toDigits (n : ℕ) : natOfDigits (Nat.toDigits 10 n) = n := by
  have hfold : natOfDigits (Nat.toDigits 10 n) = Nat.ofDigitChars 10 (Nat.toDigits 10 n) 0 := by
    rw [natOfDigits, Nat.ofDigitChars_eq_foldl]
    congr 1
    funext m c
    rw [Nat.mul_comm]
    rfl
  rw [hfold, Nat.ofDigitChars_ten_toDigits]

/-- A number starts with a digit. -/
theorem toDigits_cons (n : ℕ) :
    ∃ c ds, Nat.toDigits 10 n = c :: ds ∧ ∀ d : Char, d.isDigit = false → c ≠ d := by
  obtain ⟨c, ds, hds⟩ := List.exists_cons_of_ne_nil (Nat.toDigits_ne_nil (n := n) (b := 10))
  refine ⟨c, ds, hds, ?_⟩
  rintro d hd rfl
  have hc : c.isDigit = true :=
    Nat.isDigit_of_mem_toDigits (b := 10) (n := n) (by omega) (by omega) (by simp [hds])
  rw [hc] at hd
  cases hd

/-- The first digit of a number is zero only if the number is. -/
theorem toDigits_head {n : ℕ} (hn : n ≠ 0) (r : Text) : Nat.toDigits 10 n ≠ '0' :: r := by
  induction n using Nat.strongRecOn generalizing r with
  | _ n ih =>
    rw [Nat.toDigits_eq_if (by omega)]
    split_ifs with hlt
    · have hdigit : ∀ m, m < 10 → m ≠ 0 → m.digitChar ≠ '0' := by decide
      intro h
      exact hdigit n hlt hn (List.cons.inj h).1
    · -- All digits but the last are those of a smaller number, which is not zero either.
      obtain ⟨c, ds, hds, -⟩ := toDigits_cons (n / 10)
      intro h
      rw [hds, List.cons_append, List.cons.injEq] at h
      exact ih (n / 10) (by omega) (by omega) ds (hds.trans (by rw [h.1]))

theorem takeWhile_toDigits (n : ℕ) {r : Text} (hr : EndsNumber r) :
    (Nat.toDigits 10 n ++ r).takeWhile Char.isDigit = Nat.toDigits 10 n := by
  rw [List.takeWhile_append_of_pos
    (fun c hc => Nat.isDigit_of_mem_toDigits (by omega) (by omega) hc)]
  cases r with
  | nil => simp
  | cons c r => simp [(hr c rfl).1]

theorem exponent?_endsNumber {r : Text} (hr : EndsNumber r) : exponent? r = none := by
  cases r with
  | nil => rfl
  | cons c r =>
    obtain ⟨-, -, he, hE⟩ := hr c rfl
    simp [exponent?, he, hE]

/-- The digits of a number with its sign in front. -/
def signed (negative : Bool) (t : Text) : Text := if negative then '-' :: t else t

theorem signOf_signed (negative : Bool) (n : ℕ) (r : Text) :
    signOf (signed negative (Nat.toDigits 10 n ++ r)) = (negative, Nat.toDigits 10 n ++ r) := by
  cases negative with
  | true => rfl
  | false =>
    obtain ⟨c, ds, hds, hc⟩ := toDigits_cons n
    change signOf (Nat.toDigits 10 n ++ r) = _
    rw [hds, List.cons_append, signOf]
    rintro r' ⟨⟩
    exact hc '-' rfl rfl

theorem wholeDigits_digits (n : ℕ) {r : Text} (hr : EndsNumber r) :
    wholeDigits (Nat.toDigits 10 n ++ r) = Nat.toDigits 10 n := by
  rcases Nat.eq_zero_or_pos n with rfl | hpos
  · rfl
  · rw [wholeDigits, takeWhile_toDigits n hr]
    intro r' h
    obtain ⟨c, ds, hds, -⟩ := toDigits_cons n
    rw [hds, List.cons_append, List.cons.injEq] at h
    exact toDigits_head hpos.ne' ds (by rw [hds, h.1])

theorem fractionDigits_endsNumber {r : Text} (hr : EndsNumber r) : fractionDigits r = [] := by
  cases r with
  | nil => rfl
  | cons c r =>
    rw [fractionDigits]
    rintro r' ⟨⟩
    exact (hr '.' rfl).2.1 rfl

theorem number_signed (negative : Bool) {n : ℕ} {r : Text} (p : ℕ)
    (hn : (Nat.toDigits 10 n).length ≤ maxDigits) (hr : EndsNumber r) :
    ∃ q, number ⟨signed negative (Nat.toDigits 10 n ++ r), p⟩ =
      .ok (.int (if negative then -(n : ℤ) else n), ⟨r, q⟩) := by
  have hne : (Nat.toDigits 10 n).isEmpty = false := by simp
  have hrest : (signed negative (Nat.toDigits 10 n ++ r)).drop
      ((if negative then 1 else 0) + (Nat.toDigits 10 n).length) = r := by
    cases negative with
    | true => simp [signed, Nat.add_comm 1]
    | false => simp [signed]
  refine ⟨p + ((if negative then 1 else 0) + (Nat.toDigits 10 n).length), ?_⟩
  simp only [number, signOf_signed, wholeDigits_digits n hr, hne, List.drop_left,
    fractionDigits_endsNumber hr, List.isEmpty_nil, if_true, List.drop_zero,
    exponent?_endsNumber hr, Option.getD_none, natOfDigits_toDigits, Cursor.advance, Nat.add_zero,
    hrest, beq_self_eq_true, Bool.and_self, if_neg (Nat.not_lt.mpr hn), Bool.false_eq_true,
    if_false]

theorem toString_signed (n : ℤ) :
    (toString n).toList = signed (decide (n < 0)) (Nat.toDigits 10 n.natAbs) := by
  rw [Int.toString_eq_repr, Int.repr_eq_if]
  split_ifs with hn
  · have hneg : ¬ n < 0 := by omega
    have habs : n.toNat = n.natAbs := by omega
    simp [signed, hneg, habs, Nat.repr_eq_ofList_toDigits]
  · have hneg : n < 0 := by omega
    have habs : (-n).toNat = n.natAbs := by omega
    simp [signed, hneg, habs, Nat.repr_eq_ofList_toDigits]

/-- A whole number is read back from its decimal form. -/
theorem number_toString {n : ℤ} {r : Text} (p : ℕ)
    (hn : ¬ (toString n.natAbs).length > maxDigits) (hr : EndsNumber r) :
    ∃ q, number ⟨(toString n).toList ++ r, p⟩ = .ok (.int n, ⟨r, q⟩) := by
  have hlen : (Nat.toDigits 10 n.natAbs).length ≤ maxDigits := by
    have hsame : (toString n.natAbs).length = (Nat.toDigits 10 n.natAbs).length := by
      rw [Nat.toString_eq_ofList_toDigits, String.length_ofList]
    omega
  have happend : signed (decide (n < 0)) (Nat.toDigits 10 n.natAbs) ++ r =
      signed (decide (n < 0)) (Nat.toDigits 10 n.natAbs ++ r) := by
    rw [signed, signed]
    split_ifs <;> rfl
  have hvalue : (if decide (n < 0) = true then -(n.natAbs : ℤ) else n.natAbs) = n := by
    split_ifs with hneg
    · rw [decide_eq_true_eq] at hneg
      omega
    · rw [decide_eq_true_eq] at hneg
      omega
  obtain ⟨q, hq⟩ := number_signed (decide (n < 0)) p hlen hr
  rw [hvalue] at hq
  exact ⟨q, by rw [toString_signed, happend, hq]⟩

end Excerpt.Json
