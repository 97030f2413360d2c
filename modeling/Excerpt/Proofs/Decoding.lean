import Excerpt.Charset.Decode
import Mathlib.Data.List.Basic

/-! Decoding does not depend on where the input is cut. Every decoder takes one character after
another; what it keeps of a cut-off character and the input that follows decode to the rest. -/
namespace Excerpt

/-- What a decoder does with an input that is not empty: it takes the code of one character off the
front whatever comes behind, or keeps all of a cut-off character, or is stuck whatever comes behind.
`code c w` restricts which bytes `w` may stand for `c`. -/
inductive DecodeStep (code : Char → Bytes → Prop) (dec : Bool → Bytes → Decoded) (b : Bytes) : Prop
  | char (c : Char) (w r : Bytes) (coded : code c w) (pos : 0 < w.length) (split : b = w ++ r)
      (takes : ∀ fin r', dec fin (w ++ r') = (dec fin r').cons w.length c)
  | cut (keeps : dec false b = .ok ([], b)) (fails : ∀ t k, dec true b ≠ .ok (t, k))
  | stuck (fails : ∀ fin r t k, dec fin (b ++ r) ≠ .ok (t, k))

/-- A decoder that goes character by character. -/
structure Stepwise (code : Char → Bytes → Prop) (dec : Bool → Bytes → Decoded) : Prop where
  nil : ∀ fin, dec fin [] = .ok ([], [])
  step : ∀ b, b ≠ [] → DecodeStep code dec b

theorem decoded_cons_ok {n : ℕ} {c : Char} {x : Decoded} {t : Text} {k : Bytes} :
    x.cons n c = .ok (t, k) ↔ ∃ t', t = c :: t' ∧ x = .ok (t', k) := by
  rcases x with s | ⟨t', k'⟩
  · simp [Decoded.cons]
  · simp only [Decoded.cons, Except.ok.injEq, Prod.mk.injEq]
    constructor
    · rintro ⟨rfl, rfl⟩
      exact ⟨t', rfl, rfl, rfl⟩
    · rintro ⟨_, rfl, rfl, rfl⟩
      exact ⟨rfl, rfl⟩

section
variable {code : Char → Bytes → Prop} {dec : Bool → Bytes → Decoded}

/-- Input in two pieces: the first decodes by itself, and what it keeps goes on with the second. -/
theorem stepwise_append (h : Stepwise code dec) {fin : Bool} {a b k : Bytes} {t : Text}
    (hd : dec fin (a ++ b) = .ok (t, k)) :
    ∃ t₁ kept t₂, dec false a = .ok (t₁, kept) ∧ t = t₁ ++ t₂ ∧
      dec fin (kept ++ b) = .ok (t₂, k) := by
  induction hn : a.length using Nat.strongRecOn generalizing a t with
  | ind n ih =>
    by_cases ha : a = []
    · subst ha
      exact ⟨[], [], t, h.nil false, rfl, hd⟩
    · rcases h.step a ha with ⟨c, w, r, _, hw, rfl, htakes⟩ | ⟨hkeeps, _⟩ | ⟨hfails⟩
      · rw [List.append_assoc, htakes, decoded_cons_ok] at hd
        obtain ⟨t', rfl, ht'⟩ := hd
        have hr : r.length < n := by
          rw [List.length_append] at hn
          omega
        obtain ⟨t₁, kept, t₂, h1, rfl, h2⟩ := ih r.length hr ht' rfl
        refine ⟨c :: t₁, kept, t₂, ?_, rfl, h2⟩
        rw [htakes, decoded_cons_ok]
        exact ⟨t₁, rfl, h1⟩
      · exact ⟨[], a, t, hkeeps, rfl, hd⟩
      · exact absurd hd (hfails fin b t k)

/-- What has been decoded is the codes of its characters one after another, then the bytes kept. -/
theorem stepwise_codes (h : Stepwise code dec) {fin : Bool} {b k : Bytes} {t : Text}
    (hd : dec fin b = .ok (t, k)) :
    ∃ ws : List Bytes, List.Forall₂ code t ws ∧ b = ws.flatten ++ k ∧ (fin = true → k = []) := by
  induction hn : b.length using Nat.strongRecOn generalizing b t with
  | ind n ih =>
    by_cases hb : b = []
    · subst hb
      rw [h.nil fin] at hd
      obtain ⟨rfl, rfl⟩ : [] = t ∧ [] = k := by simpa using hd
      exact ⟨[], List.Forall₂.nil, rfl, fun _ => rfl⟩
    · rcases h.step b hb with ⟨c, w, r, hc, hw, rfl, htakes⟩ | ⟨hkeeps, hfails⟩ | ⟨hfails⟩
      · rw [htakes, decoded_cons_ok] at hd
        obtain ⟨t', rfl, ht'⟩ := hd
        have hr : r.length < n := by
          rw [List.length_append] at hn
          omega
        obtain ⟨ws, hws, he, hk⟩ := ih r.length hr ht' rfl
        refine ⟨w :: ws, List.Forall₂.cons hc hws, ?_, hk⟩
        rw [List.flatten_cons, List.append_assoc, ← he]
      · cases fin with
        | true => exact absurd hd (hfails t k)
        | false =>
          rw [hkeeps] at hd
          obtain ⟨rfl, rfl⟩ : [] = t ∧ b = k := by simpa using hd
          exact ⟨[], List.Forall₂.nil, rfl, by simp⟩
      · have hd' : dec fin (b ++ []) = .ok (t, k) := by rwa [List.append_nil]
        exact absurd hd' (hfails fin [] t k)

end

/-! ### UTF-8 -/

theorem ofNat_val {n : ℕ} (h : n.isValidChar) : (Char.ofNat n).val.toNat = n := by
  rw [Char.ofNat, dif_pos h]
  rfl

/-- The lead bytes of each length, with the range of the byte behind them. -/
theorem utf8Lead_cases {n more lo hi : ℕ} (h : utf8Lead n = some (more, lo, hi)) :
    (more = 1 ∧ 0xC2 ≤ n ∧ n ≤ 0xDF ∧ lo = 0x80 ∧ hi = 0xBF) ∨
    (more = 2 ∧ 0xE0 ≤ n ∧ n ≤ 0xEF ∧ 0x80 ≤ lo ∧ hi ≤ 0xBF ∧
      (n = 0xE0 → lo = 0xA0) ∧ (n = 0xED → hi = 0x9F)) ∨
    (more = 3 ∧ 0xF0 ≤ n ∧ n ≤ 0xF4 ∧ 0x80 ≤ lo ∧ hi ≤ 0xBF ∧
      (n = 0xF0 → lo = 0x90) ∧ (n = 0xF4 → hi = 0x8F)) := by
  unfold utf8Lead at h
  split_ifs at h <;> simp only [Bool.and_eq_true, decide_eq_true_eq, beq_iff_eq, Option.some.injEq,
    Prod.mk.injEq] at * <;> omega

theorem encodeChar_one {a : UInt8} (ha : a.toNat < 0x80) :
    String.utf8EncodeChar (Char.ofNat a.toNat) = [a] := by
  have hv : (Char.ofNat a.toNat).val.toNat = a.toNat := ofNat_val (Or.inl (by omega))
  simp only [String.utf8EncodeChar, hv]
  rw [if_pos (by omega), UInt8.ofNat_toNat]

theorem encodeChar_two {a b : UInt8} (ha : 0xC2 ≤ a.toNat) (ha' : a.toNat ≤ 0xDF)
    (hb : 0x80 ≤ b.toNat) (hb' : b.toNat ≤ 0xBF) :
    String.utf8EncodeChar (Char.ofNat (a.toNat % 32 * 64 + b.toNat % 64)) = [a, b] := by
  have hv := ofNat_val (n := a.toNat % 32 * 64 + b.toNat % 64) (Or.inl (by omega))
  simp only [String.utf8EncodeChar, hv]
  rw [if_neg (by omega), if_pos (by omega)]
  have h1 : (a.toNat % 32 * 64 + b.toNat % 64) / 64 % 0x20 + 0xC0 = a.toNat := by omega
  have h2 : (a.toNat % 32 * 64 + b.toNat % 64) % 0x40 + 0x80 = b.toNat := by omega
  rw [h1, h2, UInt8.ofNat_toNat, UInt8.ofNat_toNat]

theorem encodeChar_three {a b c : UInt8} (ha : 0xE0 ≤ a.toNat) (ha' : a.toNat ≤ 0xEF)
    (hb : 0x80 ≤ b.toNat) (hb' : b.toNat ≤ 0xBF) (hlo : a.toNat = 0xE0 → 0xA0 ≤ b.toNat)
    (hhi : a.toNat = 0xED → b.toNat ≤ 0x9F) (hc : 0x80 ≤ c.toNat) (hc' : c.toNat ≤ 0xBF) :
    String.utf8EncodeChar
      (Char.ofNat ((a.toNat % 16 * 64 + b.toNat % 64) * 64 + c.toNat % 64)) = [a, b, c] := by
  have hv := ofNat_val (n := (a.toNat % 16 * 64 + b.toNat % 64) * 64 + c.toNat % 64)
    (by unfold Nat.isValidChar; omega)
  simp only [String.utf8EncodeChar, hv]
  rw [if_neg (by omega), if_neg (by omega), if_pos (by omega)]
  have h1 : ((a.toNat % 16 * 64 + b.toNat % 64) * 64 + c.toNat % 64) / 4096 % 0x10 + 0xE0 =
      a.toNat := by omega
  have h2 : ((a.toNat % 16 * 64 + b.toNat % 64) * 64 + c.toNat % 64) / 64 % 0x40 + 0x80 =
      b.toNat := by omega
  have h3 : ((a.toNat % 16 * 64 + b.toNat % 64) * 64 + c.toNat % 64) % 0x40 + 0x80 =
      c.toNat := by omega
  rw [h1, h2, h3, UInt8.ofNat_toNat, UInt8.ofNat_toNat, UInt8.ofNat_toNat]

theorem encodeChar_four {a b c d : UInt8} (ha : 0xF0 ≤ a.toNat) (ha' : a.toNat ≤ 0xF4)
    (hb : 0x80 ≤ b.toNat) (hb' : b.toNat ≤ 0xBF) (hlo : a.toNat = 0xF0 → 0x90 ≤ b.toNat)
    (hhi : a.toNat = 0xF4 → b.toNat ≤ 0x8F) (hc : 0x80 ≤ c.toNat) (hc' : c.toNat ≤ 0xBF)
    (hd : 0x80 ≤ d.toNat) (hd' : d.toNat ≤ 0xBF) :
    String.utf8EncodeChar (Char.ofNat
      (((a.toNat % 8 * 64 + b.toNat % 64) * 64 + c.toNat % 64) * 64 + d.toNat % 64)) =
      [a, b, c, d] := by
  generalize hn : ((a.toNat % 8 * 64 + b.toNat % 64) * 64 + c.toNat % 64) * 64 + d.toNat % 64 = n
  have hv : (Char.ofNat n).val.toNat = n := ofNat_val (by unfold Nat.isValidChar; omega)
  simp only [String.utf8EncodeChar, hv]
  rw [if_neg (by omega), if_neg (by omega), if_neg (by omega)]
  have h1 : n / 262144 % 0x08 + 0xF0 = a.toNat := by omega
  have h2 : n / 4096 % 0x40 + 0x80 = b.toNat := by omega
  have h3 : n / 64 % 0x40 + 0x80 = c.toNat := by omega
  have h4 : n % 0x40 + 0x80 = d.toNat := by omega
  rw [h1, h2, h3, h4, UInt8.ofNat_toNat, UInt8.ofNat_toNat, UInt8.ofNat_toNat, UInt8.ofNat_toNat]

section
variable {fin : Bool} {a b c d : UInt8} {lo hi : ℕ}

theorem decodeUtf8_one (ha : a.toNat < 0x80) (r : Bytes) :
    decodeUtf8 fin (a :: r) = (decodeUtf8 fin r).cons 1 (Char.ofNat a.toNat) := by
  simp [decodeUtf8, ha]

theorem decodeUtf8_two (hl : utf8Lead a.toNat = some (1, lo, hi))
    (hb : lo ≤ b.toNat ∧ b.toNat ≤ hi) (r : Bytes) :
    decodeUtf8 fin (a :: b :: r) =
      (decodeUtf8 fin r).cons 2 (Char.ofNat (a.toNat % 32 * 64 + b.toNat % 64)) := by
  have ha : ¬ a.toNat < 0x80 := by have := utf8Lead_cases hl; omega
  simp [decodeUtf8, ha, hl, hb]

theorem decodeUtf8_three (hl : utf8Lead a.toNat = some (2, lo, hi))
    (hb : lo ≤ b.toNat ∧ b.toNat ≤ hi) (hc : isContinuation c = true) (r : Bytes) :
    decodeUtf8 fin (a :: b :: c :: r) =
      (decodeUtf8 fin r).cons 3
        (Char.ofNat ((a.toNat % 16 * 64 + b.toNat % 64) * 64 + c.toNat % 64)) := by
  have ha : ¬ a.toNat < 0x80 := by have := utf8Lead_cases hl; omega
  simp [decodeUtf8, ha, hl, hb, hc]

theorem decodeUtf8_four (hl : utf8Lead a.toNat = some (3, lo, hi))
    (hb : lo ≤ b.toNat ∧ b.toNat ≤ hi) (hc : isContinuation c = true)
    (hd : isContinuation d = true) (r : Bytes) :
    decodeUtf8 fin (a :: b :: c :: d :: r) =
      (decodeUtf8 fin r).cons 4 (Char.ofNat
        (((a.toNat % 8 * 64 + b.toNat % 64) * 64 + c.toNat % 64) * 64 + d.toNat % 64)) := by
  have ha : ¬ a.toNat < 0x80 := by have := utf8Lead_cases hl; omega
  simp [decodeUtf8, ha, hl, hb, hc, hd]

theorem isContinuation_iff : isContinuation c = true ↔ 0x80 ≤ c.toNat ∧ c.toNat ≤ 0xBF := by
  simp [isContinuation]

end

/-- The codes of characters in UTF-8. -/
def Utf8Code (c : Char) (w : Bytes) : Prop := w = String.utf8EncodeChar c

/-- The case split is the decoder's own: by the lead byte, then byte by byte. -/
theorem decodeUtf8_stepwise : Stepwise Utf8Code decodeUtf8 := by
  refine ⟨fun _ => rfl, ?_⟩
  rintro (_ | ⟨a, r⟩) hne
  · exact absurd rfl hne
  clear hne
  by_cases ha : a.toNat < 0x80
  · exact .char _ [a] r (encodeChar_one ha).symm (by simp) rfl fun _ => decodeUtf8_one ha
  rcases hl : utf8Lead a.toNat with _ | ⟨more, lo, hi⟩
  · refine .stuck fun fin r' t k => ?_
    simp [decodeUtf8, ha, hl]
  have hcase := utf8Lead_cases hl
  rcases r with _ | ⟨b, r⟩
  · refine .cut ?_ fun t k => ?_ <;> simp [decodeUtf8, ha, hl, cutOff]
  by_cases hb : lo ≤ b.toNat ∧ b.toNat ≤ hi
  swap
  · refine .stuck fun fin r' t k => ?_
    simp only [decodeUtf8, List.cons_append, ha, hl, ← Bool.decide_and, hb, decide_false,
      Bool.not_false, if_true, if_false]
    simp
  -- From here on the lead byte says how many continuation bytes are needed.
  by_cases h1 : more = 1
  · subst h1
    exact .char _ [a, b] r
      (encodeChar_two (by omega) (by omega) (by omega) (by omega)).symm (by simp) rfl
      fun _ => decodeUtf8_two hl hb
  rcases r with _ | ⟨c, r⟩
  · refine .cut ?_ fun t k => ?_ <;> simp [decodeUtf8, ha, hl, hb, h1, cutOff]
  by_cases hc : isContinuation c = true
  swap
  · refine .stuck fun fin r' t k => ?_
    simp [decodeUtf8, ha, hl, hb, h1, hc]
  have hc' := isContinuation_iff.mp hc
  by_cases h2 : more = 2
  · subst h2
    exact .char _ [a, b, c] r
      (encodeChar_three (by omega) (by omega) (by omega) (by omega) (by omega) (by omega)
        (by omega) (by omega)).symm (by simp) rfl
      fun _ => decodeUtf8_three hl hb hc
  have h3 : more = 3 := by omega
  subst h3
  rcases r with _ | ⟨d, r⟩
  · refine .cut ?_ fun t k => ?_ <;> simp [decodeUtf8, ha, hl, hb, hc, cutOff]
  by_cases hd : isContinuation d = true
  swap
  · refine .stuck fun fin r' t k => ?_
    simp [decodeUtf8, ha, hl, hb, hc, hd]
  have hd' := isContinuation_iff.mp hd
  exact .char _ [a, b, c, d] r
    (encodeChar_four (by omega) (by omega) (by omega) (by omega) (by omega) (by omega)
      (by omega) (by omega) (by omega) (by omega)).symm (by simp) rfl
    fun _ => decodeUtf8_four hl hb hc hd

/-- The bytes of a text in UTF-8. -/
def utf8Bytes (t : Text) : Bytes := t.flatMap String.utf8EncodeChar

@[simp] theorem utf8Bytes_nil : utf8Bytes [] = [] := rfl

@[simp] theorem utf8Bytes_cons (c : Char) (t : Text) :
    utf8Bytes (c :: t) = String.utf8EncodeChar c ++ utf8Bytes t := rfl

@[simp] theorem utf8Bytes_append (t u : Text) :
    utf8Bytes (t ++ u) = utf8Bytes t ++ utf8Bytes u := List.flatMap_append

/-- Decoding UTF-8 loses nothing: the text's bytes and those kept are the input. -/
theorem decodeUtf8_exact {fin : Bool} {b k : Bytes} {t : Text} (h : decodeUtf8 fin b = .ok (t, k)) :
    b = utf8Bytes t ++ k ∧ (fin = true → k = []) := by
  obtain ⟨ws, hws, rfl, hk⟩ := stepwise_codes decodeUtf8_stepwise h
  refine ⟨?_, hk⟩
  clear h
  induction hws with
  | nil => rfl
  | cons hc _ ih =>
    rw [List.flatten_cons, List.append_assoc, ih, utf8Bytes_cons, List.append_assoc, hc]

theorem utf8Lead_two {n : ℕ} (h : 0xC2 ≤ n) (h' : n ≤ 0xDF) :
    utf8Lead n = some (1, 0x80, 0xBF) := by
  simp [utf8Lead, h, h']

theorem utf8Lead_three {n : ℕ} (h : 0xE0 ≤ n) (h' : n ≤ 0xEF) :
    utf8Lead n = some (2, if n = 0xE0 then 0xA0 else 0x80, if n = 0xED then 0x9F else 0xBF) := by
  unfold utf8Lead
  split_ifs <;> simp_all <;> omega

theorem utf8Lead_four {n : ℕ} (h : 0xF0 ≤ n) (h' : n ≤ 0xF4) :
    utf8Lead n = some (3, if n = 0xF0 then 0x90 else 0x80, if n = 0xF4 then 0x8F else 0xBF) := by
  unfold utf8Lead
  split_ifs <;> simp_all <;> omega

/-- The code of a character in front of any input is taken off as that character. -/
theorem decodeUtf8_encodeChar (fin : Bool) (c : Char) (r : Bytes) :
    ∃ n, decodeUtf8 fin (String.utf8EncodeChar c ++ r) = (decodeUtf8 fin r).cons n c := by
  have hc : Char.ofNat c.val.toNat = c := Char.ofNat_toNat c
  have hvalid : c.val.toNat < 0xD800 ∨ 0xDFFF < c.val.toNat ∧ c.val.toNat < 0x110000 := c.valid
  have byte (n : ℕ) (h : n < 256) : (UInt8.ofNat n).toNat = n := UInt8.toNat_ofNat_of_lt' h
  have tail (n : ℕ) : isContinuation (UInt8.ofNat (n % 0x40 + 0x80)) = true := by
    rw [isContinuation_iff, byte _ (by omega)]
    omega
  simp only [String.utf8EncodeChar]
  generalize c.val.toNat = v at hc hvalid
  split_ifs with h1 h2 h3
  · have ha := byte v (by omega)
    refine ⟨1, ?_⟩
    rw [List.cons_append, List.nil_append, decodeUtf8_one (by omega), ha, hc]
  · have ha := byte (v / 64 % 0x20 + 0xC0) (by omega)
    have hb := byte (v % 0x40 + 0x80) (by omega)
    have hl := utf8Lead_two (n := v / 64 % 0x20 + 0xC0) (by omega) (by omega)
    refine ⟨2, ?_⟩
    rw [List.cons_append, List.cons_append, List.nil_append,
      decodeUtf8_two (by rw [ha]; exact hl) (by rw [hb]; omega), ha, hb]
    rw [show (v / 64 % 0x20 + 0xC0) % 32 * 64 + (v % 0x40 + 0x80) % 64 = v by omega, hc]
  · have ha := byte (v / 4096 % 0x10 + 0xE0) (by omega)
    have hb := byte (v / 64 % 0x40 + 0x80) (by omega)
    have hd := byte (v % 0x40 + 0x80) (by omega)
    have hl := utf8Lead_three (n := v / 4096 % 0x10 + 0xE0) (by omega) (by omega)
    refine ⟨3, ?_⟩
    rw [List.cons_append, List.cons_append, List.cons_append, List.nil_append,
      decodeUtf8_three (by rw [ha]; exact hl) (by rw [hb]; split_ifs <;> omega) (tail v), ha, hb, hd]
    rw [show ((v / 4096 % 0x10 + 0xE0) % 16 * 64 + (v / 64 % 0x40 + 0x80) % 64) * 64 +
      (v % 0x40 + 0x80) % 64 = v by omega, hc]
  · have ha := byte (v / 262144 % 0x08 + 0xF0) (by omega)
    have hb := byte (v / 4096 % 0x40 + 0x80) (by omega)
    have hd := byte (v / 64 % 0x40 + 0x80) (by omega)
    have he := byte (v % 0x40 + 0x80) (by omega)
    have hl := utf8Lead_four (n := v / 262144 % 0x08 + 0xF0) (by omega) (by omega)
    refine ⟨4, ?_⟩
    rw [List.cons_append, List.cons_append, List.cons_append, List.cons_append, List.nil_append,
      decodeUtf8_four (by rw [ha]; exact hl) (by rw [hb]; split_ifs <;> omega) (tail (v / 64)) (tail v),
      ha, hb, hd, he]
    rw [show (((v / 262144 % 0x08 + 0xF0) % 8 * 64 + (v / 4096 % 0x40 + 0x80) % 64) * 64 +
      (v / 64 % 0x40 + 0x80) % 64) * 64 + (v % 0x40 + 0x80) % 64 = v by omega, hc]

theorem decodeUtf8_utf8Bytes (fin : Bool) (t : Text) :
    decodeUtf8 fin (utf8Bytes t) = .ok (t, []) := by
  induction t with
  | nil => rfl
  | cons c t ih =>
    obtain ⟨n, hn⟩ := decodeUtf8_encodeChar fin c (utf8Bytes t)
    rw [utf8Bytes_cons, hn, ih, Decoded.cons]

theorem decode_utf8Bytes (t : Text) : Charset.utf8.decode (utf8Bytes t) = .ok t := by
  simp [Charset.decode, Decoder.feed, Decoder.run, decodeUtf8_utf8Bytes]

/-! ### The other character sets -/

/-- Codes of two bytes or more. -/
def WideCode (_ : Char) (w : Bytes) : Prop := 2 ≤ w.length

section
variable {fin big : Bool} {a b c d : UInt8}

theorem decodeUtf16_unit (hn : unit16 big a b < 0xD800 ∨ 0xE000 ≤ unit16 big a b) (r : Bytes) :
    decodeUtf16 fin big (a :: b :: r) =
      (decodeUtf16 fin big r).cons 2 (Char.ofNat (unit16 big a b)) := by
  rw [decodeUtf16.eq_def]
  simp [hn]

theorem decodeUtf16_pair (hn : ¬ (unit16 big a b < 0xD800 ∨ 0xE000 ≤ unit16 big a b))
    (hlow : ¬ 0xDC00 ≤ unit16 big a b) (hm : 0xDC00 ≤ unit16 big c d ∧ unit16 big c d < 0xE000)
    (r : Bytes) :
    decodeUtf16 fin big (a :: b :: c :: d :: r) =
      (decodeUtf16 fin big r).cons 4 (Char.ofNat (0x10000 + (unit16 big a b - 0xD800) * 0x400 +
        (unit16 big c d - 0xDC00))) := by
  rw [decodeUtf16.eq_def]
  simp [hn, hlow, hm]

end

theorem decodeUtf16_stepwise (big : Bool) :
    Stepwise WideCode (fun fin => decodeUtf16 fin big) := by
  refine ⟨fun _ => rfl, ?_⟩
  rintro (_ | ⟨a, _ | ⟨b, r⟩⟩) hne
  · exact absurd rfl hne
  · refine .cut ?_ fun t k => ?_ <;> simp [decodeUtf16, cutOff]
  clear hne
  by_cases hn : unit16 big a b < 0xD800 ∨ 0xE000 ≤ unit16 big a b
  · exact .char _ [a, b] r (by simp [WideCode]) (by simp) rfl fun _ => decodeUtf16_unit hn
  by_cases hlow : 0xDC00 ≤ unit16 big a b
  · refine .stuck fun fin r' t k => ?_
    rw [List.cons_append, List.cons_append, decodeUtf16.eq_def]
    simp [hn, hlow]
  rcases r with _ | ⟨c, _ | ⟨d, r⟩⟩
  · refine .cut ?_ fun t k => ?_ <;> simp [decodeUtf16, hn, hlow, cutOff]
  · refine .cut ?_ fun t k => ?_ <;> simp [decodeUtf16, hn, hlow, cutOff]
  by_cases hm : 0xDC00 ≤ unit16 big c d ∧ unit16 big c d < 0xE000
  · exact .char _ [a, b, c, d] r (by simp [WideCode]) (by simp) rfl
      fun _ => decodeUtf16_pair hn hlow hm
  · refine .stuck fun fin r' t k => ?_
    simp only [decodeUtf16, List.cons_append, ← Bool.decide_or, ← Bool.decide_and, hn, hlow, hm,
      decide_false, if_false]
    simp

theorem decodeAscii_stepwise : Stepwise (fun _ _ => True) (fun _ => decodeAscii) := by
  refine ⟨fun _ => rfl, ?_⟩
  rintro (_ | ⟨a, r⟩) hne
  · exact absurd rfl hne
  by_cases ha : a.toNat < 128
  · refine .char (Char.ofNat a.toNat) [a] r trivial (by simp) rfl ?_
    intro _ r'
    simp [decodeAscii, ha]
  · refine .stuck fun fin r' t k => ?_
    simp [decodeAscii, ha]

theorem decodeWindows1252_stepwise : Stepwise (fun _ _ => True) (fun _ => decodeWindows1252) := by
  refine ⟨fun _ => rfl, ?_⟩
  rintro (_ | ⟨a, r⟩) hne
  · exact absurd rfl hne
  rcases hc : windows1252Char? a.toNat with _ | c
  · refine .stuck fun fin r' t k => ?_
    simp [decodeWindows1252, hc]
  · refine .char c [a] r trivial (by simp) rfl ?_
    intro _ r'
    simp [decodeWindows1252, hc]

/-- A decoder after a first input that leaves `kept` and `mark`. -/
theorem run_append_plain {code : Char → Bytes → Prop} {dec : Bool → Bytes → Decoded}
    (h : Stepwise code dec) {cs : Charset} {mark : Mark}
    (hrun : ∀ kept fin input, Decoder.run ⟨cs, kept, mark⟩ fin input = (dec fin (kept ++ input), mark))
    {kept a b k : Bytes} {fin : Bool} {t : Text}
    (hd : (Decoder.run ⟨cs, kept, mark⟩ fin (a ++ b)).1 = .ok (t, k)) :
    ∃ t₁ kept' mark' t₂, Decoder.run ⟨cs, kept, mark⟩ false a = (.ok (t₁, kept'), mark') ∧
      t = t₁ ++ t₂ ∧ (Decoder.run ⟨cs, kept', mark'⟩ fin b).1 = .ok (t₂, k) := by
  rw [hrun, ← List.append_assoc] at hd
  obtain ⟨t₁, kept', t₂, h1, ht, h2⟩ := stepwise_append h hd
  refine ⟨t₁, kept', mark, t₂, ?_, ht, ?_⟩
  · rw [hrun, h1]
  · rw [hrun, h2]

@[simp] theorem decoded_skip_ok {n : ℕ} {x : Decoded} {t : Text} {k : Bytes} :
    x.skip n = .ok (t, k) ↔ x = .ok (t, k) := by
  rcases x with s | ⟨t', k'⟩ <;> simp [Decoded.skip]

section
variable {kept a b k : Bytes} {fin : Bool} {t : Text}

theorem run_utf8Marked_mark {y : Bytes} (h : kept ++ a = utf8Mark ++ y) :
    Decoder.run ⟨.utf8Marked, kept, .unseen⟩ fin a = ((decodeUtf8 fin y).skip 3, .none) := by
  have hlen : ¬ (utf8Mark ++ y).length < 3 := by
    rw [List.length_append]
    exact Nat.not_lt.mpr (Nat.le_add_right _ _)
  have hpre : utf8Mark.isPrefixOf (utf8Mark ++ y) = true := by
    rw [List.isPrefixOf_iff_prefix]
    exact List.prefix_append _ _
  simp only [Decoder.run, h, hlen, hpre, bne_self_eq_false, Bool.false_eq_true, if_false, if_true]
  rfl

theorem run_utf8Marked_other (h : ¬ (kept ++ a) <+: utf8Mark) (h' : ¬ utf8Mark <+: kept ++ a) :
    Decoder.run ⟨.utf8Marked, kept, .unseen⟩ fin a = (decodeUtf8 fin (kept ++ a), .none) := by
  rw [← List.isPrefixOf_iff_prefix] at h h'
  simp only [Decoder.run, h, h', bne_self_eq_false, Bool.false_eq_true, if_false]
  split_ifs <;> rfl

/-- The input is undecided while it is a proper part of the mark; then it is the mark or it is not,
and more input does not change that. -/
theorem run_append_utf8Marked {mark : Mark}
    (hd : (Decoder.run ⟨.utf8Marked, kept, mark⟩ fin (a ++ b)).1 = .ok (t, k)) :
    ∃ t₁ kept' mark' t₂, Decoder.run ⟨.utf8Marked, kept, mark⟩ false a = (.ok (t₁, kept'), mark') ∧
      t = t₁ ++ t₂ ∧ (Decoder.run ⟨.utf8Marked, kept', mark'⟩ fin b).1 = .ok (t₂, k) := by
  by_cases hm : mark = .unseen
  swap
  · exact run_append_plain decodeUtf8_stepwise (fun _ _ _ => by simp [Decoder.run, hm]) hd
  subst hm
  have later {x : Bytes} (hx : decodeUtf8 fin (x ++ b) = .ok (t, k)) :
      ∃ t₁ kept' t₂, decodeUtf8 false x = .ok (t₁, kept') ∧ t = t₁ ++ t₂ ∧
        (Decoder.run ⟨.utf8Marked, kept', .none⟩ fin b).1 = .ok (t₂, k) := by
    obtain ⟨t₁, kept', t₂, h1, ht, h2⟩ := stepwise_append decodeUtf8_stepwise hx
    exact ⟨t₁, kept', t₂, h1, ht, by simpa [Decoder.run] using h2⟩
  by_cases hpre : utf8Mark <+: kept ++ a
  · obtain ⟨y, hy⟩ := hpre
    have hyb : kept ++ (a ++ b) = utf8Mark ++ (y ++ b) := by
      rw [← List.append_assoc, ← hy, List.append_assoc]
    rw [run_utf8Marked_mark hyb, decoded_skip_ok] at hd
    obtain ⟨t₁, kept', t₂, h1, ht, h2⟩ := later hd
    refine ⟨t₁, kept', .none, t₂, ?_, ht, h2⟩
    rw [run_utf8Marked_mark hy.symm, h1]
    rfl
  by_cases hpart : (kept ++ a) <+: utf8Mark
  · have hlen : (kept ++ a).length < 3 := by
      have hle : (kept ++ a).length ≤ utf8Mark.length := hpart.length_le
      have hne : (kept ++ a).length ≠ utf8Mark.length := by
        intro h
        exact hpre (hpart.eq_of_length h ▸ List.prefix_rfl)
      exact Nat.lt_of_le_of_ne hle hne
    refine ⟨[], kept ++ a, .unseen, t, ?_, rfl, ?_⟩
    · rw [← List.isPrefixOf_iff_prefix] at hpart
      simp only [Decoder.run, hlen, hpart, bne_self_eq_false, Bool.false_eq_true, if_true, if_false]
    · simpa only [Decoder.run, List.append_assoc] using hd
  · have hpre' : ¬ utf8Mark <+: kept ++ (a ++ b) := by
      rw [← List.append_assoc]
      intro h
      rcases List.prefix_or_prefix_of_prefix h (List.prefix_append _ b) with h | h
      · exact hpre h
      · exact hpart h
    have hpart' : ¬ (kept ++ (a ++ b)) <+: utf8Mark := by
      rw [← List.append_assoc]
      exact fun h => hpart ((List.prefix_append _ b).trans h)
    rw [run_utf8Marked_other hpart' hpre', ← List.append_assoc] at hd
    obtain ⟨t₁, kept', t₂, h1, ht, h2⟩ := later hd
    refine ⟨t₁, kept', .none, t₂, ?_, ht, h2⟩
    rw [run_utf8Marked_other hpart hpre, h1]

end

section
variable {kept a b k : Bytes} {mark : Mark} {fin : Bool} {t : Text}

theorem run_utf16_little (hm : mark ≠ .little ∧ mark ≠ .big) {y : Bytes}
    (h : kept ++ a = 0xFF :: 0xFE :: y) :
    Decoder.run ⟨.utf16, kept, mark⟩ fin a = ((decodeUtf16 fin false y).skip 2, .little) := by
  cases mark <;> simp_all [Decoder.run]

theorem run_utf16_big (hm : mark ≠ .little ∧ mark ≠ .big) {y : Bytes}
    (h : kept ++ a = 0xFE :: 0xFF :: y) :
    Decoder.run ⟨.utf16, kept, mark⟩ fin a = ((decodeUtf16 fin true y).skip 2, .big) := by
  cases mark <;> simp_all [Decoder.run]

theorem run_utf16_other (hm : mark ≠ .little ∧ mark ≠ .big)
    (hl : ∀ y, kept ++ a ≠ 0xFF :: 0xFE :: y) (hb : ∀ y, kept ++ a ≠ 0xFE :: 0xFF :: y) :
    Decoder.run ⟨.utf16, kept, mark⟩ fin a =
      match decodeUtf16 fin false (kept ++ a) with
      | .ok (t, k) =>
        if (kept ++ a).length ≥ 2 && k.length ≤ (kept ++ a).length - 2 then
          (.error ⟨.missingMark, 0, 0⟩, .unseen)
        else (.ok (t, k), .unseen)
      | e => (e, .unseen) := by
  generalize hx : kept ++ a = x at hl hb
  have hrun : Decoder.run ⟨.utf16, kept, mark⟩ fin a = Decoder.run ⟨.utf16, [], .unseen⟩ fin x := by
    cases mark <;> simp_all [Decoder.run]
  rw [hrun]
  rcases hd : decodeUtf16 fin false x with s | ⟨t, k⟩ <;> simp [Decoder.run, hd]

/-- Without a mark in front, an input passes only as long as nothing of it is decoded. -/
theorem run_utf16_other_ok (hm : mark ≠ .little ∧ mark ≠ .big)
    (hl : ∀ y, kept ++ a ≠ 0xFF :: 0xFE :: y) (hb : ∀ y, kept ++ a ≠ 0xFE :: 0xFF :: y)
    (h : (Decoder.run ⟨.utf16, kept, mark⟩ fin a).1 = .ok (t, k)) :
    decodeUtf16 fin false (kept ++ a) = .ok ([], kept ++ a) := by
  rw [run_utf16_other hm hl hb] at h
  rcases hd : decodeUtf16 fin false (kept ++ a) with s | ⟨t', k'⟩
  · simp [hd] at h
  obtain ⟨ws, hws, he, _⟩ := stepwise_codes (decodeUtf16_stepwise false) hd
  cases hws with
  | nil =>
    rw [List.flatten_nil, List.nil_append] at he
    rw [← he]
  | @cons c w _ ws hw _ =>
    -- A code of two bytes has been taken, so the mark is known to be missing.
    have hlen := congrArg List.length he
    rw [List.flatten_cons, List.length_append, List.length_append, List.length_append] at hlen
    have hw' : 2 ≤ w.length := hw
    have hmissing : ((kept ++ a).length ≥ 2 && k'.length ≤ (kept ++ a).length - 2) = true := by
      simp only [List.length_append, ge_iff_le, Bool.and_eq_true, decide_eq_true_eq]
      omega
    simp only [hd, hmissing, if_true] at h
    cases h

theorem run_append_utf16
    (hd : (Decoder.run ⟨.utf16, kept, mark⟩ fin (a ++ b)).1 = .ok (t, k)) :
    ∃ t₁ kept' mark' t₂, Decoder.run ⟨.utf16, kept, mark⟩ false a = (.ok (t₁, kept'), mark') ∧
      t = t₁ ++ t₂ ∧ (Decoder.run ⟨.utf16, kept', mark'⟩ fin b).1 = .ok (t₂, k) := by
  by_cases hlittle : mark = .little
  · subst hlittle
    exact run_append_plain (decodeUtf16_stepwise false) (fun _ _ _ => rfl) hd
  by_cases hbig : mark = .big
  · subst hbig
    exact run_append_plain (decodeUtf16_stepwise true) (fun _ _ _ => rfl) hd
  have hm : mark ≠ .little ∧ mark ≠ .big := ⟨hlittle, hbig⟩
  -- Nothing is lost while the decoder only keeps what it is given.
  have undecided (h : Decoder.run ⟨.utf16, kept, mark⟩ false a = (.ok ([], kept ++ a), .unseen)) :
      ∃ t₁ kept' mark' t₂, Decoder.run ⟨.utf16, kept, mark⟩ false a = (.ok (t₁, kept'), mark') ∧
        t = t₁ ++ t₂ ∧ (Decoder.run ⟨.utf16, kept', mark'⟩ fin b).1 = .ok (t₂, k) := by
    refine ⟨[], kept ++ a, .unseen, t, h, rfl, ?_⟩
    rw [← hd]
    cases mark <;> simp_all [Decoder.run]
  rcases hx : kept ++ a with _ | ⟨u, _ | ⟨v, y⟩⟩
  · refine undecided ?_
    rw [run_utf16_other hm (by simp [hx]) (by simp [hx]), hx]
    rfl
  · refine undecided ?_
    rw [run_utf16_other hm (by simp [hx]) (by simp [hx]), hx]
    rfl
  have hxb : kept ++ (a ++ b) = u :: v :: (y ++ b) := by
    rw [← List.append_assoc, hx, List.cons_append, List.cons_append]
  by_cases hl : u = 0xFF ∧ v = 0xFE
  · obtain ⟨rfl, rfl⟩ := hl
    rw [run_utf16_little hm hxb, decoded_skip_ok] at hd
    obtain ⟨t₁, kept', t₂, h1, ht, h2⟩ := stepwise_append (decodeUtf16_stepwise false) hd
    refine ⟨t₁, kept', .little, t₂, ?_, ht, h2⟩
    rw [run_utf16_little hm hx, h1]
    rfl
  by_cases hr : u = 0xFE ∧ v = 0xFF
  · obtain ⟨rfl, rfl⟩ := hr
    rw [run_utf16_big hm hxb, decoded_skip_ok] at hd
    obtain ⟨t₁, kept', t₂, h1, ht, h2⟩ := stepwise_append (decodeUtf16_stepwise true) hd
    refine ⟨t₁, kept', .big, t₂, ?_, ht, h2⟩
    rw [run_utf16_big hm hx, h1]
    rfl
  have hl' (r y' : Bytes) : u :: v :: r ≠ 0xFF :: 0xFE :: y' := by
    intro h
    injection h with h h'
    injection h' with h' _
    exact hl ⟨h, h'⟩
  have hr' (r y' : Bytes) : u :: v :: r ≠ 0xFE :: 0xFF :: y' := by
    intro h
    injection h with h h'
    injection h' with h' _
    exact hr ⟨h, h'⟩
  refine undecided ?_
  have hok := run_utf16_other_ok hm (by simpa only [hxb] using hl' (y ++ b))
    (by simpa only [hxb] using hr' (y ++ b)) hd
  rw [← List.append_assoc] at hok
  obtain ⟨t₁, kept', t₂, h1, ht, -⟩ := stepwise_append (decodeUtf16_stepwise false) hok
  obtain ⟨rfl, -⟩ : t₁ = [] ∧ t₂ = [] := by simpa using ht.symm
  obtain ⟨ws, hws, he, -⟩ := stepwise_codes (decodeUtf16_stepwise false) h1
  cases hws
  rw [List.flatten_nil, List.nil_append] at he
  rw [run_utf16_other hm (by simpa only [hx] using hl' y) (by simpa only [hx] using hr' y), h1, ← he]
  simp
  omega

end

/-- Input in two pieces, for every character set: the first piece decodes by itself, and the decoder
it leaves decodes the second to the rest. -/
theorem run_append {d : Decoder} {fin : Bool} {a b k : Bytes} {t : Text}
    (hd : (d.run fin (a ++ b)).1 = .ok (t, k)) :
    ∃ t₁ kept mark t₂, d.run false a = (.ok (t₁, kept), mark) ∧ t = t₁ ++ t₂ ∧
      (Decoder.run { d with kept, mark } fin b).1 = .ok (t₂, k) := by
  obtain ⟨cs, kept, mark⟩ := d
  cases cs with
  | utf8 => exact run_append_plain decodeUtf8_stepwise (fun _ _ _ => rfl) hd
  | utf8Marked => exact run_append_utf8Marked hd
  | ascii => exact run_append_plain decodeAscii_stepwise (fun _ _ _ => rfl) hd
  | windows1252 => exact run_append_plain decodeWindows1252_stepwise (fun _ _ _ => rfl) hd
  | utf16 => exact run_append_utf16 hd
  | utf16Little => exact run_append_plain (decodeUtf16_stepwise false) (fun _ _ _ => rfl) hd
  | utf16Big => exact run_append_plain (decodeUtf16_stepwise true) (fun _ _ _ => rfl) hd
  | latin1 =>
    simp only [Decoder.run, Except.ok.injEq, Prod.mk.injEq] at hd
    obtain ⟨rfl, rfl⟩ := hd
    refine ⟨_, [], mark, _, rfl, ?_, rfl⟩
    simp

end Excerpt
