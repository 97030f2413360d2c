import Excerpt.Proofs.JsonDepth
import Excerpt.Proofs.Terminators

/-! Line ends do not matter to a JSON text: with a line feed for each of them it has the same value, or
the same fault at another position. Between values they are blanks like others, and none may stand in a
string, a number or a word. -/
namespace Excerpt.Json

open Settings (plainLines)

/-! ### The first characters of a text with plain line ends -/

section
variable {t : Text}

theorem head?_plainLines {b : Char} (hb : b ≠ '\n' ∧ b ≠ '\r') :
    (plainLines t).head? = some b ↔ t.head? = some b := by
  fun_cases plainLines t with
  | case1 => simp
  | case2 r | case3 r => simp [hb.1.symm, hb.2.symm]
  | case4 c r => simp

theorem plainLines_eq_cons {b : Char} {u : Text} (hb : b ≠ '\n' ∧ b ≠ '\r')
    (h : plainLines t = b :: u) : ∃ r, t = b :: r ∧ plainLines r = u := by
  obtain ⟨r, rfl⟩ := List.head?_eq_some_iff.mp ((head?_plainLines hb).mp (by rw [h]; rfl))
  rw [plainLines_cons hb.2] at h
  exact ⟨r, rfl, (List.cons.inj h).2⟩

/-- A return becomes a line feed, whatever follows it. -/
theorem plainLines_return_cons (r : Text) : ∃ u, plainLines ('\r' :: r) = '\n' :: u := by
  by_cases hr : r.head? = some '\n'
  · obtain ⟨r, rfl⟩ := List.head?_eq_some_iff.mp hr
    exact ⟨plainLines r, rfl⟩
  · exact ⟨plainLines r, plainLines_return hr⟩

theorem isEmpty_plainLines : (plainLines t).isEmpty = t.isEmpty := by
  rw [Bool.eq_iff_iff, List.isEmpty_iff, List.isEmpty_iff, plainLines_eq_nil]

theorem drop_plainLines {n : ℕ} (h : '\r' ∉ t.take n) :
    (plainLines t).drop n = plainLines (t.drop n) := by
  induction n generalizing t with
  | zero => rfl
  | succ n ih =>
    cases t with
    | nil => rfl
    | cons c t =>
      rw [List.take_succ_cons, List.mem_cons, not_or] at h
      rw [plainLines_cons (Ne.symm h.1), List.drop_succ_cons, List.drop_succ_cons, ih h.2]

theorem takeWhile_plainLines {p : Char → Bool} (hfeed : p '\n' = false) (hreturn : p '\r' = false) :
    (plainLines t).takeWhile p = t.takeWhile p := by
  fun_induction plainLines t with
  | case1 => rfl
  | case2 r ih | case3 r _ ih => simp [hfeed, hreturn]
  | case4 c r _ _ ih => rw [List.takeWhile_cons, List.takeWhile_cons, ih]

theorem startsWith_plainLines {w : Text} (hw : NoBreak w) :
    startsWith w (plainLines t) = startsWith w t := by
  induction w generalizing t with
  | nil => simp [startsWith]
  | cons b w ih =>
    rw [NoBreak, List.forall_mem_cons] at hw
    fun_cases plainLines t with
    | case1 => rfl
    | case2 r | case3 r =>
      have hfeed : (b == '\n') = false := beq_false_of_ne hw.1.1
      have hreturn : (b == '\r') = false := beq_false_of_ne hw.1.2
      simp only [startsWith, List.isPrefixOf, hfeed, hreturn, Bool.false_and]
    | case4 c r =>
      have hrest : w.isPrefixOf (plainLines r) = w.isPrefixOf r := ih hw.2
      simp only [startsWith, List.isPrefixOf, hrest]

theorem dropWhile_plainLines :
    (plainLines t).dropWhile isJsonBlank = plainLines (t.dropWhile isJsonBlank) := by
  -- A return and its line feed are two blanks in the text and one in the copy.
  have hfeed : isJsonBlank '\n' = true := by decide
  have hreturn : isJsonBlank '\r' = true := by decide
  fun_induction plainLines t with
  | case1 => rfl
  | case2 r ih => simp [hfeed, hreturn, ih]
  | case3 r _ ih => simp [hfeed, hreturn, ih]
  | case4 c r _ hc ih =>
    rw [List.dropWhile_cons, List.dropWhile_cons]
    split_ifs
    · exact ih
    · exact (plainLines_cons hc r).symm

end

theorem skipBlank_rest (c : Cursor) : c.skipBlank.rest = c.rest.dropWhile isJsonBlank :=
  calc c.rest.drop (c.rest.takeWhile isJsonBlank).length
    _ = (c.rest.takeWhile isJsonBlank ++ c.rest.dropWhile isJsonBlank).drop
          (c.rest.takeWhile isJsonBlank).length := by rw [List.takeWhile_append_dropWhile]
    _ = c.rest.dropWhile isJsonBlank := List.drop_left

/-! ### Readings that are alike -/

/-- A cursor in a text and one at the same place in its copy with plain line ends. -/
def Copied (c c' : Cursor) : Prop := c'.rest = plainLines c.rest

/-- Two readings, of a text and of its copy: the same value and places that correspond, or the same
problem. -/
inductive Alike {α : Type} : Except Fault (α × Cursor) → Except Fault (α × Cursor) → Prop
  | ok (a : α) {c c' : Cursor} (h : Copied c c') : Alike (.ok (a, c)) (.ok (a, c'))
  | error (problem : Problem) (p q : ℕ) : Alike (fail problem p) (fail problem q)

section
variable {α β : Type} {c c' : Cursor}

theorem Alike.bind {x y : Except Fault (α × Cursor)} {f g : α × Cursor → Except Fault (β × Cursor)}
    (h : Alike x y)
    (hf : ∀ a c c', x = .ok (a, c) → y = .ok (a, c') → Copied c c' → Alike (f (a, c)) (g (a, c'))) :
    Alike (x >>= f) (y >>= g) := by
  cases h with
  | ok a h => exact hf a _ _ rfl rfl h
  | error problem p q => exact .error problem p q

theorem Alike.map {x y : Except Fault (α × Cursor)} (h : Alike x y) (f : α → β) :
    Alike (x >>= fun r => .ok (f r.1, r.2)) (y >>= fun r => .ok (f r.1, r.2)) :=
  h.bind fun a _ _ _ _ hc => .ok (f a) hc

theorem alike_ite {P Q : Prop} [Decidable P] [Decidable Q] {x x' y y' : Except Fault (α × Cursor)}
    (hPQ : Q ↔ P) (hx : P → Alike x x') (hy : ¬ P → Alike y y') :
    Alike (if P then x else y) (if Q then x' else y') := by
  by_cases hP : P
  · rw [if_pos hP, if_pos (hPQ.mpr hP)]
    exact hx hP
  · rw [if_neg hP, if_neg (hPQ.not.mpr hP)]
    exact hy hP

theorem Copied.skipBlank (h : Copied c c') : Copied c.skipBlank c'.skipBlank := by
  rw [Copied] at h ⊢
  rw [skipBlank_rest, skipBlank_rest, h, dropWhile_plainLines]

theorem Copied.advance {n : ℕ} (h : Copied c c') (hn : '\r' ∉ c.rest.take n) :
    Copied (c.advance n) (c'.advance n) := by
  rw [Copied] at h ⊢
  change c'.rest.drop n = plainLines (c.rest.drop n)
  rw [h, drop_plainLines hn]

theorem Copied.head {b : Char} (h : Copied c c') (hb : b ≠ '\n' ∧ b ≠ '\r') :
    c'.rest.head? = some b ↔ c.rest.head? = some b := by
  rw [Copied] at h
  rw [h, head?_plainLines hb]

/-- Past one character that is no line end. -/
theorem Copied.step {b : Char} (h : Copied c c') (hhead : c.rest.head? = some b) (hb : b ≠ '\r') :
    Copied (c.advance 1) (c'.advance 1) := by
  obtain ⟨r, hr⟩ := List.head?_eq_some_iff.mp hhead
  exact h.advance (by simpa [hr] using hb.symm)

end

/-! ### Strings -/

/-- The number of `k` hexadecimal digits that go on with `acc`, and what follows them. -/
def hexDigits? : ℕ → ℕ → Text → Option (ℕ × Text)
  | 0, acc, t => some (acc, t)
  | _ + 1, _, [] => none
  | k + 1, acc, a :: r => (hexValue? a).bind fun n => hexDigits? k (acc * 16 + n) r

theorem hex4?_eq (t : Text) : hex4? t = hexDigits? 4 0 t := by
  match t with
  | [] => rfl
  | [a] | [a, b] | [a, b, c] => simp [hex4?, hexDigits?]
  | a :: b :: c :: d :: r => simp [hex4?, hexDigits?]

theorem hexDigits?_plainLines (k acc : ℕ) (t : Text) :
    hexDigits? k acc (plainLines t) = (hexDigits? k acc t).map fun u => (u.1, plainLines u.2) := by
  have hfeed : hexValue? '\n' = none := by decide
  have hreturn : hexValue? '\r' = none := by decide
  induction k generalizing acc t with
  | zero => rfl
  | succ k ih =>
    fun_cases plainLines t with
    | case1 => rfl
    | case2 r | case3 r => simp [hexDigits?, hfeed, hreturn]
    | case4 c r =>
      simp only [hexDigits?, ih]
      rw [Option.map_bind]
      rfl

theorem unit?_plainLines (t : Text) :
    unit? (plainLines t) = (unit? t).map fun u => (u.1, plainLines u.2) := by
  rw [unit?, unit?, hex4?_eq, hex4?_eq, hexDigits?_plainLines]
  rcases hexDigits? 4 0 t with _ | ⟨n, r⟩
  · rfl
  · rw [Option.map_some, Option.filter_some, Option.filter_some, isEmpty_plainLines]
    cases r.isEmpty <;> rfl

/-- A piece of a text and one of its copy: the same character, and the rests correspond. -/
def copiedPiece (x : Except Problem (Option Char × Text)) : Except Problem (Option Char × Text) :=
  x.map fun r => (r.1, plainLines r.2)

theorem secondUnit_plainLines (n : ℕ) (t : Text) :
    secondUnit n (plainLines t) = copiedPiece (secondUnit n t) := by
  by_cases hback : ∃ r, t = '\\' :: 'u' :: r
  · obtain ⟨r, rfl⟩ := hback
    rw [plainLines_cons (by decide), plainLines_cons (by decide), secondUnit, secondUnit,
      unit?_plainLines]
    split_ifs
    swap
    · rfl
    rcases unit? r with _ | ⟨m, r'⟩
    · rfl
    · simp only [Option.map_some]
      split_ifs <;> rfl
  · have hcopy (r : Text) : plainLines t ≠ '\\' :: 'u' :: r := by
      intro h
      obtain ⟨u, rfl, hu⟩ := plainLines_eq_cons (by decide) h
      obtain ⟨v, rfl, -⟩ := plainLines_eq_cons (by decide) hu
      exact hback ⟨v, rfl⟩
    rw [secondUnit_lone fun r _ => hcopy r, secondUnit_lone fun r _ h => hback ⟨r, h⟩]
    rfl

theorem piece_plainLines (t : Text) : piece (plainLines t) = copiedPiece (piece t) := by
  rcases t with _ | ⟨c, t⟩
  · rfl
  by_cases hreturn : c = '\r'
  · subst hreturn
    obtain ⟨u, hu⟩ := plainLines_return_cons t
    rw [hu]
    rfl
  rw [plainLines_cons hreturn]
  by_cases hquote : c = '"'
  · subst hquote
    rfl
  by_cases hback : c = '\\'
  swap
  · rw [piece_plain hquote hback, piece_plain hquote hback]
    split_ifs <;> rfl
  subst hback
  rcases t with _ | ⟨e, t⟩
  · rfl
  by_cases hreturn' : e = '\r'
  · subst hreturn'
    obtain ⟨u, hu⟩ := plainLines_return_cons t
    rw [hu]
    rfl
  rw [plainLines_cons hreturn']
  by_cases hunit : e = 'u'
  · subst hunit
    simp only [piece, unit?_plainLines]
    rcases unit? t with _ | ⟨n, r⟩
    · rfl
    · exact secondUnit_plainLines n r
  · rw [piece_escape hunit, piece_escape hunit]
    cases simpleEscape? e <;> rfl

/-- The readings of a string in a text and in its copy, with fuel for each character of either. -/
theorem alike_stringBody (start start' : ℕ) {fuel fuel' : ℕ} (acc : Text) {t : Text} (p q : ℕ)
    (hfuel : t.length < fuel) (hfuel' : (plainLines t).length < fuel') :
    Alike (stringBody start fuel acc ⟨t, p⟩) (stringBody start' fuel' acc ⟨plainLines t, q⟩) := by
  induction fuel generalizing fuel' acc t p q with
  | zero => exact absurd hfuel (Nat.not_lt_zero _)
  | succ fuel ih =>
    obtain ⟨fuel', rfl⟩ := Nat.exists_eq_succ_of_ne_zero (Nat.ne_zero_of_lt hfuel')
    have hstep := stringStep start acc p (Nat.le_of_lt_succ hfuel)
    have hstep' := stringStep start' acc q (Nat.le_of_lt_succ hfuel')
    have hcopy := piece_plainLines t
    generalize stringBody start (fuel + 1) acc ⟨t, p⟩ = x at hstep ⊢
    generalize stringBody start' (fuel' + 1) acc ⟨plainLines t, q⟩ = y at hstep' ⊢
    -- The copy's piece is the copy of the piece, so both take the same kind of step.
    cases hstep with
    | fault p h =>
      rw [h] at hcopy
      cases hstep' with
      | fault q h' =>
        cases hcopy.symm.trans h'
        exact .error _ p q
      | quote q h' | char q h' => cases hcopy.symm.trans h'
    | quote p h =>
      rw [h] at hcopy
      cases hstep' with
      | quote q h' =>
        cases hcopy.symm.trans h'
        exact .ok acc rfl
      | fault q h' | char q h' => cases hcopy.symm.trans h'
    | @char c r p h =>
      rw [h] at hcopy
      cases hstep' with
      | char q h' =>
        have hroom : r.length < fuel := lt_of_lt_of_le (piece_ok h).2 (Nat.le_of_lt_succ hfuel)
        have hroom' := lt_of_lt_of_le (piece_ok h').2 (Nat.le_of_lt_succ hfuel')
        cases hcopy.symm.trans h'
        exact ih (c :: acc) p q hroom hroom'
      | fault q h' | quote q h' => cases hcopy.symm.trans h'

theorem alike_string {c c' : Cursor} (h : Copied c c') : Alike (string c) (string c') := by
  obtain ⟨t, p⟩ := c
  obtain ⟨t', q⟩ := c'
  obtain rfl : t' = plainLines t := h
  have hbody := alike_stringBody (p - 1) (q - 1) [] p q (Nat.lt_succ_self t.length)
    (Nat.lt_succ_self (plainLines t).length)
  exact hbody.map fun body => String.ofList body.reverse

/-! ### Numbers and words -/

section
variable (t : Text)

theorem signOf_plainLines : signOf (plainLines t) = ((signOf t).1, plainLines (signOf t).2) := by
  by_cases h : t.head? = some '-'
  · obtain ⟨r, rfl⟩ := List.head?_eq_some_iff.mp h
    rw [plainLines_cons (by decide)]
    rfl
  · have hsign {t : Text} (h : t.head? ≠ some '-') : signOf t = (false, t) := by
      rw [signOf]
      intro r hr
      exact h (by rw [hr]; rfl)
    rw [hsign h, hsign ((head?_plainLines (by decide)).not.mpr h)]

theorem digits_plainLines : (plainLines t).takeWhile Char.isDigit = t.takeWhile Char.isDigit :=
  takeWhile_plainLines (by decide) (by decide)

theorem wholeDigits_plainLines : wholeDigits (plainLines t) = wholeDigits t := by
  by_cases h : t.head? = some '0'
  · obtain ⟨r, rfl⟩ := List.head?_eq_some_iff.mp h
    rw [plainLines_cons (by decide)]
    rfl
  · have hwhole {t : Text} (h : t.head? ≠ some '0') : wholeDigits t = t.takeWhile Char.isDigit := by
      rw [wholeDigits]
      intro r hr
      exact h (by rw [hr]; rfl)
    rw [hwhole h, hwhole ((head?_plainLines (by decide)).not.mpr h), digits_plainLines]

theorem fractionDigits_plainLines : fractionDigits (plainLines t) = fractionDigits t := by
  by_cases h : t.head? = some '.'
  · obtain ⟨r, rfl⟩ := List.head?_eq_some_iff.mp h
    rw [plainLines_cons (by decide)]
    exact digits_plainLines r
  · have hnone {t : Text} (h : t.head? ≠ some '.') : fractionDigits t = [] := by
      rw [fractionDigits]
      intro r hr
      exact h (by rw [hr]; rfl)
    rw [hnone h, hnone ((head?_plainLines (by decide)).not.mpr h)]

/-- The sign of an exponent, the length of what comes before its digits, and the text from them on. -/
def exponentSign : Text → Bool × ℕ × Text
  | '-' :: r => (true, 2, r)
  | '+' :: r => (false, 2, r)
  | r => (false, 1, r)

theorem exponent?_cons (e : Char) (r : Text) :
    exponent? (e :: r) =
      if e == 'e' || e == 'E' then
        let ds := (exponentSign r).2.2.takeWhile Char.isDigit
        if ds.isEmpty then none
        else some (if (exponentSign r).1 then -(natOfDigits ds : ℤ) else natOfDigits ds,
          (exponentSign r).2.1 + ds.length)
      else none := by
  rfl

theorem exponentSign_plainLines :
    exponentSign (plainLines t) =
      ((exponentSign t).1, (exponentSign t).2.1, plainLines (exponentSign t).2.2) := by
  by_cases hminus : t.head? = some '-'
  · obtain ⟨r, rfl⟩ := List.head?_eq_some_iff.mp hminus
    rw [plainLines_cons (by decide)]
    rfl
  by_cases hplus : t.head? = some '+'
  · obtain ⟨r, rfl⟩ := List.head?_eq_some_iff.mp hplus
    rw [plainLines_cons (by decide)]
    rfl
  have hnone {t : Text} (hminus : t.head? ≠ some '-') (hplus : t.head? ≠ some '+') :
      exponentSign t = (false, 1, t) := by
    rw [exponentSign]
    · intro r hr
      exact hminus (by rw [hr]; rfl)
    · intro r hr
      exact hplus (by rw [hr]; rfl)
  rw [hnone hminus hplus, hnone ((head?_plainLines (by decide)).not.mpr hminus)
    ((head?_plainLines (by decide)).not.mpr hplus)]

theorem exponent?_plainLines : exponent? (plainLines t) = exponent? t := by
  rcases t with _ | ⟨e, r⟩
  · rfl
  by_cases hreturn : e = '\r'
  · subst hreturn
    obtain ⟨u, hu⟩ := plainLines_return_cons r
    rw [hu]
    rfl
  · rw [plainLines_cons hreturn, exponent?_cons, exponent?_cons, exponentSign_plainLines,
      digits_plainLines]

/-! A number has no line end in it, so what follows it in the copy is the copy of what follows it. -/

theorem digits_clear : '\r' ∉ t.take (t.takeWhile Char.isDigit).length := by
  intro hmem
  rw [← List.prefix_iff_eq_take.mp (List.takeWhile_prefix _)] at hmem
  have hdigit := List.mem_takeWhile_imp hmem
  revert hdigit
  decide

theorem clear_add {n m : ℕ} (hn : '\r' ∉ t.take n) (hm : '\r' ∉ (t.drop n).take m) :
    '\r' ∉ t.take (n + m) := by
  rw [List.take_add, List.mem_append, not_or]
  exact ⟨hn, hm⟩

def signSize : ℕ := if (signOf t).1 then 1 else 0

def fractionSize : ℕ := if (fractionDigits t).isEmpty then 0 else (fractionDigits t).length + 1

def powerSize : ℕ := ((exponent? t).getD (0, 0)).2

/-- How many characters a number takes that starts here. -/
def numberSize : ℕ :=
  let body := (signOf t).2
  let afterWhole := body.drop (wholeDigits body).length
  signSize t + (wholeDigits body).length + fractionSize afterWhole +
    powerSize (afterWhole.drop (fractionSize afterWhole))

theorem drop_signSize : t.drop (signSize t) = (signOf t).2 := by
  rw [signSize]
  fun_cases signOf t <;> rfl

theorem sign_clear : '\r' ∉ t.take (signSize t) := by
  rw [signSize]
  fun_cases signOf t <;> simp

theorem whole_clear : '\r' ∉ t.take (wholeDigits t).length := by
  fun_cases wholeDigits t with
  | case1 r => simp
  | case2 => exact digits_clear t

theorem fraction_clear : '\r' ∉ t.take (fractionSize t) := by
  rw [fractionSize]
  fun_cases fractionDigits t with
  | case1 r =>
    split_ifs
    · simp
    · simpa using digits_clear r
  | case2 => simp

theorem exponentSign_clear {n : ℕ} (e : Char) (he : e ≠ '\r')
    (h : '\r' ∉ (exponentSign t).2.2.take n) : '\r' ∉ (e :: t).take ((exponentSign t).2.1 + n) := by
  revert h
  fun_cases exponentSign t with
  | case1 r | case2 r => simp [Nat.add_comm 2, he.symm]
  | case3 => simp [Nat.add_comm 1, he.symm]

theorem power_clear : '\r' ∉ t.take (powerSize t) := by
  rw [powerSize]
  rcases t with _ | ⟨e, r⟩
  · simp
  by_cases hsome : (exponent? (e :: r)).isSome = true
  swap
  · rw [Option.not_isSome_iff_eq_none.mp hsome]
    simp
  rw [exponent?_cons] at hsome ⊢
  split at hsome
  swap
  · cases hsome
  next he =>
  rw [if_pos he]
  dsimp only at hsome ⊢
  split at hsome
  · cases hsome
  next hdigits =>
  rw [if_neg hdigits]
  have hsign : e ≠ '\r' := by
    intro hreturn
    subst hreturn
    revert he
    decide
  exact exponentSign_clear r e hsign (digits_clear _)

theorem number_clear : '\r' ∉ t.take (numberSize t) := by
  -- Sign, whole digits, fraction and power, each behind the one before it.
  have hsign := drop_signSize t
  have hwhole : t.drop (signSize t + (wholeDigits (signOf t).2).length) =
      (signOf t).2.drop (wholeDigits (signOf t).2).length := by
    rw [← List.drop_drop, hsign]
  rw [numberSize]
  apply clear_add
  · apply clear_add
    · exact clear_add t (sign_clear t) (by rw [hsign]; exact whole_clear _)
    · rw [hwhole]
      exact fraction_clear _
  · rw [← List.drop_drop, hwhole]
    exact power_clear _

end

theorem alike_number {c c' : Cursor} (h : Copied c c') : Alike (number c) (number c') := by
  obtain ⟨t, p⟩ := c
  obtain ⟨t', q⟩ := c'
  obtain rfl : t' = plainLines t := h
  have hnext : Copied (Cursor.advance ⟨t, p⟩ (numberSize t))
      (Cursor.advance ⟨plainLines t, q⟩ (numberSize t)) := Copied.advance rfl (number_clear t)
  -- The copy has the same sign, digits and power, so it is read by the same rule.
  have hwhole := drop_plainLines (whole_clear (signOf t).2)
  have hfraction :=
    drop_plainLines (fraction_clear ((signOf t).2.drop (wholeDigits (signOf t).2).length))
  rw [fractionSize] at hfraction
  simp only [number, signOf_plainLines, wholeDigits_plainLines, hwhole, fractionDigits_plainLines,
    hfraction, exponent?_plainLines]
  refine alike_ite Iff.rfl (fun _ => .error _ p q) fun _ => ?_
  refine alike_ite Iff.rfl (fun _ => ?_) fun _ => .ok _ hnext
  exact alike_ite Iff.rfl (fun _ => .error _ p q) fun _ => .ok _ hnext

theorem words_noBreak {w : Text × Json} (hw : w ∈ words) : NoBreak w.1 := by
  have hall : ∀ t ∈ words.map Prod.fst, NoBreak t := by decide
  exact hall w.1 (List.mem_map_of_mem hw)

theorem alike_scalar {c c' : Cursor} (h : Copied c c') : Alike (scalar c) (scalar c') := by
  -- No word has a line end in it, so the copy starts with the same one.
  have hfind : (words.find? fun w => startsWith w.1 c'.rest) =
      words.find? fun w => startsWith w.1 c.rest := by
    rw [← List.head?_filter, ← List.head?_filter]
    congr 1
    apply List.filter_congr
    intro w hw
    rw [show c'.rest = plainLines c.rest from h, startsWith_plainLines (words_noBreak hw)]
  rw [scalar, scalar, word?_eq, word?_eq, hfind]
  rcases hword : words.find? fun w => startsWith w.1 c.rest with _ | w
  · rw [hword]
    exact alike_number h
  · rw [hword]
    refine .ok w.2 (h.advance ?_)
    have hstart : startsWith w.1 c.rest = true :=
      List.find?_some (p := fun w : Text × Json => startsWith w.1 c.rest) hword
    have hprefix : w.1 <+: c.rest := List.isPrefixOf_iff_prefix.mp hstart
    rw [← List.prefix_iff_eq_take.mp hprefix]
    intro hmem
    exact (words_noBreak (List.mem_of_find?_eq_some hword) _ hmem).2 rfl

/-! ### Values, items and fields -/

section
variable {α : Type} {c c' : Cursor}

theorem alike_opened {close : Char} (empty : Json) {inner inner' : Cursor → Except Fault (Json × Cursor)}
    (h : Copied c c') (hclose : close ≠ '\n' ∧ close ≠ '\r') (hinner : Alike (inner c) (inner' c')) :
    Alike (opened close empty inner c) (opened close empty inner' c') :=
  alike_ite (h.head hclose) (fun hhead => .ok empty (h.step hhead hclose.2)) fun _ => hinner

theorem alike_entryEnd {close : Char} (all : α) {more more' : Cursor → Except Fault (α × Cursor)}
    (h : Copied c c') (hclose : close ≠ '\n' ∧ close ≠ '\r')
    (hmore : c.rest.head? = some ',' →
      Alike (more (c.advance 1).skipBlank) (more' (c'.advance 1).skipBlank)) :
    Alike (entryEnd close all more c) (entryEnd close all more' c') := by
  refine alike_ite (h.head hclose) (fun hhead => .ok all (h.step hhead hclose.2)) fun _ => ?_
  exact alike_ite (h.head (by decide)) hmore fun _ => .error .comma _ _

end

/-- The readers that call each other, in a text and in its copy, as long as there is fuel for two
steps at each character. -/
structure AlikeReaders (fuel fuel' : ℕ) : Prop where
  value : ∀ depth c c', Copied c c' → 2 * c.rest.length < fuel → 2 * c'.rest.length < fuel' →
    Alike (value fuel depth c) (value fuel' depth c')
  items : ∀ depth acc c c', Copied c c' → 2 * c.rest.length + 1 < fuel →
    2 * c'.rest.length + 1 < fuel' → Alike (items fuel depth acc c) (items fuel' depth acc c')
  fields : ∀ depth acc c c', Copied c c' → 2 * c.rest.length < fuel → 2 * c'.rest.length < fuel' →
    Alike (fields fuel depth acc c) (fields fuel' depth acc c')

theorem value_shorter {fuel depth : ℕ} {c c₁ : Cursor} {v : Json}
    (h : value fuel depth c = .ok (v, c₁)) : c₁.rest.length < c.rest.length := by
  have hbound := (boundedReaders fuel).value depth c
  rw [h] at hbound
  exact hbound.2

theorem string_shorter {c c₁ : Cursor} {s : String} (h : string c = .ok (s, c₁)) :
    c₁.rest.length < c.rest.length := by
  have hbound := bounded_string 0 c
  rw [h] at hbound
  exact hbound.2

/-- Blanks, one character and blanks again. -/
theorem length_past (c : Cursor) : (c.skipBlank.advance 1).skipBlank.rest.length ≤ c.rest.length :=
  calc (c.skipBlank.advance 1).skipBlank.rest.length
    _ ≤ (c.skipBlank.advance 1).rest.length := (skipBlank_suffix _).length_le
    _ ≤ c.skipBlank.rest.length := (advance_suffix _ 1).length_le
    _ ≤ c.rest.length := (skipBlank_suffix c).length_le

section
variable {fuel fuel' : ℕ} (ih : AlikeReaders fuel fuel') (depth : ℕ) {c c' : Cursor} (h : Copied c c')

include ih h

theorem alike_value (hfuel : 2 * c.rest.length < fuel + 1) (hfuel' : 2 * c'.rest.length < fuel' + 1) :
    Alike (value (fuel + 1) depth c) (value (fuel' + 1) depth c') := by
  by_cases hscalar : ∀ b ∈ c.rest.head?, b ≠ '"' ∧ isOpening b = false
  · -- The copy starts with the same character, or with a line feed for another line end.
    have hscalar' : ∀ b ∈ c'.rest.head?, b ≠ '"' ∧ isOpening b = false := by
      intro b hb
      by_cases hend : b = '\n' ∨ b = '\r'
      · rcases hend with rfl | rfl <;> decide
      · exact hscalar b ((h.head (not_or.mp hend)).mp hb)
    rw [value_scalar fuel depth hscalar, value_scalar fuel' depth hscalar']
    exact alike_scalar h
  obtain ⟨t, p⟩ := c
  obtain ⟨t', q⟩ := c'
  obtain rfl : t' = plainLines t := h
  rcases t with _ | ⟨b, t⟩
  · simp at hscalar
  have hopen : b = '"' ∨ b = '[' ∨ b = '{' := by
    simpa [isOpening, or_iff_not_imp_left] using hscalar
  have hblank : (Cursor.skipBlank ⟨t, p + 1⟩).rest.length ≤ t.length :=
    (skipBlank_suffix ⟨t, p + 1⟩).length_le
  have hblank' : (Cursor.skipBlank ⟨plainLines t, q + 1⟩).rest.length ≤ (plainLines t).length :=
    (skipBlank_suffix ⟨plainLines t, q + 1⟩).length_le
  have hrest : Copied ⟨t, p + 1⟩ ⟨plainLines t, q + 1⟩ := rfl
  have hcopy := hrest.skipBlank
  rcases hopen with rfl | rfl | rfl
  · rw [plainLines_cons (by decide), value_string, value_string]
    exact (alike_string hrest).map Json.str
  · rw [plainLines_cons (by decide)] at hfuel' ⊢
    rw [List.length_cons] at hfuel hfuel'
    rw [value_bracket, value_bracket]
    refine alike_ite Iff.rfl (fun _ => .error .deepArray p q) fun _ => ?_
    have hitems := ih.items (depth + 1) [] _ _ hcopy (by omega) (by omega)
    exact alike_opened (.arr []) hcopy (by decide) (hitems.map Json.arr)
  · rw [plainLines_cons (by decide)] at hfuel' ⊢
    rw [List.length_cons] at hfuel hfuel'
    rw [value_brace, value_brace]
    refine alike_ite Iff.rfl (fun _ => .error .deepObject p q) fun _ => ?_
    have hfields := ih.fields (depth + 1) [] _ _ hcopy (by omega) (by omega)
    exact alike_opened (.obj []) hcopy (by decide) (hfields.map Json.obj)

theorem alike_items (acc : List Json) (hfuel : 2 * c.rest.length + 1 < fuel + 1)
    (hfuel' : 2 * c'.rest.length + 1 < fuel' + 1) :
    Alike (items (fuel + 1) depth acc c) (items (fuel' + 1) depth acc c') := by
  rw [items_succ, items_succ]
  have hvalue := ih.value depth c c' h (by omega) (by omega)
  apply hvalue.bind
  intro v c₁ c₁' hv hv' h₁
  dsimp only
  apply alike_entryEnd _ h₁.skipBlank (by decide)
  intro hcomma
  have hlen := value_shorter hv
  have hlen' := value_shorter hv'
  have hpast := length_past c₁
  have hpast' := length_past c₁'
  exact ih.items depth _ _ _ (h₁.skipBlank.step hcomma (by decide)).skipBlank (by omega) (by omega)

theorem alike_fields (acc : List (String × Json)) (hfuel : 2 * c.rest.length < fuel + 1)
    (hfuel' : 2 * c'.rest.length < fuel' + 1) :
    Alike (fields (fuel + 1) depth acc c) (fields (fuel' + 1) depth acc c') := by
  rw [fields_succ, fields_succ]
  refine alike_ite (h.head (by decide)) (fun hquote => ?_) fun _ => .error .name _ _
  have hname := alike_string (h.step hquote (by decide))
  apply hname.bind
  intro key c₁ c₁' hs hs' h₁
  refine alike_ite (h₁.skipBlank.head (by decide)) (fun hcolon => ?_) fun _ => .error .colon _ _
  -- The name takes at least its two quotes.
  have hlen₁ := lt_of_lt_of_le (string_shorter hs) (advance_suffix c 1).length_le
  have hlen₁' := lt_of_lt_of_le (string_shorter hs') (advance_suffix c' 1).length_le
  have hpast₁ := length_past c₁
  have hpast₁' := length_past c₁'
  have hvalue := ih.value depth _ _ (h₁.skipBlank.step hcolon (by decide)).skipBlank
    (by omega) (by omega)
  apply hvalue.bind
  intro v c₂ c₂' hv hv' h₂
  dsimp only
  apply alike_entryEnd _ h₂.skipBlank (by decide)
  intro hcomma
  have hlen₂ := value_shorter hv
  have hlen₂' := value_shorter hv'
  have hpast₂ := length_past c₂
  have hpast₂' := length_past c₂'
  exact ih.fields depth _ _ _ (h₂.skipBlank.step hcomma (by decide)).skipBlank (by omega) (by omega)

end

theorem alikeReaders (fuel fuel' : ℕ) : AlikeReaders fuel fuel' := by
  -- The copy can be shorter and then starts with less fuel, so each side counts its own.
  induction fuel generalizing fuel' with
  | zero => exact ⟨by omega, by omega, by omega⟩
  | succ fuel ih =>
    rcases fuel' with _ | fuel'
    · exact ⟨by omega, by omega, by omega⟩
    · exact ⟨fun depth _ _ => alike_value (ih fuel') depth,
        fun depth acc _ _ h => alike_items (ih fuel') depth h acc,
        fun depth acc _ _ h => alike_fields (ih fuel') depth h acc⟩

theorem isMarked_plainLines {t : Text} : IsMarked (plainLines t) ↔ IsMarked t := by
  have hsame {c : Char} (hc : c.toNat = 0xFEFF) :
      (plainLines t).head? = some c ↔ t.head? = some c := by
    apply head?_plainLines
    have hend : '\n'.toNat ≠ 0xFEFF ∧ '\r'.toNat ≠ 0xFEFF := by decide
    exact ⟨fun h => hend.1 (h ▸ hc), fun h => hend.2 (h ▸ hc)⟩
  apply exists_congr
  intro c
  exact and_congr_left hsame

/-- A text and its copy with plain line ends have the same value, or the same problem. -/
theorem read_plainLines (t : Text) :
    (read (plainLines t)).mapError Fault.problem = (read t).mapError Fault.problem := by
  by_cases hmark : IsMarked t
  · rw [read_marked hmark, read_marked (isMarked_plainLines.mpr hmark)]
  rw [read_unmarked hmark, read_unmarked (isMarked_plainLines.not.mpr hmark)]
  have hcopy : Copied (Cursor.skipBlank ⟨t, 0⟩) (Cursor.skipBlank ⟨plainLines t, 0⟩) :=
    Copied.skipBlank rfl
  have hblank := (skipBlank_suffix ⟨t, 0⟩).length_le
  have hblank' := (skipBlank_suffix ⟨plainLines t, 0⟩).length_le
  dsimp only at hblank hblank'
  have hvalue := (alikeReaders (2 * t.length + 1) (2 * (plainLines t).length + 1)).value 0 _ _ hcopy
    (by omega) (by omega)
  generalize value (2 * t.length + 1) 0 (Cursor.skipBlank ⟨t, 0⟩) = x at hvalue ⊢
  generalize value (2 * (plainLines t).length + 1) 0 (Cursor.skipBlank ⟨plainLines t, 0⟩) = y at hvalue ⊢
  cases hvalue with
  | error problem p q => rfl
  | @ok v c c' h =>
    have hempty : c'.skipBlank.rest.isEmpty = c.skipBlank.rest.isEmpty := by
      rw [show c'.skipBlank.rest = plainLines c.skipBlank.rest from h.skipBlank, isEmpty_plainLines]
    simp only [bind, Except.bind, hempty]
    split_ifs <;> rfl

theorem read_of_plainLines_ok {t : Text} {v : Json} (h : read (plainLines t) = .ok v) :
    read t = .ok v := by
  have hsame := read_plainLines t
  rw [h] at hsame
  rcases hread : read t with g | w
  · rw [hread] at hsame
    cases hsame
  · rw [hread] at hsame
    rw [Except.ok.inj hsame]

theorem read_of_plainLines_error {t : Text} {f : Fault} (h : read (plainLines t) = .error f) :
    ∃ g, read t = .error g ∧ g.problem = f.problem := by
  have hsame := read_plainLines t
  rw [h] at hsame
  rcases hread : read t with g | w
  · rw [hread] at hsame
    exact ⟨g, rfl, (Except.error.inj hsame).symm⟩
  · rw [hread] at hsame
    cases hsame

end Excerpt.Json
