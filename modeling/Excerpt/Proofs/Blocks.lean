import Excerpt.Proofs.Rows

/-! Whether a text opens a block does not depend on whether its lines end in a line feed or in the
pair. The scan is followed step by step: what a step takes from a line lies in front of the
terminator, and what it leaves is again a line with that terminator. -/
namespace Excerpt.Python.Suite

/-! ### Where a string ends -/

theorem quote_cases {q : Char} (hq : isQuote q = true) : q = '\'' ∨ q = '"' := by
  simpa [isQuote] using hq

theorem afterTriple_cons {q c : Char} (hc : c ≠ '\\') (r : Text) :
    afterTriple q (c :: r) =
      if c == q then
        match r with
        | d :: e :: s => if d == q && e == q then some s else afterTriple q r
        | _ => none
      else afterTriple q r := by
  rcases r with _ | ⟨d, _ | ⟨e, s⟩⟩ <;> simp [afterTriple, hc]

/-- A terminator holds no quote, and one character in front of it holds too few. -/
theorem afterTriple_eol {q : Char} (hq : isQuote q = true) (e : Eol) :
    afterTriple q e.text = none ∧ ∀ c, afterTriple q (c :: e.text) = none := by
  have heol : afterTriple q e.text = none := by
    rcases quote_cases hq with rfl | rfl <;> cases e <;> rfl
  refine ⟨heol, fun c => ?_⟩
  by_cases hc : c = '\\'
  · subst hc
    rcases quote_cases hq with rfl | rfl <;> cases e <;> rfl
  · rw [afterTriple_cons hc, heol]
    rcases quote_cases hq with rfl | rfl <;> cases e <;> simp [Eol.text]

/-- What closes a triple quote lies in front of the terminator. -/
theorem afterTriple_append {q : Char} (hq : isQuote q = true) (r : Text) (e : Eol) :
    afterTriple q (r ++ e.text) = (afterTriple q r).map (· ++ e.text) := by
  obtain ⟨heol, hone⟩ := afterTriple_eol hq e
  have hback {c : Char} (hc : (c == q) = true) : c ≠ '\\' := by
    rintro rfl
    rcases quote_cases hq with rfl | rfl <;> cases hc
  fun_induction afterTriple q r with
  | case1 tail => rfl
  | case2 head r hne ih => simpa [afterTriple, hne] using ih
  | case3 c hc d e' s hde _ _ => simp [afterTriple_cons (hback hc), hc, hde]
  | case4 c hc d e' s hde _ _ ih => simp [afterTriple_cons (hback hc), hc, hde, ← ih]
  | case5 c r _ _ hc hs =>
    -- Too little is left for two more quotes, and the terminator adds none.
    rcases r with _ | ⟨d, _ | ⟨e', s⟩⟩
    · exact hone c
    · obtain ⟨x, t, he, hx⟩ := eol_head e
      have hxq : (x == q) = false := by
        rcases hx with rfl | rfl <;> rcases quote_cases hq with rfl | rfl <;> rfl
      rw [List.cons_append, List.singleton_append, afterTriple_cons (hback hc), hone d, he, hc]
      simp [hxq]
    · exact absurd rfl (hs d e' s)
  | case6 c r _ h2 hc ih =>
    by_cases hb : c = '\\'
    · cases r with
      | nil => exact hone c
      | cons d r => exact absurd rfl (h2 d r hb)
    · rw [List.cons_append, afterTriple_cons hb, if_neg hc]
      exact ih
  | case7 => exact heol

theorem afterContinued_cons {q c : Char} (hc : c ≠ '\\') (r : Text) :
    afterContinued q (c :: r) = if c == q then some r else afterContinued q r := by
  cases r <;> simp [afterContinued, hc]

/-- What closes a continued string lies in front of the terminator. -/
theorem afterContinued_append {q : Char} (hq : isQuote q = true) (r : Text) (e : Eol) :
    afterContinued q (r ++ e.text) = (afterContinued q r).map (· ++ e.text) := by
  have heol : afterContinued q e.text = none ∧ afterContinued q ('\\' :: e.text) = none := by
    rcases quote_cases hq with rfl | rfl <;> cases e <;> exact ⟨rfl, rfl⟩
  fun_induction afterContinued q r with
  | case1 tail => rfl
  | case2 head r hne ih => simpa [afterContinued, hne] using ih
  | case3 c r _ _ hc =>
    have hb : c ≠ '\\' := by
      rintro rfl
      rcases quote_cases hq with rfl | rfl <;> cases hc
    rw [List.cons_append, afterContinued_cons hb, if_pos hc]
    rfl
  | case4 c r _ h2 hc ih =>
    by_cases hb : c = '\\'
    · cases r with
      | nil => rw [hb]; exact heol.2
      | cons d r => exact absurd rfl (h2 d r hb)
    · rw [List.cons_append, afterContinued_cons hb, if_neg hc]
      exact ih
  | case5 => exact heol.1

theorem afterTriple_suffix {q : Char} {r t : Text} (h : afterTriple q r = some t) : t <:+ r := by
  fun_induction afterTriple q r with
  | case1 tail => cases h
  | case2 head r _ ih => exact (ih h).trans ((List.suffix_cons _ _).trans (List.suffix_cons _ _))
  | case3 c _ d e s _ _ _ =>
    obtain rfl : s = t := by simpa using h
    exact ⟨[c, d, e], rfl⟩
  | case4 c _ d e s _ _ _ ih => exact (ih h).trans (List.suffix_cons _ _)
  | case5 => cases h
  | case6 c r _ _ _ ih => exact (ih h).trans (List.suffix_cons _ _)
  | case7 => cases h

theorem afterContinued_suffix {q : Char} {r t : Text} (h : afterContinued q r = some t) :
    t <:+ r := by
  fun_induction afterContinued q r with
  | case1 tail => cases h
  | case2 head r _ ih => exact (ih h).trans ((List.suffix_cons _ _).trans (List.suffix_cons _ _))
  | case3 c r _ _ _ =>
    obtain rfl : r = t := by simpa using h
    exact List.suffix_cons _ _
  | case4 c r _ _ _ ih => exact (ih h).trans (List.suffix_cons _ _)
  | case5 => cases h

theorem stringEnd_cons {q c : Char} (hc : c ≠ '\\') (hn : c ≠ '\n') (r : Text) :
    stringEnd q (c :: r) = if c == q then .closed r else stringEnd q r := by
  rcases r with _ | ⟨d, _ | ⟨e, r⟩⟩ <;> simp [stringEnd, hc]

/-- A string that opens in a line ends in it, or goes on behind a backslash, or does neither; and both
terminators with a line feed agree which. -/
theorem stringEnd_body {q : Char} (hq : isQuote q = true) {r : Text} (hr : NoBreak r) :
    (∃ t, t <:+ r ∧ ∀ e ≠ Eol.cr, stringEnd q (r ++ e.text) = .closed (t ++ e.text)) ∨
      (∀ e ≠ Eol.cr, stringEnd q (r ++ e.text) = .continues) ∨
      ∀ e ≠ Eol.cr, stringEnd q (r ++ e.text) = .never := by
  fun_induction stringEnd q r with
  | case1 tail => exact absurd rfl (hr '\n' (by simp)).1
  | case2 tail => exact absurd rfl (hr '\n' (by simp)).1
  | case3 c r hn _ ih =>
    have hc := hr c (by simp)
    have hstep (e : Eol) : stringEnd q ('\\' :: c :: r ++ e.text) = stringEnd q (r ++ e.text) := by
      simp [stringEnd, hc]
    simp only [hstep]
    have hr' : NoBreak r := fun d hd => hr d (by simp [hd])
    refine (ih hr').imp_left ?_
    rintro ⟨t, ht, hclosed⟩
    exact ⟨t, ht.trans ⟨['\\', c], rfl⟩, hclosed⟩
  | case4 tail => exact absurd rfl (hr '\n' (by simp)).1
  | case5 c r _ _ _ hn hc =>
    have hb : c ≠ '\\' := by
      rintro rfl
      rcases quote_cases hq with rfl | rfl <;> cases hc
    refine Or.inl ⟨r, List.suffix_cons _ _, fun e _ => ?_⟩
    rw [List.cons_append, stringEnd_cons hb hn, if_pos hc]
  | case6 c r _ _ h3 hn hc ih =>
    by_cases hb : c = '\\'
    · -- The backslash ends the line, for no other character follows it.
      cases r with
      | nil =>
        refine Or.inr (Or.inl fun e he => ?_)
        subst hb
        cases e with
        | lf => rfl
        | crlf => rfl
        | cr => exact absurd rfl he
      | cons d r => exact absurd rfl (h3 d r hb)
    · have hstep (e : Eol) : stringEnd q (c :: r ++ e.text) = stringEnd q (r ++ e.text) := by
        rw [List.cons_append, stringEnd_cons hb hn, if_neg hc]
      simp only [hstep]
      have hr' : NoBreak r := fun d hd => hr d (by simp [hd])
      refine (ih hr').imp_left ?_
      rintro ⟨t, ht, hclosed⟩
      exact ⟨t, ht.trans (List.suffix_cons _ _), hclosed⟩
  | case7 =>
    refine Or.inr (Or.inr fun e _ => ?_)
    rcases quote_cases hq with rfl | rfl <;> cases e <;> rfl

/-! ### Where a string starts -/

theorem startBy?_nil (c : Char) (t : Text) :
    startBy? (c :: t) [] = if c == '\'' || c == '"' then some (c, t) else none := rfl

theorem startBy?_cons (c m : Char) (t marks : Text) :
    startBy? (c :: t) (m :: marks) = if m == c.toLower then startBy? t marks else none := by
  by_cases hm : m = c.toLower <;> simp [startBy?, startsWith, hm]

theorem startBy?_append {marks : Text} (hm : NoBreak marks) (r : Text) (e : Eol) :
    startBy? (r ++ e.text) marks = (startBy? r marks).map fun p => (p.1, p.2 ++ e.text) := by
  induction marks generalizing r with
  | nil =>
    cases r with
    | nil => cases e <;> rfl
    | cons c r =>
      rw [List.cons_append, startBy?_nil, startBy?_nil]
      split_ifs <;> rfl
  | cons m marks ih =>
    have hm' : NoBreak marks := fun x hx => hm x (List.mem_cons_of_mem _ hx)
    cases r with
    | nil =>
      obtain ⟨x, t, he, hx⟩ := eol_head e
      have hno : (m == x.toLower) = false := by
        rcases hx with rfl | rfl
        · exact beq_false_of_ne (hm m (by simp)).1
        · exact beq_false_of_ne (hm m (by simp)).2
      rw [List.nil_append, he, startBy?_cons, hno]
      rfl
    | cons c r =>
      rw [List.cons_append, startBy?_cons, startBy?_cons, ih hm']
      split_ifs <;> rfl

theorem stringMarks_plain : ∀ marks ∈ stringMarks, NoBreak marks := by
  decide

theorem stringStart?_append (r : Text) (e : Eol) :
    stringStart? (r ++ e.text) = (stringStart? r).map fun p => (p.1, p.2 ++ e.text) := by
  rw [stringStart?, stringStart?]
  have h := stringMarks_plain
  generalize stringMarks = all at h
  induction all with
  | nil => rfl
  | cons marks all ih =>
    rw [List.findSome?_cons, List.findSome?_cons, startBy?_append (h marks (by simp))]
    rcases startBy? r marks with _ | p
    · exact ih fun x hx => h x (List.mem_cons_of_mem _ hx)
    · rfl

theorem startBy?_some {t marks s : Text} {q : Char} (h : startBy? t marks = some (q, s)) :
    isQuote q = true ∧ s <:+ t ∧ s.length < t.length := by
  rw [startBy?] at h
  split_ifs at h
  rcases hd : t.drop marks.length with _ | ⟨c, r⟩
  · simp [hd] at h
  · simp only [hd] at h
    split_ifs at h with hq
    obtain ⟨rfl, rfl⟩ : c = q ∧ r = s := by simpa using h
    have hsuffix : c :: r <:+ t := hd ▸ List.drop_suffix _ _
    exact ⟨hq, (List.suffix_cons _ _).trans hsuffix, hsuffix.length_le⟩

theorem stringStart?_some {t s : Text} {q : Char} (h : stringStart? t = some (q, s)) :
    isQuote q = true ∧ s <:+ t ∧ s.length < t.length := by
  obtain ⟨marks, _, h⟩ := List.exists_of_findSome?_eq_some h
  exact startBy?_some h

/-! ### One step, and a whole scan -/

theorem isWordChar_eol : isWordChar '\n' = false ∧ isWordChar '\r' = false := by decide

theorem pastWord_eol (c : Char) (r : Text) (e : Eol) :
    pastWord c (r ++ e.text) = pastWord c r ++ e.text := by
  rw [pastWord, pastWord, dropWhile_eol isWordChar_eol]
  split_ifs <;> rfl

theorem pastWord_suffix (c : Char) (r : Text) : pastWord c r <:+ r := by
  rw [pastWord]
  split_ifs
  · exact List.dropWhile_suffix _
  · exact List.suffix_rfl

/-- Only the terminator is left of a line just when nothing stands in front of it. -/
theorem eol_only {r : Text} {e : Eol} (hr : NoBreak r) (he : e ≠ .cr) :
    (r ++ e.text == ['\n'] || r ++ e.text == ['\r', '\n']) = r.isEmpty := by
  cases r with
  | nil =>
    cases e with
    | lf => rfl
    | crlf => rfl
    | cr => exact absurd rfl he
  | cons c r =>
    have hc := hr c (by simp)
    simp [hc]

/-- The quote of a string that is open. -/
def OpenString.quote : OpenString → Char
  | triple q => q
  | continued q => q

/-- What is open is open by one of the two quotes. -/
def Quoted (carry : Carry) : Prop := ∀ s, carry.string = some s → isQuote s.quote = true

theorem quoted_none {carry : Carry} (h : carry.string = none) : Quoted carry := by
  intro s hs
  rw [h] at hs
  cases hs

theorem quoted_some {carry : Carry} {s : OpenString} (h : carry.string = some s)
    (hq : isQuote s.quote = true) : Quoted carry := by
  intro s' hs
  rw [h] at hs
  cases hs
  exact hq

/-- A step from the front of `r`, seen with each terminator: it leaves the same carry with all that
have a line feed, or the same shorter text in front of them. -/
def Agrees (r : Text) (step : Eol → Advance) : Prop :=
  (∃ carry, Quoted carry ∧ ∀ e ≠ Eol.cr, step e = .stop carry) ∨
    ∃ m s, s <:+ r ∧ s.length < r.length ∧ ∀ e ≠ Eol.cr, step e = .go m (s ++ e.text)

theorem pastQuoted_agrees {q : Char} {s r : Text} (hq : isQuote q = true) (hr : NoBreak r) (n : Int)
    (hs : s <:+ r) (hlt : s.length < r.length) :
    Agrees r fun e => pastQuoted n q (s ++ e.text) (r ++ e.text) := by
  simp only [Agrees, pastQuoted]
  rcases stringEnd_body hq (noBreak_suffix hr hs) with ⟨t, ht, hclosed⟩ | hcontinues | hnever
  · refine Or.inr ⟨n, t, ht.trans hs, lt_of_le_of_lt ht.length_le hlt, fun e he => ?_⟩
    rw [hclosed e he]
  · refine Or.inl ⟨{ brackets := n, string := some (.continued q) }, quoted_some rfl hq, ?_⟩
    intro e he
    rw [hcontinues e he]
  · -- The quote is skipped, with the word in front of it if there is one.
    have hword : (r.takeWhile isWordChar).length ≤ r.length := (List.takeWhile_prefix _).length_le
    have hle : max 1 (r.takeWhile isWordChar).length ≤ r.length := by omega
    refine Or.inr ⟨n, r.drop (max 1 (r.takeWhile isWordChar).length), List.drop_suffix _ _, ?_, ?_⟩
    · rw [List.length_drop]
      omega
    · intro e he
      rw [hnever e he, takeWhile_eol isWordChar_eol, List.drop_append_of_le_length hle]

/-- With at most one character in front of the terminator there is no triple quote. -/
theorem pastString_short {q : Char} (hq : isQuote q = true) (n : Int) (e : Eol) (t : Text) :
    pastString n q e.text t = pastQuoted n q e.text t ∧
      ∀ a, pastString n q (a :: e.text) t = pastQuoted n q (a :: e.text) t := by
  obtain ⟨x, u, he, hx⟩ := eol_head e
  have hxq : (x == q) = false := by
    rcases hx with rfl | rfl <;> rcases quote_cases hq with rfl | rfl <;> rfl
  rw [he]
  constructor
  · cases u <;> simp [pastString, hxq]
  · intro a
    simp [pastString, hxq]

theorem pastString_agrees {q : Char} {s r : Text} (hq : isQuote q = true) (hr : NoBreak r) (n : Int)
    (hs : s <:+ r) (hlt : s.length < r.length) :
    Agrees r fun e => pastString n q (s ++ e.text) (r ++ e.text) := by
  have hquoted := pastQuoted_agrees hq hr n hs hlt
  rcases s with _ | ⟨a, _ | ⟨b, u⟩⟩
  · simpa only [List.nil_append, pastString_short hq] using hquoted
  · simpa only [List.cons_append, List.nil_append, pastString_short hq] using hquoted
  by_cases htriple : (a == q && b == q) = true
  · rcases ht : afterTriple q u with _ | t
    · refine Or.inl ⟨{ brackets := n, string := some (.triple q) }, quoted_some rfl hq, ?_⟩
      intro e _
      have hopen : afterTriple q (u ++ e.text) = none := by
        rw [afterTriple_append hq, ht, Option.map_none]
      simp only [List.cons_append, pastString, htriple, if_true, hopen]
    · have hu : u <:+ r := List.IsSuffix.trans ⟨[a, b], rfl⟩ hs
      have hsuffix := afterTriple_suffix ht
      have hlen := hsuffix.length_le
      simp only [List.length_cons] at hlt
      refine Or.inr ⟨n, t, hsuffix.trans hu, by omega, fun e _ => ?_⟩
      have hclosed : afterTriple q (u ++ e.text) = some (t ++ e.text) := by
        rw [afterTriple_append hq, ht, Option.map_some]
      simp only [List.cons_append, pastString, htriple, if_true, hclosed]
  · simpa only [List.cons_append, pastString, if_neg htriple] using hquoted

theorem agrees_congr {r : Text} {f g : Eol → Advance} (h : ∀ e ≠ Eol.cr, f e = g e)
    (hg : Agrees r g) : Agrees r f := by
  rcases hg with ⟨carry, hquoted, hstop⟩ | ⟨m, s, hs, hlt, hgo⟩
  · exact Or.inl ⟨carry, hquoted, fun e he => (h e he).trans (hstop e he)⟩
  · exact Or.inr ⟨m, s, hs, hlt, fun e he => (h e he).trans (hgo e he)⟩

/-- A step reads the terminator at most to see that it is there. -/
theorem advance_cons {c : Char} {r : Text} {e : Eol} (hr : NoBreak r) (he : e ≠ .cr) (n : Int) :
    advance n (c :: r ++ e.text) =
      if c == '#' then .go n ([] ++ e.text)
      else if c == '\\' && r.isEmpty then .stop { brackets := n, joined := true }
      else if c == '(' || c == '[' || c == '{' then .go (n + 1) (r ++ e.text)
      else if c == ')' || c == ']' || c == '}' then .go (n - 1) (r ++ e.text)
      else
        match stringStart? (c :: r) with
        | some (q, s) => pastString n q (s ++ e.text) (c :: r ++ e.text)
        | none => .go n (pastWord c r ++ e.text) := by
  have hcomment : (r ++ e.text).dropWhile (fun d => d != '\n' && d != '\r') = [] ++ e.text := by
    rw [dropWhile_eol ⟨rfl, rfl⟩, List.dropWhile_eq_nil_iff.mpr]
    intro d hd
    simp [hr d hd]
  rw [List.cons_append, advance, hcomment, eol_only hr he, ← List.cons_append, stringStart?_append]
  rcases stringStart? (c :: r) with _ | ⟨q, s⟩
  · dsimp only [Option.map_none]
    rw [pastWord_eol]
  · rfl

/-- One step from the front of a line that is not empty. -/
theorem advance_agrees {r : Text} (hr : NoBreak r) (hne : r ≠ []) (n : Int) :
    Agrees r fun e => advance n (r ++ e.text) := by
  obtain ⟨c, r, rfl⟩ := List.exists_cons_of_ne_nil hne
  have hrest (m : Int) {s : Text} (hs : s <:+ r) : Agrees (c :: r) fun e => .go m (s ++ e.text) :=
    Or.inr ⟨m, s, hs.trans (List.suffix_cons _ _), Nat.lt_succ_of_le hs.length_le, fun e _ => rfl⟩
  apply agrees_congr fun e he => advance_cons (noBreak_suffix hr (List.suffix_cons _ _)) he n
  have hstring : Agrees (c :: r) fun e =>
      match stringStart? (c :: r) with
      | some (q, s) => pastString n q (s ++ e.text) (c :: r ++ e.text)
      | none => .go n (pastWord c r ++ e.text) := by
    rcases hstart : stringStart? (c :: r) with _ | ⟨q, s⟩
    · exact hrest n (pastWord_suffix c r)
    · obtain ⟨hq, hs, hlt⟩ := stringStart?_some hstart
      exact pastString_agrees hq hr n hs hlt
  split_ifs
  · exact hrest n List.nil_suffix
  · exact Or.inl ⟨{ brackets := n, joined := true }, quoted_none rfl, fun e _ => rfl⟩
  · exact hrest (n + 1) List.suffix_rfl
  · exact hrest (n - 1) List.suffix_rfl
  · exact hstring

/-- A terminator alone has nothing to scan. -/
theorem scanLine_eol {e : Eol} {fuel : ℕ} (h : e.text.length < fuel) (n : Int) :
    scanLine fuel n e.text = { brackets := n } := by
  obtain ⟨k, rfl⟩ := Nat.exists_eq_add_of_lt h
  rw [Nat.add_comm _ k, Nat.add_assoc]
  cases e <;> rfl

/-- A whole scan: step by step it loses text from the front of a line and never meets the
terminator's end before it has lost all of it. -/
theorem scanLine_agrees {r : Text} (hr : NoBreak r) (n : Int) :
    ∃ carry, Quoted carry ∧ ∀ e ≠ Eol.cr, ∀ fuel, (r ++ e.text).length < fuel →
      scanLine fuel n (r ++ e.text) = carry := by
  -- A step may lose any number of characters, a whole string say, so the induction is on all lengths.
  induction hlen : r.length using Nat.strong_induction_on generalizing r n with
  | _ len ih =>
    rcases eq_or_ne r [] with rfl | hne
    · refine ⟨{ brackets := n }, quoted_none rfl, fun e he fuel hfuel => ?_⟩
      exact scanLine_eol hfuel n
    · rcases advance_agrees hr hne n with ⟨carry, hquoted, hstop⟩ | ⟨m, s, hs, hlt, hgo⟩
      · refine ⟨carry, hquoted, fun e he fuel hfuel => ?_⟩
        obtain ⟨fuel, rfl⟩ := Nat.exists_eq_add_of_lt (Nat.zero_lt_of_lt hfuel)
        rw [Nat.zero_add, scanLine, show advance n (r ++ e.text) = _ from hstop e he]
      · obtain ⟨carry, hquoted, hscan⟩ := ih s.length (hlen ▸ hlt) (noBreak_suffix hr hs) m rfl
        refine ⟨carry, hquoted, fun e he fuel hfuel => ?_⟩
        obtain ⟨fuel, rfl⟩ := Nat.exists_eq_add_of_lt (Nat.zero_lt_of_lt hfuel)
        rw [Nat.zero_add, scanLine, show advance n (r ++ e.text) = _ from hgo e he]
        apply hscan e he
        simp only [List.length_append] at hfuel ⊢
        omega

/-! ### Line after line -/

theorem endsInBackslash_eol {b : Text} {e : Eol} (hb : NoBreak b) (he : e ≠ .cr) :
    endsInBackslash (b ++ e.text) = startsWith ['\\'] b.reverse := by
  have hreturn : startsWith ['\r', '\\'] b.reverse = false := by
    cases hrev : b.reverse with
    | nil => rfl
    | cons c r =>
      have hc : c ∈ b := List.mem_reverse.mp (hrev ▸ List.mem_cons_self)
      have hcr : ('\r' == c) = false := beq_false_of_ne (hb c hc).2.symm
      rw [startsWith, List.isPrefixOf, hcr, Bool.false_and]
  rw [endsInBackslash, List.reverse_append]
  cases e with
  | lf =>
    change (startsWith ['\\'] b.reverse || startsWith ['\r', '\\'] b.reverse) = _
    rw [hreturn, Bool.or_false]
  | crlf => rfl
  | cr => exact absurd rfl he

/-- The margin is measured in front of the terminator. -/
theorem marginOf_eol (column : ℕ) (b : Text) :
    ∃ margin, ∀ e : Eol, marginOf column (b ++ e.text) = margin := by
  have hcons {c : Char} (hspace : c ≠ ' ') (htab : c ≠ '\t') (column : ℕ) (r : Text) :
      marginOf column (c :: r) =
        if c.toNat == 12 then marginOf 0 r
        else if c == '#' || c == '\r' || c == '\n' then .quiet
        else if column > 0 then .deeper
        else .flush := by
    rw [marginOf]
    · exact hspace
    · exact htab
  induction b generalizing column with
  | nil =>
    refine ⟨.quiet, fun e => ?_⟩
    cases e <;> rfl
  | cons c b ih =>
    by_cases hspace : c = ' '
    · subst hspace
      exact ih (column + 1)
    by_cases htab : c = '\t'
    · subst htab
      exact ih ((column / 8 + 1) * 8)
    simp only [List.cons_append, hcons hspace htab]
    split_ifs
    · exact ih 0
    all_goals exact ⟨_, fun _ => rfl⟩

/-- Past one line: the answer is known, or the lines behind it decide, from the same carry with either
terminator. -/
theorem linesOpen_step {carry : Carry} {b : Text} (hcarry : Quoted carry) (hb : NoBreak b) :
    (∃ answer, ∀ e ≠ Eol.cr, ∀ rest, linesOpen carry ((b ++ e.text) :: rest) = answer) ∨
      ∃ carry', Quoted carry' ∧
        ∀ e ≠ Eol.cr, ∀ rest, linesOpen carry ((b ++ e.text) :: rest) = linesOpen carry' rest := by
  -- Whatever is left of the line fits in the fuel for all of it.
  have hscan {t : Text} (ht : t <:+ b) : ∃ carry', Quoted carry' ∧ ∀ e ≠ Eol.cr,
      scanLine ((b ++ e.text).length + 1) carry.brackets (t ++ e.text) = carry' := by
    obtain ⟨carry', hquoted, hall⟩ := scanLine_agrees (noBreak_suffix hb ht) carry.brackets
    refine ⟨carry', hquoted, fun e he => hall e he _ ?_⟩
    have hlen := ht.length_le
    simp only [List.length_append]
    omega
  rcases hstring : carry.string with _ | q | q
  · simp only [linesOpen, hstring]
    obtain ⟨carry', hquoted, hline⟩ := hscan List.suffix_rfl
    split_ifs
    · -- Inside brackets or behind a backslash no statement starts, and the margin is not looked at.
      exact Or.inr ⟨carry', hquoted, fun e he rest => by rw [hline e he]⟩
    · obtain ⟨margin, hmargin⟩ := marginOf_eol 0 b
      simp only [hmargin]
      cases margin with
      | deeper => exact Or.inl ⟨true, fun _ _ _ => rfl⟩
      | trailing => exact Or.inl ⟨false, fun _ _ _ => rfl⟩
      | quiet => exact Or.inr ⟨carry, hcarry, fun _ _ _ => rfl⟩
      | flush => exact Or.inr ⟨carry', hquoted, fun e he rest => by rw [hline e he]⟩
  · have hq : isQuote q = true := hcarry _ hstring
    simp only [linesOpen, hstring, afterTriple_append hq]
    rcases ht : afterTriple q b with _ | t
    · exact Or.inr ⟨carry, hcarry, fun _ _ _ => rfl⟩
    · obtain ⟨carry', hquoted, hline⟩ := hscan (afterTriple_suffix ht)
      exact Or.inr ⟨carry', hquoted, fun e he rest => by rw [← hline e he]; rfl⟩
  · have hq : isQuote q = true := hcarry _ hstring
    simp only [linesOpen, hstring, afterContinued_append hq]
    rcases ht : afterContinued q b with _ | t
    · by_cases hback : startsWith ['\\'] b.reverse = true
      · refine Or.inr ⟨carry, hcarry, fun e he rest => ?_⟩
        simp [endsInBackslash_eol hb he, hback]
      · refine Or.inr ⟨{ carry with string := none }, quoted_none rfl, fun e he rest => ?_⟩
        simp [endsInBackslash_eol hb he, hback]
    · obtain ⟨carry', hquoted, hline⟩ := hscan (afterContinued_suffix ht)
      exact Or.inr ⟨carry', hquoted, fun e he rest => by rw [← hline e he]; rfl⟩

/-- Past all lines. -/
theorem linesOpen_rows {carry : Carry} {bodies : List Text} {last : Text} (hcarry : Quoted carry)
    (h : ∀ b ∈ bodies, NoBreak b) :
    linesOpen carry (rows .lf bodies last) = linesOpen carry (rows .crlf bodies last) := by
  induction bodies generalizing carry with
  | nil => rfl
  | cons b bodies ih =>
    change linesOpen carry ((b ++ Eol.lf.text) :: rows .lf bodies last) =
      linesOpen carry ((b ++ Eol.crlf.text) :: rows .crlf bodies last)
    rcases linesOpen_step hcarry (h b (by simp)) with ⟨answer, hall⟩ | ⟨carry', hquoted, hall⟩
    · rw [hall .lf (by decide), hall .crlf (by decide)]
    · rw [hall .lf (by decide), hall .crlf (by decide)]
      exact ih hquoted fun x hx => h x (List.mem_cons_of_mem _ hx)

theorem feedLines_noBreak {t : Text} (h : NoBreak t) : feedLines t = lines t := by
  rw [lines_noBreak h]
  induction t with
  | nil => rfl
  | cons c r ih =>
    have hc := (h c (by simp)).1
    rw [feedLines, ih fun d hd => h d (by simp [hd])]
    · cases r <;> rfl
    · exact hc

theorem feedLines_row {b : Text} {e : Eol} (hb : NoBreak b) (he : e ≠ .cr) (t : Text) :
    feedLines (b ++ e.text ++ t) = (b ++ e.text) :: feedLines t := by
  induction b with
  | nil =>
    cases e with
    | lf => rfl
    | crlf => rfl
    | cr => exact absurd rfl he
  | cons c b ih =>
    have hc := (hb c (by simp)).1
    rw [List.cons_append, List.cons_append, feedLines, ih fun d hd => hb d (by simp [hd])]
    exact hc

/-- A cut at line feeds is a cut at the ends of rows, if these have one. -/
theorem feedLines_rows {e : Eol} {bodies : List Text} {last : Text} (h : Bare bodies last)
    (he : e ≠ .cr) : feedLines (rows e bodies last).flatten = rows e bodies last := by
  rw [rows, List.flatten_append, lines_flatten]
  obtain ⟨hbodies, hlast⟩ := h
  induction bodies with
  | nil => exact feedLines_noBreak hlast.1
  | cons b bodies ih =>
    rw [List.map_cons, List.flatten_cons, List.append_assoc, feedLines_row (hbodies b (by simp)).1 he,
      ih fun x hx => hbodies x (List.mem_cons_of_mem _ hx), List.cons_append]

/-- The two terminators that hold a line feed make no difference to blocks. -/
theorem opens_rows {bodies : List Text} {last : Text} (h : Bare bodies last) :
    opens (rows .lf bodies last).flatten = opens (rows .crlf bodies last).flatten := by
  rw [opens, opens, feedLines_rows h (by decide), feedLines_rows h (by decide)]
  exact linesOpen_rows (quoted_none rfl) fun b hb => (h.bodies b hb).1

end Excerpt.Python.Suite
