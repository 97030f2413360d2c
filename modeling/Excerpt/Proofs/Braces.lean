import Excerpt.JavaScript.Lexeme
import Excerpt.Proofs.Rows

/-! The braces of JavaScript text that has no strings, comments or markup. Between a place in the text
and the place that a reader of tokens gets to, every brace that is opened is closed. -/
namespace Excerpt.JavaScript

/-- From `n` open braces, the text goes down to none and never below. -/
def Falls (n : ℕ) (t : Text) : Prop :=
  (∀ p, p <+: t → p.count '}' ≤ p.count '{' + n) ∧ t.count '{' + n = t.count '}'

/-- Every closing brace has an opening one before it, and none is left open. -/
def Balanced (t : Text) : Prop :=
  (∀ p, p <+: t → p.count '}' ≤ p.count '{') ∧ t.count '{' = t.count '}'

/-- The marks that start strings, templates, regular expressions, comments, elements, private names and
the line that names an interpreter. -/
def foreignMarks : List Char := ['\'', '"', '`', '/', '<', '#']

/-- Text without such marks. An arrow of two hyphens may start a comment as well, so what follows it on
its line has to be balanced by itself. -/
structure Clean (t : Text) : Prop where
  noMark : ∀ c ∈ t, c ∉ foreignMarks
  arrow : ∀ r, ('-' :: '-' :: '>' :: r) <:+ t → Balanced (r.takeWhile fun c => !isLineBreak c)

/-- On clean text, a reader that gets from `t` to `r` closes `n` braces more than it opens, and never
more than that on the way. -/
def Closes (n : ℕ) (t r : Text) : Prop := Clean t → ∃ u, t = u ++ r ∧ Falls n u

/-! ### Depth -/

theorem balanced_iff (t : Text) : Balanced t ↔ Falls 0 t := by
  simp [Balanced, Falls]

theorem falls_nil : Falls 0 [] := by
  constructor
  · intro p hp
    simp [List.prefix_nil.mp hp]
  · rfl

theorem falls_append {m n : ℕ} {u v : Text} (hu : Falls m u) (hv : Falls n v) :
    Falls (m + n) (u ++ v) := by
  obtain ⟨hu, hu'⟩ := hu
  obtain ⟨hv, hv'⟩ := hv
  constructor
  · intro p hp
    -- A part of `u`, or all of `u` and a part of `v`.
    rcases List.prefix_or_prefix_of_prefix hp (List.prefix_append u v) with h | ⟨q, rfl⟩
    · have hle := hu p h
      omega
    · have hle := hv q ((List.prefix_append_right_inj u).mp hp)
      rw [List.count_append, List.count_append]
      omega
  · rw [List.count_append, List.count_append]
    omega

/-- Neither an opening nor a closing brace. -/
def isPlain (c : Char) : Bool := c != '{' && c != '}'

/-- A class of characters to which neither brace belongs. -/
def BraceFree (p : Char → Bool) : Prop := p '{' = false ∧ p '}' = false

theorem isPlain_of {p : Char → Bool} (hp : BraceFree p) {c : Char} (h : p c = true) :
    isPlain c = true := by
  have hne (d : Char) (hd : p d = false) : c ≠ d := by
    rintro rfl
    rw [h] at hd
    cases hd
  simp [isPlain, hne '{' hp.1, hne '}' hp.2]

theorem isPlain_either {a b c : Char} (h : (c == a || c == b) = true) (ha : isPlain a = true)
    (hb : isPlain b = true) : isPlain c = true := by
  rw [Bool.or_eq_true, beq_iff_eq, beq_iff_eq] at h
  rcases h with rfl | rfl
  · exact ha
  · exact hb

theorem isSpace_braceFree : BraceFree isSpace := by
  constructor <;> decide

theorem isHex_braceFree : BraceFree isHex := by
  constructor <;> decide

theorem isWordPart_braceFree : BraceFree isWordPart := by
  constructor <;> decide

theorem isDigit_braceFree : BraceFree Char.isDigit := by
  constructor <;> decide

theorem falls_plain {t : Text} (h : ∀ c ∈ t, isPlain c = true) : Falls 0 t := by
  have hcount {p : Text} (hp : p <+: t) : p.count '{' = 0 ∧ p.count '}' = 0 := by
    constructor <;>
    · rw [List.count_eq_zero]
      intro hmem
      exact absurd (h _ (hp.subset hmem)) (by decide)
  refine ⟨?_, ?_⟩
  · intro p hp
    rw [(hcount hp).2]
    exact Nat.zero_le _
  · rw [(hcount List.prefix_rfl).1, (hcount List.prefix_rfl).2]

theorem falls_closing : Falls 1 ['}'] := by
  refine ⟨?_, rfl⟩
  intro p hp
  have hle : p.count '}' ≤ ['}'].count '}' := hp.sublist.count_le _
  exact hle.trans (Nat.le_add_left 1 _)

theorem falls_opening {n : ℕ} {t : Text} (h : Falls (n + 1) t) : Falls n ('{' :: t) := by
  obtain ⟨hp, ht⟩ := h
  constructor
  · intro p hpre
    rcases List.prefix_cons_iff.mp hpre with rfl | ⟨q, rfl, hq⟩
    · exact Nat.zero_le _
    · have hle := hp q hq
      simp only [List.count_cons, beq_iff_eq, Char.reduceEq, if_true, if_false]
      omega
  · simp only [List.count_cons, beq_iff_eq, Char.reduceEq, if_true, if_false]
    omega

/-! ### Clean text -/

theorem clean_suffix {t r : Text} (h : Clean t) (hr : r <:+ t) : Clean r where
  noMark := fun c hc => h.noMark c (hr.subset hc)
  arrow := fun s hs => h.arrow s (hs.trans hr)

section
variable {n : ℕ} {t r s : Text}

theorem closes_refl (t : Text) : Closes 0 t t := fun _ => ⟨[], rfl, falls_nil⟩

theorem closes_append {m : ℕ} (h : Closes m t s) (h' : Closes n s r) : Closes (m + n) t r := by
  intro hclean
  obtain ⟨u, rfl, hu⟩ := h hclean
  obtain ⟨v, rfl, hv⟩ := h' (clean_suffix hclean (List.suffix_append u s))
  exact ⟨u ++ v, (List.append_assoc u v r).symm, falls_append hu hv⟩

/-- First over balanced text. -/
theorem Closes.trans (h : Closes 0 t s) (h' : Closes n s r) : Closes n t r :=
  Nat.zero_add n ▸ closes_append h h'

/-- Over balanced text afterwards. -/
theorem Closes.andThen (h : Closes n t s) (h' : Closes 0 s r) : Closes n t r := closes_append h h'

/-- Over one character that is no brace. -/
theorem Closes.past {c : Char} (h : Closes n t (c :: r)) (hc : isPlain c = true) : Closes n t r :=
  h.andThen fun _ => ⟨[c], rfl, falls_plain (by simpa using hc)⟩

theorem closes_plain {c : Char} (hc : isPlain c = true) (r : Text) : Closes 0 (c :: r) r :=
  (closes_refl (c :: r)).past hc

theorem closes_two {a b : Char} (ha : isPlain a = true) (hb : isPlain b = true) :
    Closes 0 (a :: b :: r) r :=
  (closes_plain ha (b :: r)).past hb

/-- Over a closing brace. -/
theorem Closes.shut (h : Closes 0 t ('}' :: r)) : Closes 1 t r :=
  h.trans fun _ => ⟨['}'], rfl, falls_closing⟩

/-- Over an opening brace and on to where it is closed. -/
theorem Closes.opened (h : Closes 0 t ('{' :: s)) (h' : Closes 1 s r) : Closes 0 t r := by
  refine h.trans fun hclean => ?_
  obtain ⟨u, rfl, hu⟩ := h' (clean_suffix hclean (List.suffix_cons _ _))
  exact ⟨'{' :: u, rfl, falls_opening hu⟩

/-- Clean text never leads to a foreign mark, so whatever follows it is of no account. -/
theorem Closes.foreign {c : Char} {m : ℕ} (h : Closes m t (c :: s)) (hc : c ∈ foreignMarks) :
    Closes n t r := by
  intro hclean
  obtain ⟨u, rfl, _⟩ := h hclean
  exact absurd hc (hclean.noMark c (by simp))

theorem closes_dropWhile {p : Char → Bool} (hp : BraceFree p) (t : Text) :
    Closes 0 t (t.dropWhile p) := by
  intro _
  refine ⟨t.takeWhile p, List.takeWhile_append_dropWhile.symm, falls_plain ?_⟩
  intro c hc
  exact isPlain_of hp (List.mem_takeWhile_imp hc)

end

/-! ### Between the tokens -/

/-- An arrow that starts a comment is stepped over with the rest of its line, which is balanced. -/
theorem closes_arrow (r : Text) :
    Closes 0 ('-' :: '-' :: '>' :: r) (r.dropWhile fun c => !isLineBreak c) := by
  intro hclean
  have hline : Falls 0 (r.takeWhile fun c => !isLineBreak c) :=
    (balanced_iff _).mp (hclean.arrow r List.suffix_rfl)
  refine ⟨['-', '-', '>'] ++ r.takeWhile fun c => !isLineBreak c, ?_, ?_⟩
  · rw [List.append_assoc, List.takeWhile_append_dropWhile]
    rfl
  · exact falls_append (falls_plain (List.all_eq_true.mp (by decide))) hline

theorem closes_skipOver (html : Bool) (bound t : Text) : Closes 0 t (skipOver html bound t) := by
  fun_induction skipOver html bound t with
  | case1 t => exact closes_refl t
  -- Comments and markup start with foreign marks.
  | case2 => exact (closes_refl _).foreign (by decide)
  | case3 => exact (closes_refl _).foreign (by decide)
  | case4 => exact closes_refl _
  | case5 => exact (closes_refl _).foreign (by decide)
  | case6 => exact closes_refl _
  | case7 _ _ r _ ih => exact (closes_arrow r).trans ih
  | case8 => exact closes_refl _
  | case9 _ _ c r _ _ _ _ hc ih => exact (closes_plain (isPlain_of isSpace_braceFree hc) r).trans ih
  | case10 => exact closes_refl _
  | case11 => exact closes_refl _

theorem closes_skip (t : Text) : Closes 0 t (skip t) := closes_skipOver true t t

theorem closes_pause {ends afterValue : Bool} {t r : Text} (h : pause ends afterValue t = some r) :
    Closes 0 t r := by
  have hspace (t : Text) : Closes 0 t (t.dropWhile isSpace) := closes_dropWhile isSpace_braceFree t
  rw [pause] at h
  generalize ' ' :: t = bound at h
  fun_induction pauseWithin ends afterValue bound t with
  | case1 =>
    cases h
    exact closes_refl _
  | case2 => cases h
  | case3 _ _ t _ r heq => exact (heq ▸ hspace t).foreign (by decide)
  | case4 _ _ t _ r heq => exact (heq ▸ hspace t).foreign (by decide)
  | case5 _ _ t _ r heq => exact (heq ▸ hspace t).foreign (by decide)
  | case6 _ _ t =>
    cases h
    exact hspace t

theorem closes_finish {afterValue : Bool} {t r : Text} (h : finish afterValue t = some r) :
    Closes 0 t r := by
  unfold finish at h
  split at h
  · cases h
    exact closes_refl t
  · next heq =>
    cases h
    exact (closes_pause heq).past (by decide)
  · cases h

/-! ### Words and numbers -/

/-- The braces of an escape belong together. -/
theorem closes_codePoint {t r : Text} (h : codePoint? t = some r) : Closes 0 t r := by
  unfold codePoint? at h
  split at h
  · next s =>
    split at h
    · next heq =>
      cases h
      have hdigits : Closes 0 s (s.dropWhile isHex) := closes_dropWhile isHex_braceFree s
      rw [heq] at hdigits
      exact (closes_refl _).opened hdigits.shut
    · cases h
  · split_ifs at h with hhex
    cases h
    simp only [Bool.and_eq_true] at hhex
    obtain ⟨⟨⟨ha, hb⟩, hc⟩, hd⟩ := hhex
    have hplain {x : Char} (hx : isHex x = true) : isPlain x = true := isPlain_of isHex_braceFree hx
    exact ((((closes_refl _).past (hplain ha)).past (hplain hb)).past (hplain hc)).past (hplain hd)
  · cases h

theorem closes_takeWord (bound t : Text) : Closes 0 t (takeWord bound t).2 := by
  fun_induction takeWord bound t with
  | case2 _ _ r s hs w s' heq ih =>
    rw [heq] at ih
    have hescape : Closes 0 ('\\' :: 'u' :: r) s :=
      (((closes_refl _).past (by decide)).past (by decide)).trans (closes_codePoint hs)
    exact hescape.trans ih
  | case4 _ _ c r _ hc w s heq ih =>
    rw [heq] at ih
    exact (closes_plain (isPlain_of isWordPart_braceFree hc) r).trans ih
  | _ => exact closes_refl _

theorem closes_word {t r : Text} {w : String} (h : word? t = some (w, r)) : Closes 0 t r := by
  unfold word? at h
  split at h
  · cases h
  · next c s =>
    have htake := closes_takeWord (c :: s) (c :: s)
    split_ifs at h
    split at h
    · cases h
    · next heq =>
      cases h
      rwa [heq] at htake

theorem closes_keyword {t r : Text} {w : String} (h : keyword? w t = some r) : Closes 0 t r := by
  unfold keyword? at h
  split at h
  · next heq =>
    split_ifs at h
    cases h
    exact closes_word heq
  · cases h

theorem closes_name {t r : Text} (h : name? t = some r) : Closes 0 t r := by
  unfold name? at h
  split at h
  · next heq =>
    split_ifs at h
    cases h
    exact closes_word heq
  · cases h

theorem closes_digitRun {isDigit : Char → Bool} (hd : BraceFree isDigit) (t : Text) :
    Closes 0 t (digitRun isDigit t) := by
  fun_induction digitRun isDigit t with
  | case1 c r hc ih =>
    exact (((closes_refl _).past (by decide)).past (isPlain_of hd hc)).trans ih
  | case3 c r _ hc ih => exact (closes_plain (isPlain_of hd hc) r).trans ih
  | _ => exact closes_refl _

theorem closes_digits {isDigit : Char → Bool} (hd : BraceFree isDigit) {t r : Text}
    (h : digitRun? isDigit t = some r) : Closes 0 t r := by
  unfold digitRun? at h
  split at h
  · next c s =>
    split_ifs at h with hc
    cases h
    exact (closes_plain (isPlain_of hd hc) s).trans (closes_digitRun hd s)
  · cases h

theorem closes_afterBig (t : Text) : Closes 0 t (afterBig t) := by
  unfold afterBig
  split
  · exact closes_plain (by decide) _
  · exact closes_refl _

/-- What a reader may leave unread: it gets on, or stays where it is. -/
theorem closes_getD {t s : Text} {o : Option Text} (ht : Closes 0 t s)
    (h : ∀ r, o = some r → Closes 0 t r) : Closes 0 t (o.getD s) := by
  cases o with
  | none => exact ht
  | some r => exact h r rfl

theorem closes_afterExponent (t : Text) : Closes 0 t (afterExponent t) := by
  unfold afterExponent
  split
  · next c r =>
    split_ifs with hc
    · have hmark := closes_plain (isPlain_either hc (by decide) (by decide)) r
      refine closes_getD (closes_refl _) fun s hs => hmark.trans ?_
      -- The digits may have a sign in front.
      split at hs
      · next c u =>
        split_ifs at hs with hsign
        · have hplain := closes_plain (isPlain_either hsign (by decide) (by decide)) u
          exact hplain.trans (closes_digits isDigit_braceFree hs)
        · exact closes_digits isDigit_braceFree hs
      · exact closes_digits isDigit_braceFree hs
    · exact closes_refl _
  · exact closes_refl _

theorem closes_decimal {t r : Text} (h : number?.decimal? t = some r) : Closes 0 t r := by
  unfold number?.decimal? at h
  split at h
  · -- A fraction alone.
    obtain ⟨s, hs, rfl⟩ := Option.map_eq_some_iff.mp h
    exact ((closes_plain (by decide) _).trans (closes_digits isDigit_braceFree hs)).trans
      (closes_afterExponent s)
  · split at h
    · cases h
    · next heq =>
      cases h
      exact (closes_digits isDigit_braceFree heq).past (by decide)
    · next s _ heq =>
      have hwhole := closes_digits isDigit_braceFree heq
      split_ifs at h
      · cases h
        exact hwhole
      · split at h
        · cases h
          have hfraction (u : Text) : Closes 0 u ((digitRun? Char.isDigit u).getD u) :=
            closes_getD (closes_refl u) fun _ => closes_digits isDigit_braceFree
          exact ((hwhole.past (by decide)).trans (hfraction _)).trans (closes_afterExponent _)
        · cases h
          exact hwhole.trans (closes_afterExponent s)

theorem closes_number {t r : Text} (h : number? t = some r) : Closes 0 t r := by
  unfold number? at h
  split at h
  · next x s =>
    have hzero : Closes 0 ('0' :: x :: s) (x :: s) := closes_plain (by decide) _
    dsimp only at h
    split at h
    · next u heq =>
      cases h
      refine Closes.trans ?_ (closes_afterBig u)
      split_ifs at heq with hx hb ho
      · exact (hzero.past (isPlain_either hx (by decide) (by decide))).trans
          (closes_digits isHex_braceFree heq)
      · exact (hzero.past (isPlain_either hb (by decide) (by decide))).trans
          (closes_digits (by constructor <;> decide) heq)
      · exact (hzero.past (isPlain_either ho (by decide) (by decide))).trans
          (closes_digits (by constructor <;> decide) heq)
    · exact closes_decimal h
  · exact closes_decimal h

/-! ### Operators -/

/-- No rest of a literal matters, since its quote is foreign. -/
theorem closes_literal {n : ℕ} {t r s : Text} (h : literal? t = some r) : Closes n t s := by
  unfold literal? at h
  split at h
  · exact (closes_refl _).foreign (by decide)
  · exact (closes_refl _).foreign (by decide)
  · cases h

theorem closes_after {p t r : Text} (h : after? p t = some r) (hp : ∀ c ∈ p, isPlain c = true) :
    Closes 0 t r := by
  obtain rfl := after?_eq_some.mp h
  exact fun _ => ⟨p, rfl, falls_plain hp⟩

theorem closes_augmented {t r : Text} (h : augmented? t = some r) : Closes 0 t r := by
  unfold augmented? at h
  obtain ⟨o, ho, hr⟩ := List.exists_of_findSome?_eq_some h
  have hplain : o.toList.all isPlain = true :=
    (List.all_eq_true (p := fun o : String => o.toList.all isPlain)).mp (by decide) o ho
  exact closes_after hr (List.all_eq_true.mp hplain)

theorem closes_question {t r : Text} (h : question? t = some r) : Closes 0 t r := by
  unfold question? at h
  split at h
  · cases h
  · split_ifs at h
    cases h
    exact closes_plain (by decide) _
  · cases h
  · cases h
    exact closes_plain (by decide) _
  · cases h

theorem closes_equals {t r : Text} (h : equals? t = some r) : Closes 0 t r := by
  unfold equals? at h
  split at h
  · cases h
  · cases h
  · cases h
    exact closes_plain (by decide) _
  · cases h

theorem closes_binary {t r : Text} (h : binary? t = some r) : Closes 0 t r := by
  unfold binary? at h
  split at h
  case h_2 | h_3 | h_4 =>
    cases h
    exact (closes_two (by decide) (by decide)).past (by decide)
  case h_5 | h_6 | h_7 | h_8 =>
    cases h
    exact closes_two (by decide) (by decide)
  case h_12 | h_13 | h_14 | h_15 | h_16 | h_17 =>
    obtain ⟨_, h⟩ := Option.ite_none_left_eq_some.mp h
    cases h
    exact closes_two (by decide) (by decide)
  case h_18 | h_19 =>
    cases h
    exact closes_plain (by decide) _
  case h_20 =>
    split_ifs at h with hc
    · cases h
      have hplain : BraceFree fun c => ['&', '|', '^', '+', '-', '*', '/', '%'].contains c := by
        constructor <;> decide
      exact closes_plain (isPlain_of hplain hc) _
    · split at h
      · next heq =>
        cases h
        exact closes_word heq
      · next heq =>
        cases h
        exact closes_word heq
      · cases h
  all_goals cases h

end Excerpt.JavaScript
