import Excerpt.Proofs.Rows

/-! What a module starts with. The scanner passes over blank lines and comments to the first token, and
no statement starts with a token of the layout, with a closing bracket, or with a word that goes on
with a statement. -/
namespace Excerpt.Python

/-- The text from its first character on that is neither blank nor in a comment; `inComment` says
that the text starts inside one. -/
def significant (inComment : Bool) : Text → Text
  | [] => []
  | c :: r =>
    if c == '\n' || c == '\r' then significant false r
    else if inComment then significant true r
    else if isBlank c then significant false r
    else if c == '#' then significant true r
    else c :: r

theorem significant_comment {c : Char} (hc : c ≠ '\n' ∧ c ≠ '\r') (r : Text) :
    significant true (c :: r) = significant true r := by
  simp [significant, hc]

theorem significant_blank {c : Char} (hc : isBlank c = true) (r : Text) :
    significant false (c :: r) = significant false r := by
  simp [significant, hc]

theorem significant_mark (r : Text) : significant false ('#' :: r) = significant true r := by
  simp [significant, show isBlank '#' = false by decide]

theorem significant_solid {c : Char} (hc : isBlank c = false) (hm : c ≠ '#') (r : Text) :
    significant false (c :: r) = c :: r := by
  have hn : c ≠ '\n' := by rintro rfl; revert hc; decide
  have hr : c ≠ '\r' := by rintro rfl; revert hc; decide
  simp [significant, hc, hm, hn, hr]

theorem significant_mono {t : Text} (h : significant false t = []) : significant true t = [] := by
  induction t with
  | nil => rfl
  | cons c r ih =>
    by_cases hbreak : c = '\n' ∨ c = '\r'
    · simpa [significant, hbreak] using h
    · obtain ⟨hn, hr⟩ := not_or.mp hbreak
      rw [significant_comment ⟨hn, hr⟩]
      by_cases hb : isBlank c = true
      · exact ih (significant_blank hb r ▸ h)
      · by_cases hm : c = '#'
        · subst hm
          exact significant_mark r ▸ h
        · rw [significant_solid (by simpa using hb) hm] at h
          cases h

theorem isGap_isBlank {c : Char} (h : isGap c = true) : isBlank c = true := by
  simp only [isGap, Bool.or_eq_true, beq_iff_eq] at h
  rcases h with (rfl | rfl) | h
  · decide
  · decide
  · simp [isBlank, h]

/-- Measuring the indentation of a line passes over blank characters only. -/
theorem measureIndent_significant {here : Indent} {fixed : ℕ} {u : Text} {now : Indent} {v : Text}
    (hback : (significant false u).head? ≠ some '\\') (h : measureIndent here fixed u = some (now, v)) :
    significant false v = significant false u ∧ v <:+ u ∧ ∀ c ∈ v.head?, isGap c = false := by
  have hstep {c : Char} {r : Text} (hc : isGap c = true)
      (ih : (significant false r).head? ≠ some '\\' →
        significant false v = significant false r ∧ v <:+ r ∧ ∀ c ∈ v.head?, isGap c = false)
      (hback : (significant false (c :: r)).head? ≠ some '\\') :
      significant false v = significant false (c :: r) ∧ v <:+ c :: r ∧
        ∀ c ∈ v.head?, isGap c = false := by
    rw [significant_blank (isGap_isBlank hc)] at hback ⊢
    obtain ⟨hsame, hsuffix, hhead⟩ := ih hback
    exact ⟨hsame, hsuffix.trans (List.suffix_cons c r), hhead⟩
  fun_induction measureIndent here fixed u with
  | case1 here fixed r ih => exact hstep rfl (fun hb => ih hb h) hback
  | case2 here fixed r ih => exact hstep rfl (fun hb => ih hb h) hback
  -- A backslash would join the next line to this one; the text starts with none.
  | case3 => exact absurd rfl hback
  | case4 => exact absurd rfl hback
  | case5 => exact absurd rfl hback
  | case6 here fixed c r _ _ _ _ hc ih => exact hstep (by simp [isGap, hc]) (fun hb => ih hb h) hback
  | case7 here fixed c r hspace htab _ _ hc =>
    obtain ⟨_, rfl⟩ := Prod.mk.inj (Option.some.inj h)
    refine ⟨rfl, List.suffix_rfl, ?_⟩
    intro d hd
    obtain rfl : c = d := Option.some.inj hd
    have hspace' : c ≠ ' ' := fun h => hspace h
    have htab' : c ≠ '\t' := fun h => htab h
    simp [isGap, hspace', htab', hc]
  | case8 here fixed =>
    obtain ⟨_, rfl⟩ := Prod.mk.inj (Option.some.inj h)
    exact ⟨rfl, List.suffix_rfl, by simp⟩

theorem skipComment_significant {r : Text} (hr : '\r' ∉ r) :
    significant true r = significant false ((skipComment r).drop 1) := by
  induction r with
  | nil => rfl
  | cons c r ih =>
    have hc : c ≠ '\r' := fun h => hr (by simp [h])
    by_cases hn : c = '\n'
    · subst hn
      simp [significant, skipComment]
    · rw [significant_comment ⟨hn, hc⟩, ih fun h => hr (List.mem_cons_of_mem _ h)]
      simp [skipComment, hn]

theorem operators_solid : ∀ op ∈ operators, (op.head?.all fun c => !isBlank c) = true := by
  decide

theorem operators_ne_nil : ∀ op ∈ operators, op ≠ [] := by
  decide

theorem operator?_blank {c : Char} (hc : isBlank c = true) (r : Text) : operator? (c :: r) = none := by
  have hne : c ≠ '<' := by rintro rfl; revert hc; decide
  have hstart : startsWith ['<', '>'] (c :: r) = false := by
    simp [startsWith, List.isPrefixOf, Ne.symm hne]
  rw [operator?, hstart]
  simp only [Bool.false_eq_true, if_false, List.findSome?_eq_none_iff, Option.map_eq_none_iff]
  intro op hop
  by_contra hsome
  obtain ⟨rest, hrest⟩ := Option.ne_none_iff_exists'.mp hsome
  obtain ⟨o, s, rfl⟩ := List.exists_cons_of_ne_nil (operators_ne_nil op hop)
  have heq := after?_eq_some.mp hrest
  have ho : isBlank o = false := by simpa using operators_solid _ hop
  obtain ⟨rfl, _⟩ := List.cons.inj heq
  rw [hc] at ho
  cases ho

/-- Words that go on with a statement and never start one. -/
def clauseWords : List String := ["else", "elif", "except", "finally"]

/-- Tokens that no statement starts with: such a word, or a token of the layout. -/
def startsNoStatement : Token → Bool
  | .word w => clauseWords.contains w
  | .newline => true
  | .indent => true
  | .dedent => true
  | .stop => true
  | _ => false

/-- The rules that a statement may start by all fail on the tokens. -/
structure Refuses (rules : Self) (ts : Tokens) : Prop where
  operand : rules .operand ts = none
  bitOr : rules .bitOr ts = none
  disjunction : rules .disjunction ts = none
  expression : rules .expression ts = none
  starList : rules .starList ts = none
  simpleLine : rules .simpleLine ts = none
  statement : rules .statement ts = none
  statements : rules .statements ts = none

section
variable {self : Self} {tok : Token} {ts : Tokens} (htok : startsNoStatement tok = true)
include htok

theorem startsNoStatement_cases :
    (∃ w ∈ clauseWords, tok = .word w) ∨ tok = .newline ∨ tok = .indent ∨ tok = .dedent ∨
      tok = .stop := by
  cases tok with
  | word w => exact Or.inl ⟨w, by simpa [startsNoStatement] using htok, rfl⟩
  | newline => simp
  | indent => simp
  | dedent => simp
  | stop => simp
  | _ => cases htok

theorem op?_startsNoStatement (o : String) : op? o (tok :: ts) = none := by
  rcases startsNoStatement_cases htok with ⟨w, _, rfl⟩ | rfl | rfl | rfl | rfl <;> rfl

theorem word?_startsNoStatement {w : String} (hw : w ∉ clauseWords) : word? w (tok :: ts) = none := by
  rcases startsNoStatement_cases htok with ⟨v, hv, rfl⟩ | rfl | rfl | rfl | rfl
  · have hne : v ≠ w := fun h => hw (h ▸ hv)
    simp [word?, hne]
  all_goals rfl

theorem atom_startsNoStatement : atom self (tok :: ts) = none := by
  rcases startsNoStatement_cases htok with ⟨w, hw, rfl⟩ | rfl | rfl | rfl | rfl
  · revert w
    simp [clauseWords, atom, isKeyword, keywords]
  all_goals rfl

/-- Where all these rules fail, they fail one level up. Each rule first looks for a mark of its own,
which the token is not, and then calls the next. -/
theorem level_refuses (h : Refuses self (tok :: ts)) : Refuses (level self) (tok :: ts) := by
  have hop (o : String) : op? o (tok :: ts) = none := op?_startsNoStatement htok o
  have hnot : word? "not" (tok :: ts) = none := word?_startsNoStatement htok (by decide)
  have hlambda : word? "lambda" (tok :: ts) = none := word?_startsNoStatement htok (by decide)
  have hawait : word? "await" (tok :: ts) = none := word?_startsNoStatement htok (by decide)
  have hpower : operand.power self (tok :: ts) = none := by
    simp [operand.power, hawait, primary, atom_startsNoStatement htok]
  have hexpr : expressionStatement self (tok :: ts) = none := by
    simp [expressionStatement, h.starList]
  -- A statement with a keyword is told by its first word, and the words here are none of those.
  have hsimple : simpleStatement self (tok :: ts) = none := by
    rcases startsNoStatement_cases htok with ⟨w, hw, rfl⟩ | rfl | rfl | rfl | rfl
    · simp only [clauseWords, List.mem_cons, List.not_mem_nil, or_false] at hw
      rcases hw with rfl | rfl | rfl | rfl <;> exact hexpr
    all_goals exact hexpr
  have hline : run self .simpleLine (tok :: ts) = none := by
    simp [run, h.simpleLine]
  have hstatement : statement self (tok :: ts) = none := by
    rcases startsNoStatement_cases htok with ⟨w, hw, rfl⟩ | rfl | rfl | rfl | rfl
    · simp only [clauseWords, List.mem_cons, List.not_mem_nil, or_false] at hw
      rcases hw with rfl | rfl | rfl | rfl <;> exact hline
    all_goals exact hline
  constructor
  · rcases startsNoStatement_cases htok with ⟨w, hw, rfl⟩ | rfl | rfl | rfl | rfl <;> exact hpower
  · simp [level, bitOr, h.operand]
  · simp [level, disjunction, hnot, h.bitOr]
  · simp [level, expression, hlambda, h.disjunction]
  · simp [level, starList, starList.item, hop, h.expression]
  · simp [level, simpleLine, hsimple, plain]
  · simp [level, hstatement, plain]
  · simp [level, statements, run, h.statement, plain]

/-- No module starts with such a token, however deep the rules may call each other. -/
theorem derive_refuses (depth : ℕ) : Refuses (derive depth) (tok :: ts) := by
  induction depth with
  | zero => constructor <;> rfl
  | succ depth ih => exact level_refuses htok ih

end

/-- The code points of the blank characters. -/
def blankCodes : List ℕ :=
  List.range' 9 5 ++ List.range' 28 5 ++ [0x85, 0xA0, 0x1680] ++ List.range' 0x2000 11 ++
    [0x2028, 0x2029, 0x202F, 0x205F, 0x3000]

theorem mem_blankCodes {c : Char} (hc : isBlank c = true) : c.toNat ∈ blankCodes := by
  simp only [isBlank, Bool.or_eq_true, Bool.and_eq_true, decide_eq_true_eq, beq_iff_eq] at hc
  simp only [blankCodes, List.mem_append, List.mem_range'_1, List.mem_cons, List.not_mem_nil, or_false]
  omega

/-- What a blank character is not. -/
theorem blank_plain {c : Char} (hc : isBlank c = true) :
    c.isAlphanum = false ∧ isQuote c = false ∧ isIdentifierStart c = false ∧ c ≠ '_' ∧ c ≠ '.' := by
  have hall : ∀ n ∈ blankCodes, (Char.ofNat n).isAlphanum = false ∧ isQuote (Char.ofNat n) = false ∧
      isIdentifierStart (Char.ofNat n) = false ∧ Char.ofNat n ≠ '_' ∧ Char.ofNat n ≠ '.' := by
    decide +kernel
  have hcode := hall c.toNat (mem_blankCodes hc)
  rwa [Char.ofNat_toNat] at hcode

section
variable {known : Text → Bool} {fuel : ℕ} {s : Scan} {c : Char} {r : Text}

/-- Inside a line, a character that starts no string and no number starts a name or an operator. -/
theorem scan_plain (hs : s.fresh = false) (hgap : isGap c = false)
    (hc : c ≠ '#' ∧ c ≠ '\n' ∧ c ≠ '\\') (hstring : string? (c :: r) = none)
    (hnumber : c.isDigit = false ∧ c ≠ '.') :
    scan known (fuel + 1) s (c :: r) =
      if isNameChar c then
        if isName (c :: r.takeWhile isNameChar) then
          (scan known fuel s (r.drop (r.takeWhile isNameChar).length)).map
            (.word (String.ofList (c :: r.takeWhile isNameChar)) :: ·)
        else none
      else
        (operator? (c :: r)).bind fun p =>
          (track s p.1).bind fun s => (scan known fuel s p.2).map (.op (String.ofList p.1) :: ·) := by
  rw [scan]
  simp only [hs, List.dropWhile_cons, hgap]
  cases hname : isNameChar c with
  | true =>
    cases hword : isName (c :: r.takeWhile isNameChar) with
    | true => simp [hstring, hnumber, hc, hname, hword, Option.map_eq_bind, Function.comp_def]
    | false => simp [hstring, hnumber, hc, hname, hword]
  | false => simp [hstring, hnumber, hc, hname, Option.map_eq_bind, Function.comp_def]

/-- Blank characters that are no gaps in a line are no tokens either. -/
theorem scan_blank (hs : s.fresh = false) (hc : isBlank c = true) (hgap : isGap c = false)
    (hn : c ≠ '\n') : scan known fuel s (c :: r) = none := by
  cases fuel with
  | zero => rfl
  | succ fuel =>
    obtain ⟨halnum, hquote, hstart, hline, hdot⟩ := blank_plain hc
    obtain ⟨halpha, hdigit⟩ : c.isAlpha = false ∧ c.isDigit = false := by
      simpa [Char.isAlphanum] using halnum
    have hsolid : c ≠ '#' ∧ c ≠ '\n' ∧ c ≠ '\\' := by
      refine ⟨?_, hn, ?_⟩ <;> rintro rfl <;> cases hc
    have hstring : string? (c :: r) = none := by simp [string?, halpha, hquote]
    rw [scan_plain hs hgap hsolid hstring ⟨hdigit, hdot⟩, operator?_blank hc]
    by_cases hname : isNameChar c = true
    · -- The character is past the first ones, so it would have to start an identifier.
      have hcode : 128 ≤ c.toNat := by
        simpa [isNameChar, halnum, hline] using hname
      have hword : isName (c :: r.takeWhile isNameChar) = false := by
        simp [isName, hstart, Nat.not_lt.mpr hcode]
      rw [if_pos hname, hword]
      rfl
    · rw [if_neg hname]
      rfl

/-- A closing bracket has none to close at the beginning of a text. -/
theorem scan_bracket (hs : s.fresh = false) (hopen : s.brackets = [])
    (hc : c = ')' ∨ c = ']' ∨ c = '}') : scan known fuel s (c :: r) = none := by
  cases fuel with
  | zero => rfl
  | succ fuel =>
    have hoperator : operator? (c :: r) = some ([c], r) := by
      rcases hc with rfl | rfl | rfl <;> rfl
    have htrack : track s [c] = none := by
      rcases hc with rfl | rfl | rfl <;> simp [track, closeBracket, hopen]
    have hplain : isNameChar c = false ∧ isGap c = false ∧ (c ≠ '#' ∧ c ≠ '\n' ∧ c ≠ '\\') ∧
        c.isDigit = false ∧ c ≠ '.' := by
      rcases hc with rfl | rfl | rfl <;> decide
    have hstring : string? (c :: r) = none := by
      rcases hc with rfl | rfl | rfl <;> rfl
    obtain ⟨hname, hgap, hmark, hnumber⟩ := hplain
    rw [scan_plain hs hgap hmark hstring hnumber, hname, hoperator]
    simp [htrack]

/-- A character of a word, which is nothing else in a line. -/
@[mk_iff] structure Letter (c : Char) : Prop where
  alpha : c.isAlpha = true
  name : isNameChar c = true
  quote : isQuote c = false
  gap : isGap c = false
  digit : c.isDigit = false
  mark : c ∉ ['#', '\n', '\r', '\\', '.']

def Letters (w : Text) : Prop := ∀ c ∈ w, Letter c

instance (c : Char) : Decidable (Letter c) := decidable_of_iff _ (letter_iff c).symm

instance (w : Text) : Decidable (Letters w) := List.decidableBAll _ w

/-- The words have more letters than the marks in front of a string. -/
theorem clauseWords_letters :
    ∀ w ∈ clauseWords, 3 < w.toList.length ∧ isName w.toList = true ∧ Letters w.toList := by
  decide

/-- Up to three letters may mark a string; behind more there is none. -/
theorem string?_letters {w : Text} (hlen : 3 < w.length) (hw : Letters w) (r : Text) :
    string? (w ++ r) = none := by
  have hmarks : ((w ++ r).takeWhile fun c => c.isAlpha).take 3 = w.take 3 := by
    rw [List.takeWhile_append_of_pos fun c hc => (hw c hc).alpha,
      List.take_append_of_le_length hlen.le]
  -- Where the string would have its quote, there is one more letter.
  obtain ⟨d, t, hd⟩ : ∃ d t, w.drop 3 = d :: t :=
    List.exists_cons_of_ne_nil (by simpa using hlen)
  have hrest : (w ++ r).drop (w.take 3).length = d :: (t ++ r) := by
    rw [List.length_take, Nat.min_eq_left hlen.le, List.drop_append_of_le_length hlen.le, hd,
      List.cons_append]
  have hmem : d ∈ w := List.mem_of_mem_drop (i := 3) (by simp [hd])
  rw [string?]
  simp only [hmarks, hrest, (hw d hmem).quote]
  rfl

/-- A word with nothing behind it that could be part of it is one token. -/
theorem scan_word {w : String} (hs : s.fresh = false) (hw : w ∈ clauseWords)
    (hr : ∀ d ∈ r.head?, isNameChar d = false) {ts : List Token}
    (h : scan known fuel s (w.toList ++ r) = some ts) : ∃ more, ts = .word w :: more := by
  cases fuel with
  | zero => cases h
  | succ fuel =>
    obtain ⟨hlen, hascii, hletters⟩ := clauseWords_letters w hw
    have hstring := string?_letters hlen hletters r
    have htake : (w.toList ++ r).takeWhile isNameChar = w.toList := by
      rw [List.takeWhile_append_of_pos fun c hc => (hletters c hc).name]
      cases r with
      | nil => simp
      | cons d r => simp [hr d (by simp)]
    obtain ⟨c, t, hcons⟩ : ∃ c t, w.toList = c :: t :=
      List.exists_cons_of_ne_nil (List.ne_nil_of_length_pos (by omega))
    have hc : Letter c := hletters c (by simp [hcons])
    have hmark : (c ≠ '#' ∧ c ≠ '\n' ∧ c ≠ '\\') ∧ c ≠ '.' := by
      have := hc.mark
      simp_all
    rw [hcons, List.cons_append] at h htake hstring
    rw [List.takeWhile_cons_of_pos hc.name] at htake
    rw [scan_plain hs hc.gap hmark.1 hstring ⟨hc.digit, hmark.2⟩, if_pos hc.name, htake, ← hcons,
      if_pos hascii] at h
    obtain ⟨more, _, rfl⟩ := Option.map_eq_some_iff.mp h
    exact ⟨more, by rw [String.ofList_toList]⟩

end

/-! ### The first token -/

theorem reindent_outermost {now : Indent} {front : List Token} {indents : List Indent}
    (h : reindent now [] = some (front, indents)) : front = [] ∨ front = [.indent] := by
  simp only [reindent] at h
  split_ifs at h <;> simp_all

/-- A line that is neither blank nor a comment gives its indentation and its tokens. -/
theorem scan_line {known : Text → Bool} {fuel : ℕ} {u v : Text} {now : Indent}
    (hm : measureIndent ⟨0, 0⟩ 0 u = some (now, v)) (hv : ∀ c ∈ v.head?, c ≠ '\n' ∧ c ≠ '#') :
    scan known (fuel + 1) {} u =
      (reindent now []).bind fun p =>
        (scan known fuel { indents := p.2, fresh := false } v).map (p.1 ++ ·) := by
  rw [scan]
  rcases hfront : reindent now [] with _ | ⟨front, indents⟩
  · rcases v with _ | ⟨c, r⟩
    · simp [hm, hfront]
    · simp [hm, hfront, hv c rfl]
  · rcases v with _ | ⟨c, r⟩
    · simp [hm, hfront]
    · simp [hm, hfront, hv c rfl]

/-- The tokens of a text are those of what is significant in it, perhaps with an indentation in
front. -/
theorem scan_significant {known : Text → Bool} {fuel : ℕ} {u : Text} {ts : List Token}
    (hreturn : '\r' ∉ u) (hback : (significant false u).head? ≠ some '\\')
    (h : scan known fuel {} u = some ts) :
    ∃ fuel' s rest, s.fresh = false ∧ s.brackets = [] ∧
      scan known fuel' s (significant false u) = some rest ∧
      (ts = rest ∨ ts = .indent :: rest) := by
  -- On the fuel: lines that are blank or comments are passed over, up to one that is neither.
  induction fuel generalizing u with
  | zero => cases h
  | succ fuel ih =>
    rcases hm : measureIndent ⟨0, 0⟩ 0 u with _ | ⟨now, v⟩
    · rw [scan] at h
      simp [hm] at h
    obtain ⟨hsame, hsuffix, hhead⟩ := measureIndent_significant hback hm
    have hreturn' : '\r' ∉ v := fun hv => hreturn (hsuffix.subset hv)
    rw [← hsame] at hback ⊢
    by_cases hv : ∀ c ∈ v.head?, c ≠ '\n' ∧ c ≠ '#'
    · rw [scan_line hm hv] at h
      obtain ⟨⟨front, indents⟩, hfront, h⟩ := Option.bind_eq_some_iff.mp h
      obtain ⟨rest, hrest, rfl⟩ := Option.map_eq_some_iff.mp h
      have hsolid : significant false v = v := by
        rcases v with _ | ⟨c, r⟩
        · rfl
        · obtain ⟨hn, hc⟩ := hv c rfl
          refine significant_solid ?_ hc r
          by_contra hb
          rw [scan_blank rfl (by simpa using hb) (hhead c rfl) hn] at hrest
          cases hrest
      refine ⟨fuel, { indents, fresh := false }, rest, rfl, rfl, hsolid.symm ▸ hrest, ?_⟩
      rcases reindent_outermost hfront with rfl | rfl
      · exact Or.inl rfl
      · exact Or.inr rfl
    · rcases v with _ | ⟨c, r⟩
      · simp at hv
      have hreturn'' : '\r' ∉ r := fun hr => hreturn' (List.mem_cons_of_mem _ hr)
      rw [scan] at h
      have hc : c = '\n' ∨ c = '#' := by
        by_contra hno
        simp_all
      rcases hc with rfl | rfl
      · rw [significant_blank (by decide)] at hback ⊢
        exact ih hreturn'' hback (by simpa [hm] using h)
      · rw [significant_mark, skipComment_significant hreturn''] at hback ⊢
        refine ih (fun hr => hreturn'' ?_) hback (by simpa [hm] using h)
        exact List.dropWhile_subset _ (List.mem_of_mem_drop hr)

/-! ### Modules -/

theorem withLineFeeds_plain {c : Char} (hc : c ≠ '\n' ∧ c ≠ '\r') (r : Text) :
    withLineFeeds (c :: r) = c :: withLineFeeds r := by
  cases r <;> simp [withLineFeeds, hc]

theorem withLineFeeds_append {w : Text} (hw : NoBreak w) (r : Text) :
    withLineFeeds (w ++ r) = w ++ withLineFeeds r := by
  induction w with
  | nil => rfl
  | cons c w ih =>
    rw [List.cons_append, withLineFeeds_plain (hw c (by simp)),
      ih fun d hd => hw d (List.mem_cons_of_mem _ hd), List.cons_append]

theorem return_notMem_withLineFeeds (t : Text) : '\r' ∉ withLineFeeds t := by
  fun_induction withLineFeeds t with
  | case7 c r _ _ _ _ hc ih => simp [Ne.symm hc, ih]
  | _ => simp_all

theorem withLineFeeds_head (t : Text) : ∀ d ∈ (withLineFeeds t).head?, d = '\n' ∨ d ∈ t.head? := by
  fun_cases withLineFeeds t <;> simp

/-- Turning line endings into line feeds makes nothing significant, and hides nothing that is. -/
theorem significant_withLineFeeds (q : Bool) (t : Text) :
    significant q (withLineFeeds t) =
      if significant q t = [] then [] else withLineFeeds (significant q t) := by
  have hfeed (q : Bool) (r : Text) : significant q ('\n' :: r) = significant false r := by
    simp [significant]
  fun_induction withLineFeeds t generalizing q with
  | case1 => rfl
  | case2 => simp [significant]
  | case3 => simp [significant]
  | case4 => simp [significant]
  | case5 r hr ih => simpa [significant] using ih false
  | case6 r _ _ _ ih => simpa [significant] using ih false
  | case7 c r _ _ _ _ hc ih =>
    by_cases hn : c = '\n'
    · subst hn
      rw [hfeed, hfeed, ih false]
    cases q with
    | true => rw [significant_comment ⟨hn, hc⟩, significant_comment ⟨hn, hc⟩, ih true]
    | false =>
      by_cases hb : isBlank c = true
      · rw [significant_blank hb, significant_blank hb, ih false]
      by_cases hm : c = '#'
      · subst hm
        rw [significant_mark, significant_mark, ih true]
      · have hsolid := significant_solid (by simpa using hb) hm
        rw [hsolid, hsolid, if_neg (by simp), withLineFeeds_plain ⟨hn, hc⟩]

section
variable {known : Text → Bool} {t : Text}

/-- Where a module begins, the scan of its significant text succeeds, and its first token may start a
statement. -/
theorem isModule_scan (h : isModule known t = true) (hback : (significant false t).head? ≠ some '\\') :
    ∃ fuel s rest, s.fresh = false ∧ s.brackets = [] ∧
      scan known fuel s (significant false (withLineFeeds t)) = some rest ∧
      ∀ tok more, rest = tok :: more → startsNoStatement tok = false := by
  rw [isModule] at h
  rcases hts : tokens known t with _ | ts
  · simp [hts] at h
  have hback' : (significant false (withLineFeeds t)).head? ≠ some '\\' := by
    rw [significant_withLineFeeds]
    split_ifs with hnil
    · simp
    · intro hhead
      rcases withLineFeeds_head _ '\\' hhead with hn | hmem
      · cases hn
      · exact hback hmem
  have hstart : ∀ tok more, ts = tok :: more → startsNoStatement tok = false := by
    rintro tok more rfl
    by_contra hno
    rw [hts] at h
    simp [(derive_refuses (by simpa using hno) _).statements] at h
  obtain ⟨fuel, s, rest, hfresh, hopen, hscan, hrest⟩ :=
    scan_significant (return_notMem_withLineFeeds t) hback' hts
  rcases hrest with rfl | rfl
  · exact ⟨fuel, s, ts, hfresh, hopen, hscan, hstart⟩
  · -- An indented first line would put a token of the layout in front.
    cases hstart .indent rest rfl

/-- A module has significant text. -/
theorem isModule_significant (h : isModule known t = true) : significant false t ≠ [] := by
  intro hnil
  obtain ⟨fuel, s, rest, hfresh, hopen, hscan, hstart⟩ := isModule_scan h (by simp [hnil])
  rw [significant_withLineFeeds, if_pos hnil] at hscan
  cases fuel with
  | zero => cases hscan
  | succ fuel =>
    -- Nothing is left to scan, and the mark of the end is no statement.
    rw [scan] at hscan
    obtain rfl : [.stop] = rest := by simpa [hfresh, hopen] using hscan
    cases hstart .stop [] rfl

/-- The significant text of a module starts with no closing bracket. -/
theorem isModule_bracket (h : isModule known t = true) {c : Char} {r : Text}
    (hc : c = ')' ∨ c = ']' ∨ c = '}') : significant false t ≠ c :: r := by
  intro hsig
  have hback : (significant false t).head? ≠ some '\\' := by
    rw [hsig]
    rcases hc with rfl | rfl | rfl <;> simp
  obtain ⟨fuel, s, rest, hfresh, hopen, hscan, _⟩ := isModule_scan h hback
  have hplain : c ≠ '\n' ∧ c ≠ '\r' := by
    rcases hc with rfl | rfl | rfl <;> decide
  rw [significant_withLineFeeds, hsig, if_neg (by simp), withLineFeeds_plain hplain,
    scan_bracket hfresh hopen hc] at hscan
  cases hscan

/-- Where the significant text of a module starts like a word that starts no statement, the word goes
on. -/
theorem isModule_word (h : isModule known t = true) {w : String} {r : Text} (hw : w ∈ clauseWords)
    (hsig : significant false t = w.toList ++ r) : ∃ d ∈ r.head?, isNameChar d = true := by
  by_contra hno
  have hr : ∀ d ∈ r.head?, isNameChar d = false := by simpa using hno
  obtain ⟨hlen, _, hletters⟩ := clauseWords_letters w hw
  have hsome : w.toList ++ r ≠ [] := by
    intro hnil
    simp [(List.append_eq_nil_iff.mp hnil).1] at hlen
  have hmark {c : Char} (hc : c ∈ ['#', '\n', '\r', '\\', '.']) : c ∉ w.toList :=
    fun hmem => (hletters c hmem).mark hc
  have hbreak : NoBreak w.toList := by
    intro c hmem
    exact ⟨fun hn => hmark (by simp) (hn ▸ hmem), fun hn => hmark (by simp) (hn ▸ hmem)⟩
  have hback : (significant false t).head? ≠ some '\\' := by
    rw [hsig, List.head?_append_of_ne_nil _ (List.ne_nil_of_length_pos (by omega))]
    exact fun hhead => hmark (by simp) (List.mem_of_head? hhead)
  obtain ⟨fuel, s, rest, hfresh, hopen, hscan, hstart⟩ := isModule_scan h hback
  rw [significant_withLineFeeds, hsig, if_neg hsome, withLineFeeds_append hbreak] at hscan
  have hnext : ∀ d ∈ (withLineFeeds r).head?, isNameChar d = false := by
    intro d hd
    rcases withLineFeeds_head r d hd with rfl | hmem
    · rfl
    · exact hr d hmem
  obtain ⟨more, rfl⟩ := scan_word hfresh hw hnext hscan
  have hno' := hstart _ _ rfl
  simp [startsNoStatement, hw] at hno'

end

end Excerpt.Python
