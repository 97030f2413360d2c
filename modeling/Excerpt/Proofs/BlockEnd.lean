import Excerpt.Proofs.CommentOnly

/-! Where a Python block ends: at a blank line, or before a line that is no deeper than the first and
does not go on with the statement. The lines are those of a file, and what goes on with a statement is
told by its first word or bracket alone. -/
namespace Excerpt

/-! ### Reading within a number of lines -/

/-- Reading gives no more than `j` lines exactly if so few are accepted with what follows. -/
theorem reading_within {lang : Language} {ls : List Text} {ending : Ending} {g : Gathered}
    {feed : Feed} (h : Reading lang ls ending g feed) (hcut : Cut ls) {j : ℕ} (hj : j < ls.length) :
    (∃ k, 0 < k ∧ k ≤ j ∧ g = .unit (ls.take k).flatten) ↔
      ∃ k, 0 < k ∧ k ≤ j ∧ lang.takes ls k = true := by
  -- Different numbers of lines are different texts, so the unit tells how many lines it has.
  have hunit {k n : ℕ} (hk : k ≤ j) (hn : n ≤ ls.length)
      (heq : Gathered.unit (ls.take n).flatten = .unit (ls.take k).flatten) : n = k := by
    have hmin := (cut_take_inj hcut).mp (Gathered.unit.inj heq)
    omega
  -- Where a number up to `j` is accepted, it has not been refused.
  have hnever {p : Prop} (hno : ∀ i, 0 < i → i < ls.length → lang.takes ls i = false)
      (hsome : ∃ k, 0 < k ∧ k ≤ j ∧ lang.takes ls k = true) : p := by
    obtain ⟨k, hpos, hk, hyes⟩ := hsome
    rw [hno k hpos (by omega)] at hyes
    cases hyes
  cases h with
  | @accepted n pos le _ before yes =>
    constructor
    · rintro ⟨k, hpos, hk, heq⟩
      exact ⟨k, hpos, hk, hunit hk le heq ▸ yes⟩
    · rintro ⟨k, hpos, hk, hyes⟩
      refine ⟨n, pos, ?_, rfl⟩
      by_contra hlt
      rw [before k hpos (by omega)] at hyes
      cases hyes
  | acceptedAtEnd _ _ before _ =>
    constructor
    · -- All lines are more than `j`.
      rintro ⟨k, _, hk, heq⟩
      have hall := hunit hk le_rfl (by rwa [List.take_length])
      omega
    · exact hnever fun i hi hlt => before i hi hlt.le
  | ended _ before _ =>
    constructor
    · rintro ⟨_, _, _, heq⟩
      cases heq
    · exact hnever fun i hi hlt => before i hi hlt.le
  | stuck _ before =>
    constructor
    · rintro ⟨_, _, _, heq⟩
      cases heq
    · exact hnever before

theorem outcome_ok {loc : Location} {g : Gathered} {s : Text} :
    g.outcome loc = .ok s ↔ g = .unit s := by
  cases g <;> simp [Gathered.outcome]

/-- A Python file that opens at a location, with `ls` the lines from there on that can be decoded. -/
structure Opened (loc : Location) (d : Desk) (ls : List Text) : Prop where
  language : (Language.find loc.file d).1 = .ok .python
  lines : ∃ h d', Source.openAt loc d = (.ok h, d') ∧ h.feed.lines = ls

section
variable {loc : Location} {d : Desk} {ls : List Text} (h : Opened loc d ls)
include h

theorem opened_placed : ∃ feed, placed loc d.tree = .ok feed ∧ feed.lines = ls := by
  obtain ⟨handle, d', hopen, hlines⟩ := h.lines
  have hfeed := (reads_openAt loc d).1
  rw [hopen] at hfeed
  exact ⟨handle.feed, hfeed.symm, hlines⟩

theorem opened_cut : Cut ls := by
  obtain ⟨feed, hplaced, rfl⟩ := opened_placed h
  exact placed_cut hplaced

theorem opened_within (name : Option String) {j : ℕ} (hj : j < ls.length) :
    (∃ k, 0 < k ∧ k ≤ j ∧ (sourceAt (some loc) name d).1 = .ok (ls.take k).flatten) ↔
      ∃ k, 0 < k ∧ k ≤ j ∧ Language.python.takes ls k = true := by
  obtain ⟨feed, hplaced, rfl⟩ := opened_placed h
  have hlang := h.language
  rw [reads_outcome (reads_find loc.file) d] at hlang
  have hsource : (sourceAt (some loc) name d).1 = unitFrom .python loc feed := by
    rw [reads_outcome (reads_sourceAt loc name) d, hlang, hplaced]
    rfl
  rw [← reading_within (gather_reading .python loc feed) (placed_cut hplaced) hj, hsource]
  simp only [unitFrom, outcome_ok]

end

/-! ### Open blocks -/

/-- A module with a block in it, which nothing in the text need close. -/
structure OpenBlock (host : Python.Host) (code : Text) : Prop where
  isModule : host.isModule (Python.dedent code) = true
  opens : host.opensSuite (Python.dedent code) = true

/-- The last display line, with the margin taken off all of them, is blank. -/
def EndsBlank (code : Text) : Prop :=
  isBlankLine ((bareLines (Python.dedent code)).getLastD []) = true

/-- With a block open, the line behind closes it or the last line has. -/
theorem openBlock_accepts {host : Python.Host} {code : Text} (h : OpenBlock host code)
    (next : Option Text) :
    host.accepts code ⟨false, next⟩ = true ↔
      Python.closesSuite ((bareLines code).headD []) next = true ∨ EndsBlank code := by
  rw [python_accepts_iff, h.isModule, h.opens, EndsBlank]
  simp

/-- A line that says something and is no deeper closes a block, unless it goes on with it. -/
theorem closesSuite_outer {first next : Text} (hquiet : Language.python.isQuietLine next = false)
    (hwidth : indentWidth next ≤ indentWidth first) :
    Python.closesSuite first (some next) = !Python.continuesSuite next := by
  have hsays : ¬ (isBlankLine next || startsWith ['#'] (trimStart next)) = true :=
    Bool.eq_false_iff.mp hquiet
  rw [Python.closesSuite, if_neg hsays, if_neg (Nat.not_lt.mpr hwidth)]

theorem openBlock_outer {host : Python.Host} {code next : Text} (h : OpenBlock host code)
    (hquiet : Language.python.isQuietLine next = false)
    (hwidth : indentWidth next ≤ indentWidth ((bareLines code).headD [])) :
    host.accepts code (.ahead next) = true ↔
      Python.continuesSuite next = false ∨ EndsBlank code := by
  rw [Evidence.ahead, openBlock_accepts h, closesSuite_outer hquiet hwidth, Bool.not_eq_true']

/-- The language refuses no open block for being a comment. -/
theorem openBlock_complete {code : Text} (h : OpenBlock Python.host code) (e : Evidence) :
    Language.python.isComplete code e = Python.host.accepts code e := by
  rw [Language.isComplete, if_neg]
  · rfl
  · exact Bool.eq_false_iff.mp (Python.isModule_not_quiet h.isModule)

/-! ### Indentation of the first line -/

theorem indentOf_dropBreak (t : Text) : indentOf (dropBreak t) = indentOf t := by
  induction t with
  | nil => rfl
  | cons c r ih =>
    by_cases hc : isIndent c = true
    · have hplain : Unbroken [c] := indent_unbroken (by simpa using hc)
      have hfront : ∀ x ∈ [c], isIndent x = true := by simpa using hc
      change indentOf (dropBreak ([c] ++ r)) = indentOf ([c] ++ r)
      rw [dropBreak_append hplain, indentOf_append hfront, indentOf_append hfront, ih]
    · have hnone (u : Text) : indentOf (c :: u) = [] := List.takeWhile_cons_of_neg hc
      rw [hnone, dropBreak, List.takeWhile_cons]
      split_ifs
      · exact hnone _
      · rfl

/-- The terminator of a line ends its indentation. -/
theorem indentOf_terminated {l : Text} (hl : Terminated l) (r : Text) :
    indentOf (l ++ r) = indentOf l := by
  have hbreak : ∃ c ∈ l, isIndent c = false := by
    rcases hl with ⟨body, _, rfl | rfl | rfl⟩
    · exact ⟨'\n', by simp, rfl⟩
    · exact ⟨'\r', by simp, rfl⟩
    · exact ⟨'\r', by simp, rfl⟩
  obtain ⟨c, hc, hindent⟩ := hbreak
  have hshort : (l.takeWhile isIndent).length ≠ l.length := by
    intro hlen
    have hall := (List.takeWhile_prefix isIndent).eq_of_length hlen
    rw [← hall] at hc
    rw [List.mem_takeWhile_imp hc] at hindent
    cases hindent
  rw [indentOf, List.takeWhile_append, if_neg hshort, indentOf]

/-- The first display line of some lines of a file is as deep as the first of these lines. -/
theorem indentWidth_first {ls : List Text} (hcut : Cut ls) {j : ℕ} (hpos : 0 < j)
    (hj : j < ls.length) :
    indentWidth ((bareLines (ls.take j).flatten).headD []) = indentWidth (ls.headD []) := by
  obtain ⟨first, rest, hfirst⟩ : ∃ first rest, ls.take j = first :: rest :=
    List.exists_cons_of_ne_nil (List.ne_nil_of_length_pos (by rw [List.length_take]; omega))
  have hterminated : Terminated first :=
    (cut_take_whole hcut hj).terminated first (by simp [hfirst])
  have hhead : ls.headD [] = first := by
    have htake : ls = first :: (rest ++ ls.drop j) := by
      rw [← List.cons_append, ← hfirst, List.take_append_drop]
    rw [htake, List.headD_cons]
  rw [bareLines_headD, hfirst, List.flatten_cons, indentWidth, indentOf_dropBreak,
    indentOf_terminated hterminated, hhead, indentWidth]

/-- What the reader is told of an open block and a line behind it that is no deeper. -/
theorem takes_outer {ls : List Text} (hcut : Cut ls) {j : ℕ} (hpos : 0 < j) (hj : j < ls.length)
    (hblock : OpenBlock Python.host (ls.take j).flatten)
    (hquiet : Language.python.isQuietLine (ls.getD j []) = false)
    (hwidth : indentWidth (ls.getD j []) ≤ indentWidth (ls.headD [])) :
    Language.python.takes ls j = true ↔
      Python.continuesSuite (ls.getD j []) = false ∨ EndsBlank (ls.take j).flatten := by
  rw [Language.takes, openBlock_complete hblock]
  apply openBlock_outer hblock hquiet
  rwa [indentWidth_first hcut hpos hj]

/-- Behind an open block, a line that says something and stands left of the block's first line ends the
unit there at the latest, if it does not look like going on with a statement; else it ends the unit
only where a blank line, or fewer lines, would have done so. -/
theorem outer_line_ends_block {loc : Location} {d : Desk} {ls : List Text} {j : ℕ}
    (h : Opened loc d ls) (name : Option String) (hpos : 0 < j) (hj : j < ls.length)
    (hblock : OpenBlock Python.host (ls.take j).flatten)
    (hquiet : Language.python.isQuietLine (ls.getD j []) = false)
    (hleft : indentWidth (ls.getD j []) < indentWidth (ls.headD [])) :
    (∃ k, 0 < k ∧ k ≤ j ∧ (sourceAt (some loc) name d).1 = .ok (ls.take k).flatten) ↔
      Python.continuesSuite (ls.getD j []) = false ∨ EndsBlank (ls.take j).flatten ∨
        ∃ k, 0 < k ∧ k < j ∧ Language.python.takes ls k = true := by
  have hlast := takes_outer (opened_cut h) hpos hj hblock hquiet hleft.le
  rw [opened_within h name hj, ← or_assoc, ← hlast]
  constructor
  · rintro ⟨k, hk, hle, hyes⟩
    rcases Nat.lt_or_eq_of_le hle with hlt | rfl
    · exact Or.inr ⟨k, hk, hlt, hyes⟩
    · exact Or.inl hyes
  · rintro (hyes | ⟨k, hk, hlt, hyes⟩)
    · exact ⟨j, hpos, le_rfl, hyes⟩
    · exact ⟨k, hk, hlt.le, hyes⟩

/-- A directory of one file opens at its lines. -/
theorem opened_oneFile {loc : Location} {t : Text} (hfile : loc.file = "a")
    (hn : loc.line ≤ (lines t).length + 1) :
    Opened loc (Desk.ofTree (oneFile t)) (linesFrom t loc.line) := by
  obtain ⟨h, d', hopen, hfeed, _⟩ := @readUnit_placed (Desk.ofTree (oneFile t)) loc t .python
    (hfile ▸ decodes_oneFile t) hn
  exact ⟨hfile ▸ find_oneFile t, h, d', hopen, by rw [hfeed]⟩

/-- The block in a block ends where a line left of it starts a statement. -/
theorem inner_block_ended :
    let t := "if a:\n if b:\n  c\nx\n".toList
    let loc : Location := ⟨"a", 2, by decide⟩
    let ls := linesFrom t loc.line
    OpenBlock Python.host (ls.take 2).flatten ∧
      ∃ k, 0 < k ∧ k ≤ 2 ∧
        (sourceAt (some loc) none (Desk.ofTree (oneFile t))).1 = .ok (ls.take k).flatten := by
  intro t loc ls
  have hopened : Opened loc (Desk.ofTree (oneFile t)) ls := opened_oneFile rfl (by decide)
  have hblock : OpenBlock Python.host (ls.take 2).flatten := by
    constructor <;> decide +kernel
  refine ⟨hblock, ?_⟩
  exact (outer_line_ends_block hopened none (by decide) (by decide) hblock (by decide)
    (by decide)).mpr (Or.inl (by decide))

/-- The block in a block is not ended by the `else` of the outer one: no unit is found, or one that
takes the `else` in. -/
theorem outer_else_ends_nothing :
    let short := "if a:\n if b:\n  c\nelse:\n d\n".toList
    let long := "if a:\n if b:\n  c\nelse:\n  d\n".toList
    let loc : Location := ⟨"a", 2, by decide⟩
    let ls := linesFrom short loc.line
    Opened loc (Desk.ofTree (oneFile short)) ls ∧ OpenBlock Python.host (ls.take 2).flatten ∧
      Language.python.isQuietLine (ls.getD 2 []) = false ∧
      indentWidth (ls.getD 2 []) < indentWidth (ls.headD []) ∧
      (∀ s, (sourceAt (some loc) none (Desk.ofTree (oneFile short))).1 ≠ .ok s) ∧
      (sourceAt (some loc) none (Desk.ofTree (oneFile long))).1 =
        .ok " if b:\n  c\nelse:\n  d\n".toList := by
  intro short long loc ls
  have hblock : OpenBlock Python.host (ls.take 2).flatten := by
    constructor <;> decide +kernel
  refine ⟨opened_oneFile rfl (by decide), hblock, by decide, by decide, ?_, ?_⟩
  · intro s hs
    obtain ⟨lang, feed, hlang, hplaced, hunit⟩ := sourceAt_ok hs
    change languageIn "a" (oneFile short) = .ok lang at hlang
    change placed loc (oneFile short) = .ok feed at hplaced
    rw [languageIn_oneFile] at hlang
    rw [placed_decodes (decodes_oneFile short) (by decide)] at hplaced
    cases hlang
    cases hplaced
    have hnone : (unitFrom .python loc ⟨ls, .done⟩).toOption = none := by
      decide +kernel
    rw [show unitFrom .python loc ⟨ls, .done⟩ = _ from hunit] at hnone
    cases hnone
  · apply sourceAt_oneFile none rfl (by decide)
    apply except_toOption
    decide +kernel

/-! ### Statements that look like going on -/

namespace Python

theorem continuesSuite_iff (line : Text) :
    continuesSuite line = true ↔
      (∃ w ∈ continuations, ∃ r, trimStart line = w ++ r ∧ ∀ c ∈ r.head?, isWordChar c = false) ∨
        ∃ c ∈ (trimStart line).head?, c = ')' ∨ c = ']' ∨ c = '}' := by
  rw [continuesSuite, Bool.or_eq_true, List.any_eq_true]
  refine or_congr (exists_congr fun w => and_congr_right fun _ => ?_) ?_
  · rcases hrest : after? w (trimStart line) with _ | r
    · refine iff_of_false (by simp) ?_
      rintro ⟨r, hr, _⟩
      rw [after?_eq_some.mpr hr] at hrest
      cases hrest
    · have hline := after?_eq_some.mp hrest
      constructor
      · intro hend
        refine ⟨r, hline, ?_⟩
        rcases r with _ | ⟨c, r⟩
        · simp
        · simpa using hend
      · rintro ⟨r', hr', hend⟩
        obtain rfl : r = r' := List.append_cancel_left (hline.symm.trans hr')
        rcases r with _ | ⟨c, r⟩
        · rfl
        · simpa using hend
  · rcases trimStart line with _ | ⟨c, r⟩
    · simp
    · simp [or_assoc]

/-- A line with one of the words in front that is a name there: `case`, which only a block of its own
makes a keyword, or a word with more of a name behind it, by characters that end words elsewhere. -/
def MisreadName (line : Text) : Prop :=
  ∃ w ∈ continuations, ∃ r, trimStart line = w ++ r ∧ (∀ c ∈ r.head?, isWordChar c = false) ∧
    (w = "case".toList ∨ ∃ c ∈ r.head?, isNameChar c = true)

theorem misreadName_continues {line : Text} (h : MisreadName line) : continuesSuite line = true := by
  obtain ⟨w, hw, r, hline, hend, _⟩ := h
  exact (continuesSuite_iff line).mpr (Or.inl ⟨w, hw, r, hline, hend⟩)

/-- Where the blank front of a text ends in code, the rest is significant. -/
theorem significant_trimStart {t : Text} (h : (trimStart t).head? ≠ some '#') :
    significant false t = trimStart t := by
  induction t with
  | nil => rfl
  | cons c r ih =>
    by_cases hc : isBlank c = true
    · have htrim : trimStart (c :: r) = trimStart r := List.dropWhile_cons_of_pos hc
      rw [htrim] at h ⊢
      rw [significant_blank hc, ih h]
    · have htrim : trimStart (c :: r) = c :: r := List.dropWhile_cons_of_neg hc
      rw [htrim] at h ⊢
      exact significant_solid (by simpa using hc) (fun hm => h (by simp [hm])) r

theorem trimStart_dropIndent (t : Text) : trimStart (t.dropWhile isIndent) = trimStart t := by
  have hfront : isBlankLine (t.takeWhile isIndent) = true :=
    isBlankLine_indent fun c hc => List.mem_takeWhile_imp hc
  conv_rhs => rw [← List.takeWhile_append_dropWhile (p := isIndent) (l := t)]
  rw [trimStart_append hfront]

theorem continuations_cases :
    ∀ w ∈ continuations, w = "case".toList ∨ ∃ v ∈ clauseWords, w = v.toList := by
  decide

/-- A statement that looks like going on with another one has a name in front. -/
theorem statement_continues_iff {known : Text → Bool} {line : Text}
    (hquiet : Language.python.isQuietLine line = false)
    (hm : isModule known (line.dropWhile isIndent) = true) :
    continuesSuite line = true ↔ MisreadName line := by
  refine ⟨fun h => ?_, misreadName_continues⟩
  have hsig : significant false (line.dropWhile isIndent) = trimStart line := by
    rw [significant_trimStart, trimStart_dropIndent]
    rw [trimStart_dropIndent]
    intro hhead
    obtain ⟨r, hr⟩ := List.head?_eq_some_iff.mp hhead
    have hcomment : Language.python.isCommentLine line = true := by
      rw [Dialect.isCommentLine, hr]
      rfl
    rw [Dialect.isQuietLine, hcomment, Bool.or_true] at hquiet
    cases hquiet
  rcases (continuesSuite_iff line).mp h with ⟨w, hw, r, hline, hend⟩ | ⟨c, hc, hbracket⟩
  · refine ⟨w, hw, r, hline, hend, ?_⟩
    rcases continuations_cases w hw with hcase | ⟨v, hv, rfl⟩
    · exact Or.inl hcase
    · -- None starts with such a word either, so there is more of the name.
      exact Or.inr (isModule_word hm hv (hsig.trans hline))
  · -- No statement starts with a closing bracket.
    obtain ⟨r, hr⟩ := List.head?_eq_some_iff.mp hc
    exact absurd (hsig.trans hr) (isModule_bracket hm hbracket)

end Python

/-- Before a statement that is no deeper, an open block is complete, unless the statement has one of
the words in front as a name and the block does not end in a blank line. A unit that is read where such
a statement follows does not reach over it. -/
theorem statement_closes_block {code next : Text} (hblock : OpenBlock Python.host code)
    (hquiet : Language.python.isQuietLine next = false)
    (hwidth : indentWidth next ≤ indentWidth ((bareLines code).headD []))
    (hm : Python.host.isModule (next.dropWhile isIndent) = true) :
    (Python.host.accepts code (.ahead next) = true ↔ (Python.MisreadName next → EndsBlank code)) ∧
      ∀ loc name d ls j, Opened loc d ls → 0 < j → j < ls.length → (ls.take j).flatten = code →
        ls.getD j [] = next → (Python.MisreadName next → EndsBlank code) →
        ∃ k, 0 < k ∧ k ≤ j ∧ (sourceAt (some loc) name d).1 = .ok (ls.take k).flatten := by
  have haccepts : Python.host.accepts code (.ahead next) = true ↔
      (Python.MisreadName next → EndsBlank code) := by
    rw [openBlock_outer hblock hquiet hwidth, ← Python.statement_continues_iff hquiet hm,
      ← Bool.not_eq_true, imp_iff_not_or]
  refine ⟨haccepts, ?_⟩
  rintro loc name d ls j hopened hpos hj rfl rfl hends
  refine (opened_within hopened name hj).mpr ⟨j, hpos, le_rfl, ?_⟩
  rw [Language.takes, openBlock_complete hblock]
  exact haccepts.mpr hends

/-- A block is closed by an assignment to `y`, also where it is read from a file. -/
theorem assignment_closes_block :
    let code := "if x:\n a\n".toList
    let next := "y = 1\n".toList
    let loc : Location := ⟨"a", 1, by decide⟩
    Python.host.accepts code (.ahead next) = true ∧
      ∃ k, 0 < k ∧ k ≤ 2 ∧ (sourceAt (some loc) none (Desk.ofTree (oneFile (code ++ next)))).1 =
        .ok (((linesFrom (code ++ next) 1).take k).flatten) := by
  intro code next loc
  have hblock : OpenBlock Python.host code := by
    constructor <;> decide +kernel
  have hname : ¬ Python.MisreadName next := by
    intro h
    exact absurd (Python.misreadName_continues h) (by decide)
  obtain ⟨haccepts, hreads⟩ := @statement_closes_block code next hblock (by decide) (by decide)
    (by decide +kernel)
  refine ⟨haccepts.mpr fun h => absurd h hname, ?_⟩
  exact hreads loc none _ _ 2 (opened_oneFile rfl (by decide)) (by decide) (by decide) (by decide)
    (by decide) fun h => absurd h hname

/-- An assignment to `case`, or to a name that is `else` and an accent, closes no block; the unit takes
it in. -/
theorem case_closes_nothing :
    let code := "if x:\n a\n".toList
    let next := "case = 1\n".toList
    let loc : Location := ⟨"a", 1, by decide⟩
    OpenBlock Python.host code ∧ Language.python.isQuietLine next = false ∧
      indentWidth next ≤ indentWidth ((bareLines code).headD []) ∧
      Python.host.isModule (next.dropWhile isIndent) = true ∧
      Python.host.accepts code (.ahead next) = false ∧
      (sourceAt (some loc) none (Desk.ofTree (oneFile (code ++ next)))).1 = .ok (code ++ next) ∧
      Python.host.isModule "else\u0301 = 1\n".toList = true ∧
      Python.host.accepts code (.ahead "else\u0301 = 1\n".toList) = false := by
  intro code next loc
  have hblock : OpenBlock Python.host code := by
    constructor <;> decide +kernel
  refine ⟨hblock, by decide, by decide, by decide +kernel, by decide +kernel, ?_, by decide +kernel,
    by decide +kernel⟩
  apply sourceAt_oneFile none rfl (by decide)
  apply except_toOption
  decide +kernel

/-! ### Blank ends -/

/-- A text that ends blank, its margin taken off, has a last display line that is blank. -/
theorem endsBlank_last {code back : Text} {init : List Text}
    (hlines : displayLines code = init ++ [back]) (h : EndsBlank code) : isBlankLine back = true := by
  have hmargin : ∀ c ∈ marginBy ((displayLines code).headD []), isIndent c = true :=
    fun c => marginBy_isIndent
  have hmem : back ∈ displayLines code := hlines ▸ List.mem_append_right init (by simp)
  have hback : IsDisplayLine back := displayLines_isDisplayLine hmem
  rw [EndsBlank, dedent_display] at h
  generalize marginBy ((displayLines code).headD []) = margin at h hmargin
  rw [hlines, List.map_append, List.flatten_append, List.map_singleton, List.flatten_singleton] at h
  rw [← isBlankLine_outdent hmargin]
  exact isBlankLine_of_last (isDisplayLine_suffix hback (outdent_suffix margin back)) h

/-- Lines of a file whose text ends blank: the last of them is blank, or blank behind the last
separator in it. -/
theorem endsBlank_cut {ls : List Text} (hcut : Cut ls) (h : EndsBlank ls.flatten) {last : Text}
    (hlast : last ∈ ls.getLast?) :
    ∃ front back, last = front ++ back ∧ back ≠ [] ∧ isBlankLine back = true ∧
      (front = [] ∨ ∃ c ∈ front.getLast?, isWideBreak c = true) := by
  obtain ⟨init, rfl⟩ := List.getLast?_eq_some_iff.mp hlast
  have hmem : last ∈ init ++ [last] := by simp
  have hne : last ≠ [] := (cut_chain hcut).2 last hmem
  -- The display lines of the text end in those of its last line.
  obtain ⟨body, b, hbody, hb, rfl⟩ := cut_mem hcut hmem
  obtain ⟨pieces, back, hpieces, hback, hfront⟩ := displayLines_last hbody hb hne
  have hlines : displayLines (init ++ [body ++ b]).flatten =
      init.flatMap displayLines ++ pieces ++ [back] := by
    rw [displayLines_cut hcut, List.flatMap_append, List.flatMap_singleton, hpieces,
      List.append_assoc]
  refine ⟨pieces.flatten, back, ?_, hback, endsBlank_last hlines h, ?_⟩
  · rw [← displayLines_flatten (body ++ b), hpieces]
    simp
  · rcases hfront with rfl | hwide
    · exact Or.inl rfl
    · exact Or.inr hwide

/-- By any notion of module and block, lines of a file with a block open that are complete before a
line that does not close it end in a blank line, or in a line that is blank behind a separator in it. -/
theorem block_closed_by_blank {host : Python.Host} {ls : List Text} {next : Option Text}
    (hcut : Cut ls) (hyes : host.accepts ls.flatten ⟨false, next⟩ = true)
    (hopens : host.opensSuite (Python.dedent ls.flatten) = true)
    (hnext : Python.closesSuite ((bareLines ls.flatten).headD []) next = false) :
    ∀ last ∈ ls.getLast?,
      (∃ front back, last = front ++ back ∧ back ≠ [] ∧ isBlankLine back = true ∧
        (front = [] ∨ ∃ c ∈ front.getLast?, isWideBreak c = true)) ∧
      (Narrow last → isBlankLine last = true) := by
  have hblock : OpenBlock host ls.flatten := ⟨((python_accepts_iff _ _ _).mp hyes).1, hopens⟩
  have hends : EndsBlank ls.flatten := by
    rcases (openBlock_accepts hblock next).mp hyes with hcloses | hends
    · rw [hnext] at hcloses
      cases hcloses
    · exact hends
  intro last hlast
  obtain ⟨front, back, rfl, hback, hblank, hfront⟩ := endsBlank_cut hcut hends hlast
  refine ⟨⟨front, back, rfl, hback, hblank, hfront⟩, fun hnarrow => ?_⟩
  rcases hfront with rfl | ⟨c, hc, hwide⟩
  · exact hblank
  · rw [hnarrow c (List.mem_append_left back (List.mem_of_getLast? hc))] at hwide
    cases hwide

/-- A block is closed by the blank line at its end, before a line that is as deep. -/
theorem blank_line_closes :
    let ls := ["if x:\n".toList, " a\n".toList, "\n".toList]
    Python.host.accepts ls.flatten (.ahead " b\n".toList) = true ∧
      isBlankLine (ls.getLastD []) = true := by
  intro ls
  have hyes : Python.host.accepts ls.flatten (.ahead " b\n".toList) = true := by
    decide +kernel
  have hlast := block_closed_by_blank (cut_iff.mpr (by decide)) hyes (by decide +kernel) (by decide)
    "\n".toList rfl
  exact ⟨hyes, hlast.2 (by decide)⟩

/-- A form feed at the end of a line closes a block in its middle: the display line behind it has a
terminator and nothing else. -/
theorem form_feed_closes :
    let ls := ["if x:\n".toList, " a\x0c\n".toList]
    let next := " b\n".toList
    Cut ls ∧ Python.host.accepts ls.flatten (.ahead next) = true ∧
      Python.host.opensSuite (Python.dedent ls.flatten) = true ∧
      Python.closesSuite ((bareLines ls.flatten).headD []) (some next) = false ∧
      ls.getLast? = some " a\x0c\n".toList ∧ isBlankLine " a\x0c\n".toList = false :=
  ⟨cut_iff.mpr (by decide), by decide +kernel, by decide +kernel, by decide, by decide, by decide⟩

end Excerpt
