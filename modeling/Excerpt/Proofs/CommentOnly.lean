import Excerpt.Proofs.DisplayLines
import Excerpt.Proofs.Evidence
import Excerpt.Proofs.FirstToken
import Excerpt.Proofs.SelfClosing
import Excerpt.Proofs.Terminators

/-! Text of which all lines are blank or comments. The lines are those of a file; a language looks at
display lines, so what stands behind a separator inside a comment is code to it. -/
namespace Excerpt

/-! ### Quiet lines -/

theorem commentMark_solid {lang : Language} (h : lang ∈ Language.all) :
    ∀ c ∈ lang.commentMark, isBlank c = false := by
  have hsolid : (lang.commentMark.all fun c => !isBlank c) = true := by
    simp only [Language.all, List.mem_cons, List.not_mem_nil, or_false] at h
    rcases h with rfl | rfl | rfl <;> decide
  simpa using hsolid

section
variable {d : Dialect} (hmark : ∀ c ∈ d.commentMark, isBlank c = false)
include hmark

/-- What a quiet line has in front of a blank character is quiet: no mark reaches over that. -/
theorem isQuietLine_front {y z : Text} (hz : ∀ c ∈ z.head?, isBlank c = true)
    (h : d.isQuietLine (y ++ z) = true) : d.isQuietLine y = true := by
  by_cases hy : isBlankLine y = true
  · rw [Dialect.isQuietLine, hy, Bool.true_or]
  have htrim : trimStart (y ++ z) = trimStart y ++ z := by
    have hsome : ¬ (y.dropWhile isBlank).isEmpty := by
      simpa [isBlankLine, List.dropWhile_eq_nil_iff] using hy
    rw [trimStart, List.dropWhile_append, if_neg hsome, trimStart]
  rw [Dialect.isQuietLine, isBlankLine_append, Bool.eq_false_iff.mpr hy, Bool.false_and,
    Bool.false_or, Dialect.isCommentLine, htrim, startsWith, List.isPrefixOf_iff_prefix] at h
  obtain ⟨r, hr⟩ := h
  rw [Dialect.isQuietLine, Dialect.isCommentLine, startsWith, Bool.or_eq_true,
    List.isPrefixOf_iff_prefix]
  right
  -- The mark ends within `y`, or it has the first character of `z`.
  rcases List.append_eq_append_iff.mp hr with ⟨a, ha, _⟩ | ⟨a, ha, rfl⟩
  · exact ⟨a, ha.symm⟩
  · cases a with
    | nil => simp [ha]
    | cons c a =>
      have hc := hmark c (by simp [ha])
      rw [hz c rfl] at hc
      cases hc

/-- Of a quiet line only the display lines behind its first may be code. -/
theorem bareLines_quiet {l : Text} (h : d.isQuietLine l = true)
    (hrest : ∀ piece ∈ (bareLines l).tail, d.isQuietLine piece = true) :
    ∀ piece ∈ bareLines l, d.isQuietLine piece = true := by
  have hfirst : d.isQuietLine ((bareLines l).headD []) = true := by
    rw [bareLines_headD]
    have hsplit : l = dropBreak l ++ l.dropWhile fun c => !(c == '\n' || c == '\r' || isWideBreak c) :=
      List.takeWhile_append_dropWhile.symm
    rw [hsplit] at h
    refine isQuietLine_front hmark ?_ h
    -- Whatever ends a display line is blank.
    intro c hc
    have hbreak := List.head?_dropWhile_not (fun c => !(c == '\n' || c == '\r' || isWideBreak c)) l
    rw [Option.mem_def.mp hc] at hbreak
    simp only [Bool.not_eq_false', Bool.or_eq_true, beq_iff_eq] at hbreak
    rcases hbreak with (rfl | rfl) | hwide
    · decide
    · decide
    · exact isWideBreak_isBlank hwide
  intro piece hpiece
  rcases hl : bareLines l with _ | ⟨first, rest⟩
  · simp [hl] at hpiece
  · rw [hl] at hpiece hfirst hrest
    rcases List.mem_cons.mp hpiece with rfl | hpiece
    · exact hfirst
    · exact hrest piece hpiece

end

/-! ### What Python finds in quiet lines -/

namespace Python

/-- Each character is passed over, whatever comes behind it, or is the first significant one. -/
theorem significant_step (q : Bool) (c : Char) :
    (∃ q', ∀ r, significant q (c :: r) = significant q' r) ∨ ∀ r, significant q (c :: r) = c :: r := by
  by_cases hbreak : c = '\n' ∨ c = '\r'
  · exact Or.inl ⟨false, fun r => by simp [significant, hbreak]⟩
  cases q with
  | true => exact Or.inl ⟨true, fun r => significant_comment (not_or.mp hbreak) r⟩
  | false =>
    by_cases hb : isBlank c = true
    · exact Or.inl ⟨false, significant_blank hb⟩
    by_cases hm : c = '#'
    · exact Or.inl ⟨true, fun r => hm ▸ significant_mark r⟩
    · exact Or.inr (significant_solid (by simpa using hb) hm)

theorem significant_indent {c : Char} (hc : isIndent c = true) (q : Bool) (r : Text) :
    significant q (c :: r) = significant q r := by
  cases q with
  | true => exact significant_comment ((indent_unbroken (w := [c]) (by simpa using hc)).1 c (by simp)) r
  | false => exact significant_blank (isIndent_isBlank hc) r

/-- Indentation makes nothing significant. -/
theorem significant_filter (q : Bool) (t : Text) :
    significant q (t.filter fun c => !isIndent c) = [] ↔ significant q t = [] := by
  induction t generalizing q with
  | nil => rfl
  | cons c r ih =>
    by_cases hc : isIndent c = true
    · rw [List.filter_cons_of_neg (by simpa using hc), significant_indent hc, ih]
    · rw [List.filter_cons_of_pos (by simpa using hc)]
      rcases significant_step q c with ⟨q', hstep⟩ | hsolid
      · rw [hstep, hstep, ih]
      · simp [hsolid]

theorem outdent_filter {margin : Text} (hm : ∀ c ∈ margin, isIndent c = true) (line : Text) :
    (outdent margin line).filter (fun c => !isIndent c) = line.filter fun c => !isIndent c := by
  obtain ⟨front, hfront, hline⟩ := outdent_split hm line
  have hnone : front.filter (fun c => !isIndent c) = [] := by
    simpa [List.filter_eq_nil_iff] using hfront
  conv_rhs => rw [hline]
  rw [List.filter_append, hnone, List.nil_append]

/-- Taking the margin off takes only indentation off. -/
theorem significant_dedent (q : Bool) (code : Text) :
    significant q (dedent code) = [] ↔ significant q code = [] := by
  have hsame : (dedent code).filter (fun c => !isIndent c) = code.filter fun c => !isIndent c := by
    have hmargin : ∀ c ∈ marginBy ((displayLines code).headD []), isIndent c = true :=
      fun c => marginBy_isIndent
    rw [dedent_display, List.filter_flatten, List.map_map]
    conv_rhs => rw [← displayLines_flatten code, List.filter_flatten]
    congr 1
    exact List.map_congr_left fun line _ => outdent_filter hmargin line
  rw [← significant_filter, hsame, significant_filter]

theorem significant_blank_append {w : Text} (hw : isBlankLine w = true) (r : Text) :
    significant false (w ++ r) = significant false r := by
  induction w with
  | nil => rfl
  | cons c w ih =>
    obtain ⟨hc, hw⟩ : isBlank c = true ∧ isBlankLine w = true := by simpa [isBlankLine] using hw
    rw [List.cons_append, significant_blank hc, ih hw]

theorem significant_comment_append {w : Text} (hw : NoBreak w) (r : Text) :
    significant true (w ++ r) = significant true r := by
  induction w with
  | nil => rfl
  | cons c w ih =>
    rw [List.cons_append, significant_comment (hw c (by simp)),
      ih fun x hx => hw x (List.mem_cons_of_mem _ hx)]

/-- One quiet line in front of text without significance. What ends the line may end the comment or
not. -/
theorem significant_line {y b r : Text} (hy : NoBreak y) (hb : isBlankLine b = true)
    (hq : Language.python.isQuietLine y = true) (hr : significant false r = []) :
    significant false (y ++ b ++ r) = [] := by
  have hrest : significant false (b ++ r) = [] := (significant_blank_append hb r).trans hr
  rw [List.append_assoc]
  rcases Bool.or_eq_true_iff.mp hq with hblank | hcomment
  · rw [significant_blank_append hblank, hrest]
  · obtain ⟨z, hz⟩ : ∃ z, trimStart y = '#' :: z := by
      obtain ⟨z, hz⟩ := List.isPrefixOf_iff_prefix.mp hcomment
      exact ⟨z, hz.symm⟩
    have hsplit : y = y.takeWhile isBlank ++ '#' :: z := by
      rw [← hz, trimStart, List.takeWhile_append_dropWhile]
    have hfront : isBlankLine (y.takeWhile isBlank) = true :=
      List.all_eq_true.mpr fun c hc => List.mem_takeWhile_imp hc
    have hnobreak : NoBreak z := by
      refine noBreak_suffix hy (List.IsSuffix.trans (List.suffix_cons '#' z) ?_)
      exact hz ▸ List.dropWhile_suffix isBlank
    rw [hsplit, List.append_assoc, significant_blank_append hfront, List.cons_append,
      significant_mark, significant_comment_append hnobreak, significant_mono hrest]

theorem significant_lines {ls : List Text}
    (h : ∀ l ∈ ls, ∃ y b, NoBreak y ∧ Separator b ∧ l = y ++ b ∧
      Language.python.isQuietLine y = true) : significant false ls.flatten = [] := by
  induction ls with
  | nil => rfl
  | cons l ls ih =>
    obtain ⟨y, b, hy, hb, rfl, hq⟩ := h l (by simp)
    exact significant_line hy (separator_isBlank hb) hq
      (ih fun m hm => h m (List.mem_cons_of_mem _ hm))

theorem isModule_dedent_significant {known : Text → Bool} {code : Text}
    (h : significant false code = []) : isModule known (dedent code) = false := by
  by_contra hm
  exact isModule_significant (by simpa using hm) ((significant_dedent false code).mpr h)

/-- A module is no comment to the language either. -/
theorem isModule_not_quiet {known : Text → Bool} {code : Text}
    (h : isModule known (dedent code) = true) : Language.python.isQuiet code = false := by
  by_contra hquiet
  have hall : ∀ l ∈ displayLines code, Language.python.isQuietLine (dropBreak l) = true := by
    simpa [Dialect.isQuiet, bareLines] using hquiet
  have hnone : significant false (displayLines code).flatten = [] := by
    refine significant_lines fun l hl => ?_
    obtain ⟨y, b, hy, hb, rfl⟩ := displayLines_isDisplayLine hl
    refine ⟨y, b, hy.1, hb, rfl, ?_⟩
    have hq := hall _ hl
    rwa [dropBreak_append hy, separator_dropBreak hb, List.append_nil] at hq
  rw [displayLines_flatten] at hnone
  rw [isModule_dedent_significant hnone] at h
  cases h

/-- Lines of a file that are all quiet are no module. -/
theorem quiet_not_module {known : Text → Bool} {ls : List Text} (hcut : Cut ls)
    (h : ∀ l ∈ ls, Language.python.isQuietLine l = true) :
    isModule known (dedent ls.flatten) = false := by
  apply isModule_dedent_significant
  refine significant_lines fun l hl => ?_
  obtain ⟨y, b, hy, hb, rfl⟩ := cut_mem hcut hl
  have hmark := @commentMark_solid .python (by simp [Language.all])
  refine ⟨y, b, hy, hb, rfl, isQuietLine_front hmark ?_ (h _ hl)⟩
  intro c hc
  exact List.all_eq_true.mp (separator_isBlank hb) c (List.mem_of_mem_head? hc)

end Python

/-! ### Lines that are quiet as a whole -/

/-- One of the display lines behind the first is code to the language. -/
def Stray (d : Dialect) (l : Text) : Prop := ∃ piece ∈ (bareLines l).tail, d.isQuietLine piece = false

/-- A line without such separators is one display line. -/
theorem narrow_not_stray {d : Dialect} {ls : List Text} (hcut : Cut ls) {l : Text} (hl : l ∈ ls)
    (hnarrow : Narrow l) : ¬ Stray d l := by
  obtain ⟨front, back, rfl⟩ := List.append_of_mem hl
  have hruled : Ruled [l] := by
    refine ⟨?_, by simpa using hnarrow⟩
    simpa using cut_take (cut_drop hcut front.length) 1
  have hone : bareLines l = [dropBreak l] := by simpa using bareLines_ruled hruled
  rintro ⟨piece, hpiece, _⟩
  simp [hone] at hpiece

theorem cut_iff {ls : List Text} : Cut ls ↔ lines ls.flatten = ls :=
  ⟨lines_cut, fun h => h ▸ cut_lines ls.flatten⟩

theorem bareLines_cut {ls : List Text} (h : Cut ls) : bareLines ls.flatten = ls.flatMap bareLines := by
  rw [bareLines, displayLines_cut h, List.map_flatMap]
  rfl

section
variable {lang : Language} {ls : List Text} (hcut : Cut ls)
  (hquiet : ∀ l ∈ ls, lang.isQuietLine l = true)
include hcut hquiet

theorem isQuiet_lines (hlang : lang ∈ Language.all) (hnone : ∀ l ∈ ls, ¬ Stray lang.toDialect l) :
    lang.isQuiet ls.flatten = true := by
  rw [Dialect.isQuiet, bareLines_cut hcut, List.all_eq_true]
  intro piece hpiece
  obtain ⟨l, hl, hpiece⟩ := List.mem_flatMap.mp hpiece
  refine bareLines_quiet (commentMark_solid hlang) (hquiet l hl) ?_ piece hpiece
  intro rest hrest
  by_contra hcode
  exact hnone l hl ⟨rest, hrest, by simpa using hcode⟩

/-- Python looks for a statement behind the separator and finds none; the other languages are not
asked unless a line is stray. -/
theorem isComplete_quiet (hlang : lang ∈ Language.all)
    (h : lang = .python ∨ ∀ l ∈ ls, ¬ Stray lang.toDialect l) (e : Evidence) :
    lang.isComplete ls.flatten e = false := by
  rw [Language.isComplete]
  rcases h with rfl | hnone
  · have hrefused : Python.host.accepts ls.flatten e = false := by
      by_contra hyes
      obtain ⟨hmodule, _⟩ := (python_accepts_iff _ _ _).mp (by simpa using hyes)
      rw [show Python.host.isModule _ = false from Python.quiet_not_module hcut hquiet] at hmodule
      cases hmodule
    split_ifs
    · rfl
    · exact hrefused
  · rw [if_pos (isQuiet_lines hcut hquiet hlang hnone)]

end

/-- Lines of a file that are all blank or comments are no unit of Python, and one of another language
only if a line of them is stray, which it is not without a separator of display lines in it. So it is
with every evidence, and with every location. -/
theorem comment_only_refused {lang : Language} {ls : List Text} (hlang : lang ∈ Language.all)
    (hcut : Cut ls) (hquiet : ∀ l ∈ ls, lang.isQuietLine l = true) :
    (∀ e, lang.isComplete ls.flatten e = true →
      lang ≠ .python ∧ ∃ l ∈ ls, Stray lang.toDialect l) ∧
    (∀ loc name d, (Language.find loc.file d).1 = .ok lang →
      (sourceAt (some loc) name d).1 = .ok ls.flatten →
      lang ≠ .python ∧ ∃ l ∈ ls, Stray lang.toDialect l) ∧
    ∀ l ∈ ls, Stray lang.toDialect l → ¬ Narrow l := by
  have hcomplete (e : Evidence) (hyes : lang.isComplete ls.flatten e = true) :
      lang ≠ .python ∧ ∃ l ∈ ls, Stray lang.toDialect l := by
    by_contra hno
    have hcases : lang = .python ∨ ∀ l ∈ ls, ¬ Stray lang.toDialect l := by
      by_cases hpython : lang = .python
      · exact Or.inl hpython
      · exact Or.inr fun l hl hstray => hno ⟨hpython, l, hl, hstray⟩
    rw [isComplete_quiet hcut hquiet hlang hcases] at hyes
    cases hyes
  refine ⟨hcomplete, ?_, fun l hl hstray hnarrow => narrow_not_stray hcut hl hnarrow hstray⟩
  intro loc name d hfind hs
  obtain ⟨lang', feed, hlang', _, hunit⟩ := sourceAt_ok hs
  rw [reads_outcome (reads_find loc.file) d, hlang'] at hfind
  obtain rfl : lang' = lang := Except.ok.inj hfind
  -- A unit was accepted before the next line or at the end of the file.
  obtain ⟨k, _, _, hunit, _, hahead | hend⟩ := unitFrom_ok hunit
  · rw [Language.takes, ← hunit] at hahead
    exact hcomplete _ hahead
  · exact hcomplete _ hend

/-- Ruby text of one comment with a form feed in it. -/
def fedComment : Text := "#\x0ca\n".toList

theorem sourceAt_fedComment :
    (sourceAt (some ⟨"a.rb", 1, by decide⟩) none (Desk.ofTree (rubyFile fedComment))).1 =
      .ok fedComment := by
  have hfind := find_rubyFile fedComment
  rw [reads_outcome (reads_find "a.rb") _] at hfind
  rw [reads_outcome (reads_sourceAt _ none) _, hfind,
    placed_decodes (decodes_rubyFile fedComment) (by decide)]
  apply except_toOption
  decide +kernel

/-- Comments of which one holds a form feed are no unit of Python; that one is a unit of Ruby, so it
is stray. -/
theorem comments_refused :
    let plain := "# a\n".toList
    let loc : Location := ⟨"a.rb", 1, by decide⟩
    (∀ e, Language.python.isComplete [fedComment, plain].flatten e = false) ∧
      (sourceAt (some loc) none (Desk.ofTree (rubyFile fedComment))).1 = .ok [fedComment].flatten ∧
      ∃ l ∈ [fedComment], Stray Language.ruby.toDialect l := by
  intro plain loc
  obtain ⟨hpython, _⟩ := @comment_only_refused .python [fedComment, plain] (by simp [Language.all])
    (cut_iff.mpr (by decide)) (by decide)
  obtain ⟨_, hruby, _⟩ := @comment_only_refused .ruby [fedComment] (by simp [Language.all])
    (cut_iff.mpr (by decide)) (by decide)
  have hunit : (sourceAt (some loc) none (Desk.ofTree (rubyFile fedComment))).1 =
      .ok [fedComment].flatten := by
    rw [List.flatten_singleton]
    exact sourceAt_fedComment
  refine ⟨fun e => ?_, hunit, (hruby loc none _ (find_rubyFile fedComment) hunit).2⟩
  rw [Bool.eq_false_iff]
  intro hyes
  exact (hpython e hyes).1 rfl

/-- A comment of one line with a form feed in it is a unit of a Ruby file, and complete in JavaScript
with its own mark. -/
theorem fed_comment_accepted :
    let t := "//\x0ca\n".toList
    (∀ l ∈ lines fedComment, Language.ruby.isQuietLine l = true) ∧
      (sourceAt (some ⟨"a.rb", 1, by decide⟩) none (Desk.ofTree (rubyFile fedComment))).1 =
        .ok fedComment ∧
      (∀ l ∈ lines t, Language.javaScript.isQuietLine l = true) ∧
      Language.javaScript.isComplete t .none = true :=
  ⟨by decide, sourceAt_fedComment, by decide, by decide +kernel⟩

end Excerpt
