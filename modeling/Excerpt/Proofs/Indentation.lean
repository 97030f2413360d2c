import Excerpt.Proofs.InStep
import Excerpt.Proofs.Rows
import Mathlib.Data.List.Forall2

/-! Python units do not depend on how deep they stand. If all lines move to the right together, the
margin that is taken off moves with them, and so do the widths that are compared with the next line;
everything else that is asked about a line looks behind its blank front. -/
namespace Excerpt

/-- The line with `w` in front of it. A line that is only a line feed may stay as it is. -/
def Indents (w line line' : Text) : Prop := line' = w ++ line ∨ line = ['\n'] ∧ line' = line

section
variable {w : Text} (hw : ∀ c ∈ w, isIndent c = true)
include hw

theorem isQuietLine_indent (d : Dialect) (line : Text) :
    d.isQuietLine (w ++ line) = d.isQuietLine line := by
  have hblank := isBlankLine_indent hw
  rw [Dialect.isQuietLine, Dialect.isCommentLine, isBlankLine_append, hblank, Bool.true_and,
    trimStart_append hblank]
  rfl

theorem continuesSuite_indent (line : Text) :
    Python.continuesSuite (w ++ line) = Python.continuesSuite line := by
  rw [Python.continuesSuite, trimStart_append (isBlankLine_indent hw)]
  rfl

theorem indentWidth_indent (line : Text) : indentWidth (w ++ line) = w.length + indentWidth line := by
  rw [indentWidth, indentOf_append hw, List.length_append]
  rfl

/-- Both widths grow by the same, so the comparison stays. -/
theorem closesSuite_indent (first next : Text) :
    Python.closesSuite (w ++ first) (some (w ++ next)) = Python.closesSuite first (some next) := by
  have hblank := isBlankLine_indent hw
  simp only [Python.closesSuite, isBlankLine_append, hblank, Bool.true_and, trimStart_append hblank,
    indentWidth_indent hw, continuesSuite_indent hw, gt_iff_lt, Nat.add_lt_add_iff_left]

/-- A line feed left bare is blank on both sides, and a blank line closes nothing. -/
theorem closesSuite_indents {first next next' : Text} (h : Indents w next next') :
    Python.closesSuite (w ++ first) (some next') = Python.closesSuite first (some next) := by
  rcases h with rfl | ⟨rfl, rfl⟩
  · exact closesSuite_indent hw first next
  · rfl

theorem isQuietLine_indents (d : Dialect) {line line' : Text} (h : Indents w line line') :
    d.isQuietLine (dropBreak line') = d.isQuietLine (dropBreak line) := by
  rcases h with rfl | ⟨rfl, rfl⟩
  · rw [dropBreak_append (indent_unbroken hw), isQuietLine_indent hw]
  · rfl

theorem outdent_indents (hne : w ≠ []) {line line' : Text} (h : Indents w line line') :
    outdent w line' = line := by
  rcases h with rfl | ⟨rfl, rfl⟩
  · exact outdent_append w line
  · -- The line feed is no part of a margin.
    obtain ⟨c, w, rfl⟩ := List.exists_cons_of_ne_nil hne
    have hc : c ≠ '\n' := by
      rintro rfl
      exact absurd (hw '\n' (by simp)) (by decide)
    simp [outdent, after?, hc]

theorem indents_body {b line' : Text} (hb : Unbroken b) (h : Indents w (b ++ ['\n']) line') :
    ∃ b', Unbroken b' ∧ line' = b' ++ ['\n'] := by
  rcases h with rfl | ⟨_, rfl⟩
  · exact ⟨w ++ b, unbroken_append.mpr ⟨indent_unbroken hw, hb⟩, (List.append_assoc ..).symm⟩
  · exact ⟨b, hb, rfl⟩

theorem indents_last {last : Text} {ls' : List Text} (hl : Unbroken last)
    (h : List.Forall₂ (Indents w) (lines last) ls') :
    ∃ last', Unbroken last' ∧ ls' = lines last' := by
  rw [lines_noBreak hl.1] at h
  split_ifs at h with he
  · obtain rfl := List.forall₂_nil_left_iff.mp h
    exact ⟨[], unbroken_nil, rfl⟩
  · obtain ⟨line', tail, hline, htail, rfl⟩ := List.forall₂_cons_left_iff.mp h
    obtain rfl := List.forall₂_nil_left_iff.mp htail
    rcases hline with rfl | ⟨hfeed, _⟩
    · have hwl : Unbroken (w ++ last) := unbroken_append.mpr ⟨indent_unbroken hw, hl⟩
      refine ⟨w ++ last, hwl, ?_⟩
      rw [lines_noBreak hwl.1, if_neg (by simp [he])]
    · -- An open line has no line feed to be left with.
      rw [hfeed] at hl
      exact absurd rfl (hl.1 '\n' (by simp)).1

/-- Rows that move are rows. -/
theorem indents_rows {bodies : List Text} {last : Text} {ls' : List Text} (h : Bare bodies last)
    (hcopy : List.Forall₂ (Indents w) (rows .lf bodies last) ls') :
    ∃ bodies' last', Bare bodies' last' ∧ ls' = rows .lf bodies' last' := by
  induction bodies generalizing ls' with
  | nil =>
    obtain ⟨last', hl, rfl⟩ := indents_last hw h.last hcopy
    exact ⟨[], last', ⟨by simp, hl⟩, rfl⟩
  | cons b bodies ih =>
    obtain ⟨line', tail, hline, htail, rfl⟩ := List.forall₂_cons_left_iff.mp hcopy
    obtain ⟨b', hb', rfl⟩ := indents_body hw (h.bodies b (by simp)) hline
    have hrest : Bare bodies last := ⟨fun x hx => h.bodies x (List.mem_cons_of_mem _ hx), h.last⟩
    obtain ⟨bodies', last', hbare, rfl⟩ := ih hrest htail
    refine ⟨b' :: bodies', last', ⟨?_, hbare.last⟩, rfl⟩
    intro x hx
    rcases List.mem_cons.mp hx with rfl | hx
    · exact hb'
    · exact hbare.bodies x hx

end

/-- The first line is not blank and has no margin. -/
def StartsFlush (ls : List Text) : Prop := ∀ l ∈ ls.head?, isBlankLine l = false ∧ indentOf l = []

theorem startsFlush_take {ls : List Text} (h : StartsFlush ls) (k : ℕ) : StartsFlush (ls.take k) := by
  intro l hl
  rcases ls with _ | ⟨first, rest⟩
  · simp at hl
  · cases k with
    | zero => simp at hl
    | succ k => exact h l (by simpa using hl)

theorem dedent_flush {ls : List Text} (hr : Ruled ls) (h : StartsFlush ls) :
    Python.dedent ls.flatten = ls.flatten := by
  have hmargin : marginBy (ls.headD []) = [] := by
    cases ls with
    | nil => rfl
    | cons first rest =>
      obtain ⟨hblank, hindent⟩ := h first (by simp)
      rw [List.headD_cons, marginBy, hblank, hindent, ite_self]
  have hmap : ls.map (outdent []) = ls := List.map_id _
  rw [dedent_ruled hr, hmargin, hmap]

section
variable {w : Text} (hw : ∀ c ∈ w, isIndent c = true) {ls ls' : List Text}
  (hcopy : List.Forall₂ (Indents w) ls ls')

section
include hcopy

/-- The first line has moved, as it is not a bare line feed. -/
theorem indents_head (hflush : StartsFlush ls) (hne : ls ≠ []) :
    ls'.headD [] = w ++ ls.headD [] := by
  cases hcopy with
  | nil => exact absurd rfl hne
  | @cons first first' _ _ hfirst _ =>
    rcases hfirst with rfl | ⟨rfl, _⟩
    · rfl
    · exact absurd (hflush ['\n'] (by simp)).1 (by decide)

theorem indents_next (k : ℕ) :
    Indents w (ls.getD k []) (ls'.getD k []) ∨ ls.getD k [] = [] ∧ ls'.getD k [] = [] := by
  induction hcopy generalizing k with
  | nil => exact Or.inr ⟨rfl, rfl⟩
  | cons hline _ ih =>
    cases k with
    | zero => exact Or.inl hline
    | succ k => exact ih k

end

include hw hcopy

/-- The margin of the copy is what was put in front, and what is left is the original. -/
theorem dedent_indents (hne : w ≠ []) (hr' : Ruled ls') (hflush : StartsFlush ls) :
    Python.dedent ls'.flatten = ls.flatten := by
  rcases eq_or_ne ls [] with rfl | hls
  · obtain rfl := List.forall₂_nil_left_iff.mp hcopy
    rfl
  have hmargin : marginBy (ls'.headD []) = w := by
    obtain ⟨first, rest, rfl⟩ := List.exists_cons_of_ne_nil hls
    obtain ⟨hblank, hindent⟩ := hflush first (by simp)
    rw [indents_head hcopy hflush hls, List.headD_cons, marginBy, isBlankLine_append, hblank,
      Bool.and_false, if_neg (by decide), indentOf_append hw, hindent, List.append_nil]
  have hmap : ls'.map (outdent w) = ls := by
    clear hflush hls hmargin hr'
    induction hcopy with
    | nil => rfl
    | cons hline _ ih => rw [List.map_cons, outdent_indents hw hne hline, ih]
  rw [dedent_ruled hr', hmargin, hmap]

theorem isQuiet_indents (d : Dialect) (hr : Ruled ls) (hr' : Ruled ls') :
    d.isQuiet ls.flatten = d.isQuiet ls'.flatten := by
  rw [Dialect.isQuiet, Dialect.isQuiet, bareLines_ruled hr, bareLines_ruled hr', List.all_map,
    List.all_map]
  clear hr hr'
  induction hcopy with
  | nil => rfl
  | cons hline _ ih =>
    rw [List.all_cons, List.all_cons, ih, Function.comp_apply, Function.comp_apply,
      isQuietLine_indents hw d hline]

theorem candidatesAlike_indents (host : Python.Host) (hne : w ≠ []) (hr : Ruled ls) (hr' : Ruled ls')
    (hflush : StartsFlush ls) : CandidatesAlike host ls.flatten ls'.flatten := by
  have hsame : Python.dedent ls.flatten = Python.dedent ls'.flatten := by
    rw [dedent_flush hr hflush, dedent_indents hw hcopy hne hr' hflush]
  exact ⟨isQuiet_indents hw hcopy _ hr hr', by rw [hsame], fun _ => by rw [hsame], by rw [hsame]⟩

/-- At every number of lines, the line behind them closes a block of the copy just when it closes one
of the original. -/
theorem closesSuite_next (hr : Ruled ls) (hr' : Ruled ls') (hflush : StartsFlush ls) (hls : ls ≠ [])
    (next next' : Text) (hnext : Indents w next next' ∨ next = [] ∧ next' = []) :
    Python.closesSuite ((bareLines ls.flatten).headD []) (some next) =
      Python.closesSuite ((bareLines ls'.flatten).headD []) (some next') := by
  have hfirst : (bareLines ls'.flatten).headD [] = w ++ (bareLines ls.flatten).headD [] := by
    have hhead (ls : List Text) : (ls.map dropBreak).headD [] = dropBreak (ls.headD []) := by
      cases ls <;> rfl
    rw [bareLines_ruled hr, bareLines_ruled hr', hhead, hhead, indents_head hcopy hflush hls,
      dropBreak_append (indent_unbroken hw)]
  rw [hfirst]
  rcases hnext with hmoved | ⟨rfl, rfl⟩
  · exact (closesSuite_indents hw hmoved).symm
  · rfl

theorem judgedAlike_indents (host : Python.Host) (hne : w ≠ []) (hr : Ruled ls) (hr' : Ruled ls')
    (hflush : StartsFlush ls) : JudgedAlike (pythonBy host) ls ls' := by
  apply judgedAlike_candidates hcopy.length_eq
  · intro k _ _
    exact candidatesAlike_indents hw (List.forall₂_take k hcopy) host hne (ruled_take hr k)
      (ruled_take hr' k) (startsFlush_take hflush k)
  · intro k hpos hle
    apply closesSuite_next hw (List.forall₂_take k hcopy) (ruled_take hr k) (ruled_take hr' k)
      (startsFlush_take hflush k)
    · rw [ne_eq, List.take_eq_nil_iff]
      rintro (hk | hls)
      · omega
      · rw [hls] at hle
        simp at hle
        omega
    · exact indents_next hcopy k

end

/-- Let `ls'` be lines that start flush, moved to the right by any spaces and tabs. Whatever Python's
modules and blocks are, the first `k` lines of the copy are read as a unit exactly when the first `k`
lines of the original are, the copy ends too early after exactly as many lines as the original, and
one of the two always happens. -/
theorem unit_indentation_invariant (host : Python.Host) {w last : Text} {bodies ls' : List Text}
    (hne : w ≠ []) (hw : ∀ c ∈ w, isIndent c = true) (hbare : Bare bodies last)
    (hflush : StartsFlush (rows .lf bodies last))
    (hcopy : List.Forall₂ (Indents w) (rows .lf bodies last) ls')
    (loc loc' : Location) (n n' : ℕ) (d d' : Desk) :
    let ls := rows .lf bodies last
    let original := (readUnit (pythonBy host) loc ⟨n, ⟨ls, .done⟩⟩ d).1
    let copy := (readUnit (pythonBy host) loc' ⟨n', ⟨ls', .done⟩⟩ d').1
    (∀ k, copy = .ok (ls'.take k).flatten ↔ original = .ok (ls.take k).flatten) ∧
      (∀ count, copy = .error (.endOfInput loc'.file loc'.line count) ↔
        original = .error (.endOfInput loc.file loc.line count)) ∧
      InStep loc loc' ls ls' original copy := by
  intro ls original copy
  obtain ⟨bodies', last', hbare', rfl⟩ := indents_rows hw hbare hcopy
  have hr : Ruled ls := ruled_rows hbare
  have hr' : Ruled (rows .lf bodies' last') := ruled_rows hbare'
  have hjudged := judgedAlike_indents hw hcopy host hne hr hr' hflush
  have hstep : InStep loc loc' ls (rows .lf bodies' last') original copy := by
    have horiginal : original = unitFrom (pythonBy host) loc ⟨ls, .done⟩ :=
      reads_outcome (reads_readUnit _ loc _) d
    have hcopied : copy = unitFrom (pythonBy host) loc' ⟨rows .lf bodies' last', .done⟩ :=
      reads_outcome (reads_readUnit _ loc' _) d'
    rw [horiginal, hcopied]
    exact unitFrom_inStep hjudged
  refine ⟨fun k => ?_, fun count => ?_, hstep⟩
  · exact (inStep_unit_iff hstep hjudged.length hr.cut hr'.cut k).symm
  · exact (inStep_ended_iff hstep count).symm

/-- A block that a blank line closes, moved by a tab; the blank line stays bare. -/
theorem block_indented :
    let host : Python.Host := ⟨fun _ => true, startsWith ['d']⟩
    let bodies := [['d'], [' ', 'x'], []]
    let ls' := [['\t', 'd', '\n'], ['\t', ' ', 'x', '\n'], ['\n'], ['\t', 'y']]
    let loc : Location := ⟨"a", 1, by decide⟩
    let d := Desk.ofTree (oneFile [])
    (∀ c ∈ ['\t'], isIndent c = true) ∧ Bare bodies ['y'] ∧
      StartsFlush (rows .lf bodies ['y']) ∧
      List.Forall₂ (Indents ['\t']) (rows .lf bodies ['y']) ls' ∧
      (readUnit (pythonBy host) loc ⟨0, ⟨ls', .done⟩⟩ d).1 = .ok (ls'.take 3).flatten := by
  intro host bodies ls' loc d
  have hw : ∀ c ∈ ['\t'], isIndent c = true := List.forall_mem_singleton.mpr rfl
  have hbare : Bare bodies ['y'] := ⟨by decide, by decide⟩
  have hflush : StartsFlush (rows .lf bodies ['y']) := by
    intro l hl
    obtain rfl : ['d', '\n'] = l := by simpa [rows, bodies, Eol.text] using hl
    decide
  have hcopy : List.Forall₂ (Indents ['\t']) (rows .lf bodies ['y']) ls' :=
    .cons (Or.inl rfl) (.cons (Or.inl rfl) (.cons (Or.inr ⟨rfl, rfl⟩) (.cons (Or.inl rfl) .nil)))
  have horiginal : (readUnit (pythonBy host) loc ⟨0, ⟨rows .lf bodies ['y'], .done⟩⟩ d).1 =
      .ok ((rows .lf bodies ['y']).take 3).flatten := by
    rw [reads_outcome (reads_readUnit _ loc _) d]
    rfl
  obtain ⟨hunit, _⟩ := unit_indentation_invariant host (by decide) hw hbare hflush hcopy loc loc 0 0 d d
  exact ⟨hw, hbare, hflush, hcopy, (hunit 3).mpr horiginal⟩

end Excerpt
