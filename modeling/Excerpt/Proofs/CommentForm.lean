import Excerpt.Proofs.CommentOnly

/-! The form of a collected comment: it begins and ends with a character that is not blank, and all
its lines are quiet. Trimming works on the joined text and can cut into the first and the last line;
neither becomes code by that. A text of this form, put at the top of a file, is collected again as it
is. -/
namespace Excerpt

/-! ### Trimming -/

theorem trimEnd_eq (t : Text) : trimEnd t = t.rdropWhile isBlank := by
  induction t with
  | nil => rfl
  | cons c t ih =>
    rw [trimEnd, ih, List.rdropWhile, List.rdropWhile, List.reverse_cons, List.dropWhile_append]
    cases h : t.reverse.dropWhile isBlank with
    | nil => by_cases hc : isBlank c = true <;> simp [hc]
    | cons d s =>
      obtain ⟨e, u, hu⟩ := List.exists_cons_of_ne_nil (List.append_ne_nil_of_right_ne_nil s.reverse
        (List.cons_ne_nil d []))
      simp [hu]

theorem trimEnd_append {w : Text} (hw : isBlankLine w = true) (t : Text) :
    trimEnd (t ++ w) = trimEnd t := by
  have hblank : ∀ c ∈ w.reverse, isBlank c = true := by simpa [isBlankLine] using hw
  rw [trimEnd_eq, trimEnd_eq, List.rdropWhile, List.reverse_append,
    List.dropWhile_append_of_pos hblank, List.rdropWhile]

theorem trimStart_solid {t : Text} (h : ∀ x ∈ t.head?, isBlank x = false) : trimStart t = t := by
  cases t with
  | nil => rfl
  | cons c t => simp [trimStart, h c rfl]

theorem trimEnd_solid {t : Text} (h : ∀ x ∈ t.getLast?, isBlank x = false) : trimEnd t = t := by
  rw [trimEnd_eq, List.rdropWhile_eq_self_iff]
  intro hne
  simp [h _ (List.getLast?_eq_some_getLast hne)]

/-- Only blank characters are cut off, in front and behind. -/
theorem trim_split (t : Text) :
    ∃ u v, isBlankLine u = true ∧ isBlankLine v = true ∧ t = u ++ (trim t ++ v) := by
  refine ⟨t.takeWhile isBlank, (trimStart t).rtakeWhile isBlank, ?_, ?_, ?_⟩
  · exact List.all_eq_true.mpr fun c hc => List.mem_takeWhile_imp hc
  · exact List.all_eq_true.mpr fun c hc => List.mem_rtakeWhile_imp hc
  · rw [trim, trimEnd_eq, List.rdropWhile_append_rtakeWhile, trimStart,
      List.takeWhile_append_dropWhile]

theorem trim_head (t : Text) : ∀ x ∈ (trim t).head?, isBlank x = false := by
  intro x hx
  have hfront : trim t <+: trimStart t := by
    rw [trim, trimEnd_eq]
    exact List.rdropWhile_prefix _ _
  have hhead : (trimStart t).head? = some x := by
    obtain ⟨v, hv⟩ := hfront
    rw [← hv, List.head?_append, Option.mem_def.mp hx]
    rfl
  have hsolid := List.head?_dropWhile_not isBlank t
  rw [show t.dropWhile isBlank = trimStart t from rfl, hhead] at hsolid
  simpa using hsolid

theorem trim_last (t : Text) : ∀ x ∈ (trim t).getLast?, isBlank x = false := by
  intro x hx
  rw [trim, trimEnd_eq] at hx
  have hne : (trimStart t).rdropWhile isBlank ≠ [] := by
    intro hnil
    simp [hnil] at hx
  have hlast := List.rdropWhile_last_not isBlank (trimStart t) hne
  rw [Option.mem_def, List.getLast?_eq_some_getLast hne] at hx
  rw [Option.some.inj hx] at hlast
  simpa using hlast

/-! ### The lines of a text that is cut short -/

/-- A first line without its terminator goes on with what stands behind it. -/
theorem lines_open_append {o : Text} (ho : NoBreak o) (hne : o ≠ []) (v : Text) :
    ∃ z more, z <+: v ∧ lines (o ++ v) = (o ++ z) :: more := by
  induction o with
  | nil => exact absurd rfl hne
  | cons c o ih =>
    have hc := ho c (by simp)
    have ho' : NoBreak o := fun x hx => ho x (List.mem_cons_of_mem c hx)
    rw [List.cons_append, lines_cons hc]
    by_cases he : o = []
    · subst he
      cases hv : lines v with
      | nil => exact ⟨[], [], List.nil_prefix, by simp [hv]⟩
      | cons line more =>
        refine ⟨line, more, ?_, by simp [hv]⟩
        have hflat := lines_flatten v
        rw [hv, List.flatten_cons] at hflat
        exact ⟨more.flatten, hflat⟩
    · obtain ⟨z, more, hz, hlines⟩ := ih ho' he
      exact ⟨z, more, hz, by simp [hlines]⟩

section
variable {d : Dialect}

/-- A blank character in front makes no difference to the lines being quiet. -/
theorem quiet_cons {c : Char} {r : Text} (hc : isBlank c = true)
    (h : ∀ l ∈ lines (c :: r), d.isQuietLine l = true) : ∀ l ∈ lines r, d.isQuietLine l = true := by
  by_cases hfeed : c = '\n'
  · subst hfeed
    rw [lines, List.forall_mem_cons] at h
    exact h.2
  by_cases hreturn : c = '\r'
  · subst hreturn
    by_cases hpair : r.head? = some '\n'
    · -- The line feed of a torn pair is a line of its own, and blank.
      obtain ⟨r, rfl⟩ := List.head?_eq_some_iff.mp hpair
      simp only [lines, List.forall_mem_cons] at h ⊢
      exact ⟨rfl, h.2⟩
    · rw [lines, List.forall_mem_cons] at h
      · exact h.2
      · intro r' hr'
        exact hpair (by rw [hr']; rfl)
  · rw [lines_cons ⟨hfeed, hreturn⟩] at h
    cases hr : lines r with
    | nil => simp
    | cons line more =>
      rw [hr, List.forall_mem_cons] at h
      refine List.forall_mem_cons.mpr ⟨?_, h.2⟩
      have hline := h.1
      rwa [Dialect.isQuietLine, Dialect.isCommentLine, isBlankLine, List.all_cons, hc, Bool.true_and,
        trimStart, List.dropWhile_cons_of_pos hc] at hline

theorem quiet_drop {u r : Text} (hu : isBlankLine u = true)
    (h : ∀ l ∈ lines (u ++ r), d.isQuietLine l = true) : ∀ l ∈ lines r, d.isQuietLine l = true := by
  induction u with
  | nil => exact h
  | cons c u ih =>
    obtain ⟨hc, hu⟩ : isBlank c = true ∧ isBlankLine u = true := by simpa [isBlankLine] using hu
    exact ih hu (quiet_cons hc h)

/-- Blank characters behind a quiet line leave it quiet. -/
theorem isQuietLine_append {y z : Text} (hz : isBlankLine z = true) (h : d.isQuietLine y = true) :
    d.isQuietLine (y ++ z) = true := by
  rw [Dialect.isQuietLine, Bool.or_eq_true] at h ⊢
  by_cases hy : isBlankLine y = true
  · left
    rw [isBlankLine_append, hy, hz]
    rfl
  · right
    have hsome : ¬ (y.dropWhile isBlank).isEmpty := by
      simpa [isBlankLine, List.dropWhile_eq_nil_iff] using hy
    have hcomment := h.resolve_left hy
    rw [Dialect.isCommentLine, startsWith, List.isPrefixOf_iff_prefix] at hcomment ⊢
    rw [trimStart, List.dropWhile_append, if_neg hsome]
    exact hcomment.trans (List.prefix_append _ _)

end

/-! ### The form -/

/-- The form of a comment: solid at both ends, all lines quiet. -/
structure CommentForm (d : Dialect) (c : Text) : Prop where
  head : ∀ x ∈ c.head?, isBlank x = false
  last : ∀ x ∈ c.getLast?, isBlank x = false
  quiet : ∀ l ∈ lines c, d.isQuietLine l = true

theorem not_torn_solid {c : Text} (h : ∀ x ∈ c.getLast?, isBlank x = false) (v : Text) :
    ¬ Torn c v := by
  intro htorn
  exact absurd (h '\r' htorn.1) (by decide)

section
variable {d : Dialect} {c : Text}

/-- Trimming quiet lines gives the form. -/
theorem commentForm_trim (hmark : ∀ x ∈ d.commentMark, isBlank x = false) {t : Text}
    (h : ∀ l ∈ lines t, d.isQuietLine l = true) : CommentForm d (trim t) := by
  obtain ⟨u, v, hu, hv, ht⟩ := trim_split t
  refine ⟨trim_head t, trim_last t, ?_⟩
  have huntorn := not_torn_solid (trim_last t) v
  generalize trim t = c at ht huntorn
  -- First without the blanks in front, then line by line up to the last.
  have hquiet : ∀ l ∈ lines (c ++ v), d.isQuietLine l = true := quiet_drop hu (ht ▸ h)
  rw [lines_append huntorn, List.forall_mem_append] at hquiet
  rw [lines_eq_closed, List.forall_mem_append]
  refine ⟨hquiet.1, ?_⟩
  have hopen := closedLines_open_noBreak c
  rw [lines_noBreak hopen]
  split_ifs with he
  · simp
  · -- The last line lost what is blank behind it.
    obtain ⟨z, more, hz, hlines⟩ := lines_open_append hopen he v
    have hwhole : d.isQuietLine ((closedLines c).2 ++ z) = true := by
      apply hquiet.2
      rw [hlines]
      exact List.mem_cons_self
    rw [List.forall_mem_singleton]
    apply isQuietLine_front hmark _ hwhole
    intro x hx
    exact List.all_eq_true.mp hv x (hz.subset (List.mem_of_mem_head? hx))

namespace CommentForm

/-- A text of the form starts with the mark, since its first character is not blank. -/
theorem mark (h : CommentForm d c) (hne : c ≠ []) : d.commentMark <+: c := by
  have hflat := lines_flatten c
  cases hlines : lines c with
  | nil =>
    rw [hlines] at hflat
    exact absurd hflat.symm hne
  | cons l more =>
    rw [hlines, List.flatten_cons] at hflat
    have hlne : l ≠ [] := (cut_chain (cut_lines c)).2 l (by simp [hlines])
    obtain ⟨x, r, rfl⟩ := List.exists_cons_of_ne_nil hlne
    have hx : isBlank x = false := h.head x (by simp [← hflat])
    have hl := h.quiet (x :: r) (by simp [hlines])
    rw [Dialect.isQuietLine, isBlankLine, List.all_cons, hx, Bool.false_and, Bool.false_or,
      Dialect.isCommentLine, trimStart_solid (by simpa using hx), startsWith,
      List.isPrefixOf_iff_prefix] at hl
    exact hl.trans ⟨more.flatten, hflat⟩

theorem open_ne_nil (h : CommentForm d c) (hne : c ≠ []) : (closedLines c).2 ≠ [] := by
  intro hnil
  have hflat := closedLines_flatten c
  rw [hnil, List.append_nil] at hflat
  rcases List.eq_nil_or_concat (closedLines c).1 with hclosed | ⟨ls, l, hclosed⟩
  · rw [hclosed] at hflat
    exact hne hflat.symm
  · -- A text of closed lines ends in a line end, which is blank.
    obtain ⟨body, -, hbody⟩ := (closedLines_whole c).terminated l (by simp [hclosed])
    have hbreak : c.getLast? = some '\n' ∨ c.getLast? = some '\r' := by
      rw [← hflat, hclosed]
      rcases hbody with rfl | rfl | rfl <;> simp
    rcases hbreak with hlast | hlast
    · exact absurd (h.last _ hlast) (by decide)
    · exact absurd (h.last _ hlast) (by decide)

/-- Above other text its lines are cut as before, but for the line feed behind the last. -/
theorem lines_above (h : CommentForm d c) (below : Text) :
    lines (c ++ '\n' :: below) =
      ((closedLines c).1 ++ [(closedLines c).2 ++ ['\n']]) ++ lines below := by
  have hterminated : Terminated ((closedLines c).2 ++ ['\n']) :=
    ⟨_, closedLines_open_noBreak c, Or.inl rfl⟩
  have huntorn : ¬ Torn ((closedLines c).2 ++ ['\n']) below := by simp [Torn]
  have hlast : lines ((closedLines c).2 ++ '\n' :: below) =
      ((closedLines c).2 ++ ['\n']) :: lines below := by
    have happend := closedLines_terminated_append hterminated huntorn
    rw [List.append_assoc, List.singleton_append] at happend
    rw [lines_eq_closed, happend, lines_eq_closed below]
    rfl
  rw [lines_append (not_torn_solid h.last _), hlast]
  simp

/-- The lines right above that text are quiet and trim to what was put there. -/
theorem taken (h : CommentForm d c) (below : Text) :
    ∃ ls, (lines (c ++ '\n' :: below)).take (lines c).length = ls ∧
      ls.length = (lines c).length ∧ (∀ l ∈ ls, d.isQuietLine l = true) ∧ trim ls.flatten = c := by
  by_cases hne : c = []
  · subst hne
    exact ⟨[], rfl, rfl, by simp, rfl⟩
  have hlines : lines c = (closedLines c).1 ++ [(closedLines c).2] := by
    rw [lines_eq_closed, lines_noBreak (closedLines_open_noBreak c), if_neg (h.open_ne_nil hne)]
  have hquiet := h.quiet
  rw [hlines, List.forall_mem_append, List.forall_mem_singleton] at hquiet
  refine ⟨(closedLines c).1 ++ [(closedLines c).2 ++ ['\n']], ?_, ?_, ?_, ?_⟩
  · rw [h.lines_above, hlines]
    apply List.take_left'
    simp
  · simp [hlines]
  · rw [List.forall_mem_append, List.forall_mem_singleton]
    exact ⟨hquiet.1, isQuietLine_append (by decide) hquiet.2⟩
  · have hflat : ((closedLines c).1 ++ [(closedLines c).2 ++ ['\n']]).flatten = c ++ ['\n'] := by
      rw [List.flatten_append, List.flatten_singleton, ← List.append_assoc, closedLines_flatten]
    have hhead : ∀ x ∈ (c ++ ['\n']).head?, isBlank x = false := by
      intro x hx
      rw [List.head?_append_of_ne_nil _ hne] at hx
      exact h.head x hx
    rw [hflat, trim, trimStart_solid hhead, trimEnd_append (by decide), trimEnd_solid h.last]

end CommentForm

end

/-! ### Collected comments -/

theorem touching_quiet {d : Dialect} {ls : List Text} (h : ∀ l ∈ ls, d.isQuietLine l = true) :
    touching d ls = ls := by
  rw [touching_lastQuietRun, lastQuietRun, List.takeWhile_eq_self_iff.mpr, List.reverse_reverse]
  intro l hl
  exact h l (List.mem_reverse.mp hl)

theorem commentForm_commentOf {d : Dialect} (hmark : ∀ x ∈ d.commentMark, isBlank x = false)
    {above : List Text} (hcut : Cut above) : CommentForm d (commentOf d above) := by
  obtain ⟨j, ⟨⟨-, hquiet⟩, -⟩, hcomment⟩ := commentOf_least d above
  rw [hcomment]
  apply commentForm_trim hmark
  rw [lines_cut (cut_drop hcut j)]
  exact hquiet

/-- Where a comment is collected, it is that of lines as they are cut, in the language asked for or
that of the file. -/
theorem commentAbove_ok {d : Desk} {loc : Location} {lang : Language} {asked : Option Language}
    {c : Text} (hlang : asked = some lang ∨ asked = none ∧ (Language.find loc.file d).1 = .ok lang)
    (h : (commentAbove asked loc d).1 = .ok c) :
    ∃ above, Cut above ∧ c = commentOf lang.toDialect above := by
  rw [reads_outcome (reads_commentAbove asked loc) d] at h
  obtain ⟨settings, hs, h⟩ := except_bind_ok.mp h
  obtain ⟨lang', hlang', h⟩ := except_bind_ok.mp h
  obtain ⟨feed, hfeed, h⟩ := except_bind_ok.mp h
  obtain rfl : lang' = lang := by
    rcases hlang with rfl | ⟨rfl, hfind⟩
    · exact (Except.ok.inj hlang').symm
    · rw [reads_outcome (reads_find loc.file) d, languageIn, hs] at hfind
      exact Except.ok.inj (hlang'.symm.trans hfind)
  obtain ⟨bytes, cs, -, -, rfl⟩ := feedOf_ok hfeed
  rw [commentFrom] at h
  rcases happroached : approached loc (Feed.ofBytes cs bytes) with e | ⟨above, feed⟩
  · rw [happroached] at h
    cases h
  · rw [happroached] at h
    obtain ⟨-, rfl, -⟩ := approached_ok.mp happroached
    exact ⟨_, cut_take (feed_cut cs bytes) _, (Except.ok.inj h).symm⟩

/-- A comment that was collected is empty, or starts with the mark of its language and ends in a
character that is not blank; all its lines are blank or comments. In any file that has it at the top,
with a line feed behind it, the comment above the next line is the same again. -/
theorem comment_normal_form {d : Desk} {loc : Location} {lang : Language} {c : Text}
    (asked : Option Language) (hknown : lang ∈ Language.all)
    (hlang : asked = some lang ∨ asked = none ∧ (Language.find loc.file d).1 = .ok lang)
    (h : (commentAbove asked loc d).1 = .ok c) :
    (c = [] ∨ lang.commentMark <+: c ∧ ∃ x, c.getLast? = some x ∧ isBlank x = false) ∧
    (∀ l ∈ lines c, isBlankLine l = true ∨ lang.isCommentLine l = true) ∧
    ∀ (below : Text) (d' : Desk) (loc' : Location) (asked' : Option Language),
      Decodes d'.tree loc'.file (c ++ '\n' :: below) → loc'.line = (lines c).length + 1 →
      (asked' = some lang ∨ asked' = none ∧ (Language.find loc'.file d').1 = .ok lang) →
      (commentAbove asked' loc' d').1 = .ok c := by
  obtain ⟨above, hcut, hc⟩ := commentAbove_ok hlang h
  have hform : CommentForm lang.toDialect c := hc ▸ commentForm_commentOf (commentMark_solid hknown) hcut
  refine ⟨?_, ?_, ?_⟩
  · by_cases hne : c = []
    · exact Or.inl hne
    · have hlast := List.getLast?_eq_some_getLast hne
      exact Or.inr ⟨hform.mark hne, _, hlast, hform.last _ hlast⟩
  · intro l hl
    simpa [Dialect.isQuietLine] using hform.quiet l hl
  · intro below d' loc' asked' hdecodes hline hlang'
    obtain ⟨ls, htake, hlen, hquiet, htrim⟩ := hform.taken below
    have hroom : loc'.line ≤ (lines (c ++ '\n' :: below)).length + 1 := by
      have hle := congrArg List.length htake
      rw [List.length_take] at hle
      omega
    rw [commentAbove_decodes hdecodes hroom hlang', hline, Nat.add_sub_cancel, htake, commentOf,
      touching_quiet hquiet, htrim]

/-- Trimming cuts an em space and a tab off the first comment and a next-line character off the last
one; the block between them keeps its blank line, and is collected again above another comment. -/
theorem scripted_normal_form :
    let t := "x\n\u2003\t// a\u00a0\r\n\r\t//b\u0085\nf()".toList
    let c := "// a\u00a0\r\n\r\t//b".toList
    let below := "//c\n".toList
    (commentAbove (some .javaScript) ⟨"a", 5, by decide⟩ (Desk.ofTree (oneFile t))).1 = .ok c ∧
      Language.javaScript.commentMark <+: c ∧
      (∀ l ∈ lines c, isBlankLine l = true ∨ Language.javaScript.isCommentLine l = true) ∧
      (commentAbove (some .javaScript) ⟨"a", 4, by decide⟩
        (Desk.ofTree (oneFile (c ++ '\n' :: below)))).1 = .ok c := by
  intro t c below
  have hcollected : (commentAbove (some .javaScript) ⟨"a", 5, by decide⟩
      (Desk.ofTree (oneFile t))).1 = .ok c := by
    rw [commentAbove_decodes (decodes_oneFile t) (by decide) (Or.inl rfl)]
    exact congrArg Except.ok (by decide)
  obtain ⟨hends, hlines, hagain⟩ := comment_normal_form (some .javaScript) (by simp [Language.all])
    (Or.inl rfl) hcollected
  obtain ⟨hmark, -⟩ := hends.resolve_left (by decide)
  exact ⟨hcollected, hmark, hlines, hagain below _ _ _ (decodes_oneFile _) (by decide) (Or.inl rfl)⟩

end Excerpt
