import Excerpt.Proofs.Outcome
import Mathlib.Data.List.DropRight
import Mathlib.Order.Bounds.Basic

/-! The comment above a line is the run of quiet lines that touches it. The collector passes down the
file and never looks back; what its pile holds at the end is what a walk up from the line would
find. -/
namespace Excerpt

section
variable (d : Dialect)

theorem touching_append (above : List Text) (line : Text) :
    touching d (above ++ [line]) = pileUp d (touching d above) line := by
  simp [touching]

/-- The pile after any number of lines is the quiet run that ends them. -/
theorem touching_lastQuietRun (above : List Text) : touching d above = lastQuietRun d above := by
  induction above using List.reverseRecOn with
  | nil => rfl
  | append_singleton above line ih =>
    rw [touching_append, pileUp, ih]
    change _ = List.rtakeWhile d.isQuietLine (above ++ [line])
    split_ifs with hq
    · rw [List.rtakeWhile_concat_pos _ _ _ hq]
      rfl
    · rw [List.rtakeWhile_concat_neg _ _ _ hq]

/-- The places from which on all lines are quiet. -/
def quietFrom (above : List Text) : Set ℕ :=
  {j | j ≤ above.length ∧ ∀ l ∈ above.drop j, d.isQuietLine l = true}

/-- The run that ends the list starts at the least such place. -/
theorem lastQuietRun_least (above : List Text) :
    ∃ j, IsLeast (quietFrom d above) j ∧ lastQuietRun d above = above.drop j := by
  have hlast := List.rdropWhile_last_not d.isQuietLine above
  have hsplit : above.rdropWhile d.isQuietLine ++ lastQuietRun d above = above :=
    List.rdropWhile_append_rtakeWhile ..
  generalize above.rdropWhile d.isQuietLine = front at hlast hsplit
  have hdrop : above.drop front.length = lastQuietRun d above := by
    conv_lhs => rw [← hsplit, List.drop_left]
  refine ⟨front.length, ⟨⟨?_, ?_⟩, ?_⟩, hdrop.symm⟩
  · rw [← hsplit, List.length_append]
    omega
  · rw [hdrop]
    intro l hl
    exact List.mem_rtakeWhile_imp hl
  · -- A place further up has the last line of `front` below it, and that line is code.
    rintro j ⟨_, hquiet⟩
    by_contra hlt
    have hne : front.drop j ≠ [] := by
      rw [ne_eq, List.drop_eq_nil_iff]
      omega
    have hne' : front ≠ [] := by
      rintro rfl
      simp at hne
    apply hlast hne'
    apply hquiet
    rw [← hsplit, List.drop_append_of_le_length (by omega), ← List.getLast_drop hne]
    exact List.mem_append_left _ (List.getLast_mem hne)

end

theorem commentOf_least (d : Dialect) (above : List Text) :
    ∃ j, IsLeast (quietFrom d above) j ∧ commentOf d above = trim (above.drop j).flatten := by
  obtain ⟨j, hj, hrun⟩ := lastQuietRun_least d above
  refine ⟨j, hj, ?_⟩
  rw [commentOf, touching_lastQuietRun, hrun]

/-- Collecting in a file that decodes is a walk over the lines of its text. -/
theorem commentAbove_walk {d : Desk} {loc : Location} {t : Text} {lang : Language}
    {asked : Option Language} (ht : Decodes d.tree loc.file t)
    (hlang : asked = some lang ∨ asked = none ∧ (Language.find loc.file d).1 = .ok lang) :
    (commentAbove asked loc d).1 = commentFrom lang.toDialect loc ⟨lines t, .done⟩ := by
  obtain ⟨settings, hs, hfeed⟩ := feedOf_decodes ht
  have hchosen : asked.elim (Language.ofFile settings.suffixes loc.file) .ok = .ok lang := by
    rcases hlang with rfl | ⟨rfl, hfind⟩
    · rfl
    · rw [reads_outcome (reads_find loc.file) d, languageIn, hs] at hfind
      exact hfind
  rw [reads_outcome (reads_commentAbove asked loc) d, hs]
  change (asked.elim (Language.ofFile settings.suffixes loc.file) .ok >>= fun lang =>
    feedOf loc.file settings.encoding d.tree >>= commentFrom (Language.toDialect lang) loc) = _
  rw [hchosen, hfeed]
  rfl

/-- Such a walk sees all the lines above the location. -/
theorem commentAbove_decodes {d : Desk} {loc : Location} {t : Text} {lang : Language}
    {asked : Option Language} (ht : Decodes d.tree loc.file t)
    (hn : loc.line ≤ (lines t).length + 1)
    (hlang : asked = some lang ∨ asked = none ∧ (Language.find loc.file d).1 = .ok lang) :
    (commentAbove asked loc d).1 =
      .ok (commentOf lang.toDialect ((lines t).take (loc.line - 1))) := by
  rw [commentAbove_walk ht hlang, commentFrom, approached_lines hn]
  rfl

/-- In a file that decodes, the comment above a line is the trimmed text of the lines from the `i`th
up to it, where `i` is the least number such that all of these are blank or comments; right below a
line of code, and on the first line, it is that of no lines. -/
theorem comment_quiet_run {d : Desk} {loc : Location} {t : Text} {lang : Language}
    (asked : Option Language) (ht : Decodes d.tree loc.file t)
    (hn : loc.line ≤ (lines t).length + 1)
    (hlang : asked = some lang ∨ asked = none ∧ (Language.find loc.file d).1 = .ok lang) :
    ∃ i, IsLeast {i | 1 ≤ i ∧ i ≤ loc.line ∧
        ∀ l ∈ ((lines t).take (loc.line - 1)).drop (i - 1),
          isBlankLine l = true ∨ lang.isCommentLine l = true} i ∧
      ((∀ l ∈ ((lines t).take (loc.line - 1)).getLast?,
          isBlankLine l = false ∧ lang.isCommentLine l = false) → i = loc.line) ∧
      (commentAbove asked loc d).1 =
        .ok (trim (((lines t).take (loc.line - 1)).drop (i - 1)).flatten) := by
  have hpos := loc.line_pos
  have hlen : ((lines t).take (loc.line - 1)).length = loc.line - 1 := by
    rw [List.length_take]
    omega
  rw [commentAbove_decodes ht hn hlang]
  generalize (lines t).take (loc.line - 1) = above at hlen ⊢
  obtain ⟨j, ⟨⟨hj, hquiet⟩, hmin⟩, hcomment⟩ := commentOf_least lang.toDialect above
  have hquiet' : ∀ l ∈ above.drop (j + 1 - 1),
      isBlankLine l = true ∨ lang.isCommentLine l = true := by
    intro l hl
    simpa [Dialect.isQuietLine] using hquiet l hl
  refine ⟨j + 1, ⟨⟨by omega, by omega, hquiet'⟩, ?_⟩, ?_, by rw [hcomment]; rfl⟩
  · rintro i ⟨hi, hle, hall⟩
    have hji : j ≤ i - 1 := by
      apply hmin
      refine ⟨by omega, ?_⟩
      intro l hl
      simpa [Dialect.isQuietLine] using hall l hl
    omega
  · -- Were the run not empty, it would hold the last line, which is code.
    intro hcode
    by_contra hne
    have hdrop : above.drop j ≠ [] := by
      rw [ne_eq, List.drop_eq_nil_iff]
      omega
    have hlast : (above.drop j).getLast hdrop ∈ above.getLast? := by
      rw [List.getLast_drop]
      exact List.getLast?_eq_some_getLast _
    obtain ⟨hb, hc⟩ := hcode _ hlast
    rcases hquiet' _ (List.getLast_mem hdrop) with h | h
    · rw [h] at hb
      cases hb
    · rw [h] at hc
      cases hc

/-- The comment on the first line lies above code and does not count; the blank line in the second
block does. -/
theorem ruby_quiet_run :
    let t := "#a\nx\r# b\n \n\t#c\r\ndef".toList
    let loc : Location := ⟨"a", 6, by decide⟩
    Decodes (oneFile t) "a" t ∧ loc.line ≤ (lines t).length + 1 ∧
      (commentAbove (some Language.ruby) loc (Desk.ofTree (oneFile t))).1 =
        .ok "# b\n \n\t#c".toList := by
  intro t loc
  have hdecodes := decodes_oneFile t
  have hline : loc.line ≤ (lines t).length + 1 := by decide
  obtain ⟨i, hi, _, hcomment⟩ := @comment_quiet_run (Desk.ofTree (oneFile t)) loc t
    Language.ruby (some Language.ruby) hdecodes hline (Or.inl rfl)
  have hleast : IsLeast {i | 1 ≤ i ∧ i ≤ loc.line ∧
      ∀ l ∈ ((lines t).take (loc.line - 1)).drop (i - 1),
        isBlankLine l = true ∨ Language.ruby.isCommentLine l = true} 3 := by
    refine ⟨⟨by decide, by decide, by decide⟩, ?_⟩
    rintro j ⟨hj, _, hquiet⟩
    by_contra hlt
    have hcode : ['x', '\r'] ∈ ((lines t).take (loc.line - 1)).drop (j - 1) := by
      obtain rfl | rfl : j = 1 ∨ j = 2 := by omega
      · decide
      · decide
    exact absurd (hquiet _ hcode) (by decide)
  obtain rfl : i = 3 := hi.unique hleast
  exact ⟨hdecodes, hline, hcomment.trans (congrArg Except.ok (by decide))⟩

end Excerpt
