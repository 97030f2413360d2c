import Excerpt.Proofs.Comment
import Excerpt.Proofs.Gathering

/-! Locations behind the last line. The source of such a location is always missing, since a unit has
at least one line. The comment above it needs only the lines in front, and these are all there when
the location is right behind the last line: there, and only there, the two questions differ. -/
namespace Excerpt

theorem approached_beyond {loc : Location} {t : Text} (h : (lines t).length + 1 < loc.line) :
    approached loc ⟨lines t, .done⟩ =
      .error (.endOfInput loc.file loc.line (lines t).length) := by
  have hshort : (lines t).length < loc.line - 1 := by omega
  rw [approached, linesAbove_beyond hshort, Nat.zero_add]

theorem placed_beyond {tree : FileTree} {loc : Location} {t : Text}
    (ht : Decodes tree loc.file t) (h : (lines t).length + 1 < loc.line) :
    placed loc tree = .error (.endOfInput loc.file loc.line (lines t).length) := by
  obtain ⟨settings, hs, hf⟩ := feedOf_decodes ht
  rw [placed, hs]
  simp only [bind, Except.bind, hf, approached_beyond h]

/-- Nothing is left to gather from, and no text at all is no unit. -/
theorem unitFrom_nil (lang : Language) (loc : Location) :
    unitFrom lang loc ⟨[], .done⟩ = .error (.endOfInput loc.file loc.line 0) := by
  rw [unitFrom, gather, (settle_ofLanguage lang loc [] 0 _).1, isComplete_nil]
  rfl

section
variable {d : Desk} {loc : Location} {t : Text} {lang : Language}

/-- Right behind the last line the reader finds no line; further down it does not get that far. -/
theorem sourceAt_beyond (name : Option String) (ht : Decodes d.tree loc.file t)
    (hlang : (Language.find loc.file d).1 = .ok lang) (hn : (lines t).length < loc.line) :
    (sourceAt (some loc) name d).1 =
      .error (.endOfInput loc.file loc.line
        (if loc.line = (lines t).length + 1 then 0 else (lines t).length)) := by
  rw [reads_outcome (reads_find loc.file) d] at hlang
  rw [reads_outcome (reads_sourceAt loc name) d, hlang]
  change (placed loc d.tree >>= unitFrom lang loc) = _
  split_ifs with hline
  · have hrest : linesFrom t loc.line = [] := by
      rw [linesFrom, List.drop_eq_nil_iff]
      omega
    rw [placed_decodes ht hline.le, hrest]
    exact unitFrom_nil lang loc
  · rw [placed_beyond ht (by omega)]
    rfl

/-- As long as the lines above the location are there, the collector does not notice that its own line
is not. -/
theorem commentAt_beyond (ht : Decodes d.tree loc.file t)
    (hlang : (Language.find loc.file d).1 = .ok lang) (hn : (lines t).length < loc.line) :
    (commentAt (some loc) d).1 =
      if loc.line = (lines t).length + 1 then .ok (commentOf lang.toDialect (lines t))
      else .error (.endOfInput loc.file loc.line (lines t).length) := by
  change (commentAbove none loc d).1 = _
  split_ifs with hline
  · rw [commentAbove_decodes ht hline.le (Or.inr ⟨rfl, hlang⟩), List.take_of_length_le (by omega)]
  · rw [commentAbove_walk ht (Or.inr ⟨rfl, hlang⟩), commentFrom, approached_beyond (by omega)]
    rfl

/-- Behind the last line of a file that decodes there is no source, and the fault names the location.
No comment is found there either, and by the same fault, exactly if the location is not on the line
right behind the last one; on that line the comment that ends the file is returned. -/
theorem location_beyond_end (name : Option String) (ht : Decodes d.tree loc.file t)
    (hlang : (Language.find loc.file d).1 = .ok lang) (hn : (lines t).length < loc.line) :
    (∃ count, (sourceAt (some loc) name d).1 = .error (.endOfInput loc.file loc.line count)) ∧
      ((∃ count, (commentAt (some loc) d).1 = .error (.endOfInput loc.file loc.line count)) ↔
        loc.line ≠ (lines t).length + 1) ∧
      (loc.line = (lines t).length + 1 →
        (commentAt (some loc) d).1 = .ok (commentOf lang.toDialect (lines t))) := by
  refine ⟨⟨_, sourceAt_beyond name ht hlang hn⟩, ?_, ?_⟩
  · rw [commentAt_beyond ht hlang hn]
    split_ifs with hline
    · simp [hline]
    · simp [hline]
  · intro hline
    rw [commentAt_beyond ht hlang hn, if_pos hline]

end

/-- Two lines below the only one, both questions fail. -/
theorem two_below_last_line :
    let t := ['#', '\n']
    let loc : Location := ⟨"a", 3, by decide⟩
    let d := Desk.ofTree (oneFile t)
    Decodes d.tree "a" t ∧ (Language.find "a" d).1 = .ok .python ∧ (lines t).length < loc.line ∧
      loc.line ≠ (lines t).length + 1 ∧
      (∃ count, (sourceAt (some loc) none d).1 = .error (.endOfInput "a" 3 count)) ∧
      ∃ count, (commentAt (some loc) d).1 = .error (.endOfInput "a" 3 count) := by
  intro t loc d
  have hn : (lines t).length < loc.line := by decide
  have hline : loc.line ≠ (lines t).length + 1 := by decide
  obtain ⟨hsource, hcomment, _⟩ :=
    @location_beyond_end d loc t .python none (decodes_oneFile t) (find_oneFile t) hn
  exact ⟨decodes_oneFile t, find_oneFile t, hn, hline, hsource, hcomment.mpr hline⟩

/-- The file has one line, but its comment is found above the second one. -/
theorem comment_below_last_line :
    let t := ['#', '\n']
    let loc : Location := ⟨"a", 2, by decide⟩
    let d := Desk.ofTree (oneFile t)
    Decodes d.tree "a" t ∧ (Language.find "a" d).1 = .ok .python ∧ (lines t).length < loc.line ∧
      (commentAt (some loc) d).1 = .ok ['#'] := by
  intro t loc d
  have hn : (lines t).length < loc.line := by decide
  have hcomment := @commentAt_beyond d loc t .python (decodes_oneFile t) (find_oneFile t) hn
  exact ⟨decodes_oneFile t, find_oneFile t, hn, hcomment.trans rfl⟩

end Excerpt
