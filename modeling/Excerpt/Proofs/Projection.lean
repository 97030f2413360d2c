import Excerpt.Proofs.Evidence

/-! A unit read again is itself. In a file that holds the unit alone the line that closed it is gone,
but every smaller number of its lines is seen with the same line behind it and refused as before, and
the end of the file closes what that line had closed. -/
namespace Excerpt

section
variable {lang : Language} {ls : List Text}

/-- As long as the line behind them is kept, fewer lines are judged as they were among all. -/
theorem takes_take {i k : ℕ} (h : i < k) : lang.takes (ls.take k) i = lang.takes ls i := by
  have hnext : (ls.take k).getD i [] = ls.getD i [] := by
    rw [List.getD_eq_getElem?_getD, List.getD_eq_getElem?_getD, List.getElem?_take_of_lt h]
  rw [Language.takes, Language.takes, List.take_take, Nat.min_eq_left h.le, hnext]

/-- Lines that are refused as long as one is left, and accepted at the end of a file, are read to the
last. -/
theorem unitFrom_all (loc : Location)
    (hbefore : ∀ i, 0 < i → i < ls.length → lang.takes ls i = false)
    (hend : lang.isComplete ls.flatten .atEnd = true) :
    unitFrom lang loc ⟨ls, .done⟩ = .ok ls.flatten := by
  have hrun := gather_reading lang loc ⟨ls, .done⟩
  rw [unitFrom]
  generalize (gather (Judge.ofLanguage lang) loc ⟨⟩ ⟨ls, .done⟩).result = g at hrun ⊢
  generalize (gather (Judge.ofLanguage lang) loc ⟨⟩ ⟨ls, .done⟩).feed = left at hrun
  cases hrun with
  | @accepted k pos le _ _ yes =>
    -- The last line may be accepted before the end of the file is known.
    have hk : k = ls.length := by
      by_contra hlt
      have hrefused := hbefore k pos (lt_of_le_of_ne le hlt)
      rw [hrefused] at yes
      cases yes
    rw [hk, List.take_length]
    rfl
  | acceptedAtEnd _ _ _ _ => rfl
  | ended _ _ no =>
    rw [hend] at no
    cases no
  | stuck stuck _ => cases stuck

end

/-- Reading the unit's own lines, to the end of a file that has no others. -/
theorem unitFrom_reread {lang : Language} {loc again : Location} {feed : Feed} {s : Text}
    (hm : EvidenceMonotone lang) (hcut : Cut feed.lines) (h : unitFrom lang loc feed = .ok s) :
    unitFrom lang again ⟨lines s, .done⟩ = .ok s := by
  obtain ⟨k, _, hle, rfl, hbefore, haccepted⟩ := unitFrom_ok h
  have hlines : lines (feed.lines.take k).flatten = feed.lines.take k := lines_cut (cut_take hcut k)
  have hlen : (feed.lines.take k).length = k := List.length_take_of_le hle
  rw [hlines]
  apply unitFrom_all
  · intro i hi hlt
    rw [hlen] at hlt
    rw [takes_take hlt]
    exact hbefore i hi hlt
  · -- However the unit was accepted, with nothing behind it it still is.
    rcases haccepted with hahead | hend
    · exact hm.final _ _ none hahead
    · exact hend

theorem placed_first {tree : FileTree} {loc : Location} {t : Text} (hline : loc.line = 1)
    (h : Decodes tree loc.file t) : placed loc tree = .ok ⟨lines t, .done⟩ := by
  rw [placed_decodes h (by omega), hline]
  rfl

/-- Extraction is a projection. Whatever the grammars accept, a unit read at any location of any file
is read again, neither shortened nor refused, at the first line of a file of the same language that
holds nothing but this unit. -/
theorem unit_reread :
    (∀ lang, Hosted lang → ∀ loc d s, (Source.withPlaced loc (readUnit lang loc) d).1 = .ok s →
      ∀ (again : Location) d', again.line = 1 → Decodes d'.tree again.file s →
        (Source.withPlaced again (readUnit lang again) d').1 = .ok s) ∧
    ∀ loc name d s, (sourceAt (some loc) name d).1 = .ok s →
      ∀ (again : Location) name' d', again.line = 1 → Decodes d'.tree again.file s →
        (Language.find again.file d').1 = (Language.find loc.file d).1 →
        (sourceAt (some again) name' d').1 = .ok s := by
  constructor
  · intro lang hl loc d s hs again d' hline ht
    rw [reads_outcome (reads_placedUnit lang loc) d] at hs
    obtain ⟨feed, hp, hunit⟩ := except_bind_ok.mp hs
    rw [reads_outcome (reads_placedUnit lang again) d', placed_first hline ht]
    exact unitFrom_reread (hosted_monotone hl) (placed_cut hp) hunit
  · intro loc name d s hs again name' d' hline ht hsame
    obtain ⟨lang, feed, hlang, hp, hunit⟩ := sourceAt_ok hs
    rw [reads_outcome (reads_find again.file) d', reads_outcome (reads_find loc.file) d, hlang]
      at hsame
    have hm := hosted_monotone (languageIn_hosted hlang)
    rw [reads_outcome (reads_sourceAt again name') d', hsame, placed_first hline ht]
    exact unitFrom_reread hm (placed_cut hp) hunit

/-- Of three lines the first two are a unit because of the third. A file of these two ends where the
third line was. -/
theorem block_reread :
    let lang : Language :=
      { Language.python with accepts := Python.Host.accepts ⟨fun _ => true, startsWith ['d']⟩ }
    let s := ['d', '\r', ' ', 'x', '\r']
    let loc : Location := ⟨"a", 1, by decide⟩
    Hosted lang ∧
      (Source.withPlaced loc (readUnit lang loc) (Desk.ofTree (oneFile (s ++ ['y'])))).1 = .ok s ∧
      Decodes (oneFile s) "a" s ∧
      (Source.withPlaced loc (readUnit lang loc) (Desk.ofTree (oneFile s))).1 = .ok s ∧
      (sourceAt (some loc) none (Desk.ofTree (oneFile ['x', '\n']))).1 = .ok ['x', '\n'] := by
  intro lang s loc
  have hl : Hosted lang := Hosted.python _
  have hs : (Source.withPlaced loc (readUnit lang loc) (Desk.ofTree (oneFile (s ++ ['y'])))).1 =
      .ok s := by
    rw [reads_outcome (reads_placedUnit lang loc) _]
    change (placed loc (oneFile (s ++ ['y'])) >>= unitFrom lang loc) = _
    rw [placed_decodes (decodes_oneFile _) (by decide)]
    rfl
  obtain ⟨hhosted, hsource⟩ := unit_reread
  refine ⟨hl, hs, decodes_oneFile s, ?_, ?_⟩
  · exact hhosted lang hl loc _ s hs loc _ rfl (decodes_oneFile s)
  · apply hsource _ _ _ _ sourceAt_statement loc none _ rfl (decodes_oneFile _)
    exact (find_oneFile _).trans (find_oneFile _).symm

end Excerpt
