import Excerpt.Proofs.Outcome

/-! The two questions about a location fail alike. Each reads the settings, picks the language, opens
the file and goes down to the line in its own way, but the faults met up to there are the same and
come in the same order; only the search for a unit, from the line on, can fail for one question and
not for the other. -/
namespace Excerpt

section
variable {α β : Type}

/-- The first of two steps that fails decides the fault. -/
theorem except_bind_error {x : Except Fault α} {f : α → Except Fault β} {e : Fault} :
    x >>= f = .error e ↔ x = .error e ∨ ∃ a, x = .ok a ∧ f a = .error e := by
  rcases x with e' | a
  · constructor
    · intro h
      cases h
      exact Or.inl rfl
    · rintro (h | ⟨a, ha, _⟩)
      · cases h
        rfl
      · cases ha
  · constructor
    · exact fun h => Or.inr ⟨a, rfl, h⟩
    · rintro (h | ⟨a', ha, h⟩)
      · cases h
      · cases ha
        exact h

theorem except_map_error {x : Except Fault α} {f : α → β} {e : Fault} :
    x.map f = .error e ↔ x = .error e := by
  rcases x with e' | a
  · simp [Except.map]
  · simp [Except.map]

end

/-- The lines above a location and the feed from its line on, by the settings in force. -/
def reached (loc : Location) (tree : FileTree) : Except Fault (List Text × Feed) := do
  let settings ← settingsIn tree
  let feed ← feedOf loc.file settings.encoding tree
  approached loc feed

theorem placed_reached (loc : Location) (tree : FileTree) :
    placed loc tree = (reached loc tree).map Prod.snd := by
  rw [placed, reached]
  rcases settingsIn tree with e | settings
  · rfl
  change (feedOf loc.file settings.encoding tree >>= _) =
    (feedOf loc.file settings.encoding tree >>= _).map _
  rcases feedOf loc.file settings.encoding tree with e | feed
  · rfl
  change (approached loc feed >>= _) = (approached loc feed).map _
  rcases approached loc feed with e | p <;> rfl

/-- The collector reads the settings once, for the language and for the encoding. -/
theorem commentAt_reached (loc : Location) (d : Desk) :
    (commentAt (some loc) d).1 = languageIn loc.file d.tree >>= fun lang =>
      (reached loc d.tree).map fun p => commentOf lang.toDialect p.1 := by
  change (commentAbove none loc d).1 = _
  rw [reads_outcome (reads_commentAbove none loc) d, languageIn, reached]
  rcases settingsIn d.tree with e | settings
  · rfl
  change (Language.ofFile settings.suffixes loc.file >>= _) =
    (Language.ofFile settings.suffixes loc.file >>= _)
  rcases Language.ofFile settings.suffixes loc.file with e | lang
  · rfl
  change (feedOf loc.file settings.encoding d.tree >>= _) =
    (feedOf loc.file settings.encoding d.tree >>= _).map _
  rcases feedOf loc.file settings.encoding d.tree with e | feed <;> rfl

/-- There is no comment just when the file has no language, or has one and no handle can be
placed. -/
theorem commentAt_error {loc : Location} {d : Desk} {e : Fault} :
    (commentAt (some loc) d).1 = .error e ↔
      languageIn loc.file d.tree = .error e ∨
        ∃ lang, languageIn loc.file d.tree = .ok lang ∧ placed loc d.tree = .error e := by
  rw [commentAt_reached, except_bind_error, placed_reached]
  simp only [except_map_error]

/-- Each of these faults stops the reader of units as well. -/
theorem sourceAt_error {loc : Location} {name : Option String} {d : Desk} {e : Fault}
    (h : languageIn loc.file d.tree = .error e ∨
      ∃ lang, languageIn loc.file d.tree = .ok lang ∧ placed loc d.tree = .error e) :
    (sourceAt (some loc) name d).1 = .error e := by
  rw [reads_outcome (reads_sourceAt loc name) d, except_bind_error]
  rcases h with hlang | ⟨lang, hlang, hplaced⟩
  · exact Or.inl hlang
  · exact Or.inr ⟨lang, hlang, except_bind_error.mpr (Or.inl hplaced)⟩

theorem extract_outcome {f : Option Location → Op Text} (v : Json) (d : Desk) :
    ((do f (← Op.ofExcept (Location.ofJson v)) : Op Text) d).1 =
      Location.ofJson v >>= fun loc => (f loc d).1 := by
  rw [op_bind]
  rcases Location.ofJson v with e | loc <;> rfl

/-- The comment above a location fails just when the value names no location, the file has no
language, or no handle can be placed at its line. -/
theorem extractComment_error {v : Json} {d : Desk} {e : Fault} :
    (extractComment v d).1 = .error e ↔
      Location.ofJson v = .error e ∨ ∃ loc, Location.ofJson v = .ok (some loc) ∧
        (languageIn loc.file d.tree = .error e ∨
          ∃ lang, languageIn loc.file d.tree = .ok lang ∧ placed loc d.tree = .error e) := by
  rw [extractComment, extract_outcome, except_bind_error]
  refine or_congr_right ?_
  constructor
  · rintro ⟨_ | loc, hloc, herror⟩
    · -- Without a location there is an empty comment, and no fault.
      cases herror
    · exact ⟨loc, hloc, commentAt_error.mp herror⟩
  · rintro ⟨loc, hloc, herror⟩
    exact ⟨some loc, hloc, commentAt_error.mpr herror⟩

/-- In one directory, whatever keeps the comment above a location from being found keeps the source
at the location from being found, and by the same fault, so that where there is a source there is a
comment. The faults in question are those of the value, of the language, and of opening the file at
the line, in this order. -/
theorem faults_agree (v : Json) (name : Option String) {d d' : Desk} (hsame : d'.tree = d.tree) :
    (∀ e, (extractComment v d).1 = .error e → (extractSource v name d').1 = .error e) ∧
    (∀ s, (extractSource v name d').1 = .ok s → ∃ c, (extractComment v d).1 = .ok c) ∧
    ∀ e, (extractComment v d).1 = .error e ↔
      Location.ofJson v = .error e ∨ ∃ loc, Location.ofJson v = .ok (some loc) ∧
        ((Language.find loc.file d).1 = .error e ∨
          ∃ lang, (Language.find loc.file d).1 = .ok lang ∧ (Source.openAt loc d).1 = .error e) := by
  have hagree (e : Fault) (he : (extractComment v d).1 = .error e) :
      (extractSource v name d').1 = .error e := by
    rw [extractSource, extract_outcome (f := (sourceAt · name)), except_bind_error]
    rcases extractComment_error.mp he with hv | ⟨loc, hloc, herror⟩
    · exact Or.inl hv
    · rw [← hsame] at herror
      exact Or.inr ⟨some loc, hloc, sourceAt_error herror⟩
  refine ⟨hagree, ?_, ?_⟩
  · intro s hs
    rcases hc : (extractComment v d).1 with e | c
    · rw [hagree e hc] at hs
      cases hs
    · exact ⟨c, rfl⟩
  · intro e
    have hopen (loc : Location) :
        (Source.openAt loc d).1 = .error e ↔ placed loc d.tree = .error e := by
      rw [← (reads_openAt loc d).1, except_map_error]
    rw [extractComment_error]
    simp only [reads_outcome (reads_find _) d, hopen]

/-- A file of two lines, the first of which holds a byte that starts no character. -/
theorem feed_strayByte :
    Feed.ofBytes .utf8 [0xFF, 10, 120] =
      ⟨[], .stuck ⟨.utf8, .invalidStart, 0, 1, 0xFF⟩ (.ok [])⟩ := by
  have hbad : decodeUtf8 false [0xFF, 10, 120] = .error ⟨.invalidStart, 0, 1⟩ := by
    simp [decodeUtf8, utf8Lead]
  have hend : decodeUtf8 true [] = .ok ([], []) := by
    simp [decodeUtf8]
  have hchunks : chunks (3 / chunkSize + 1) [0xFF, 10, 120] = [[0xFF, 10, 120]] := rfl
  have hpieces : pieces .utf8 [0xFF, 10, 120] =
      [.error ⟨.utf8, .invalidStart, 0, 1, 0xFF⟩, .ok []] := by
    simp [pieces, hchunks, decodeChunks, Decoder.feed, Decoder.run, hbad, hend, Except.map,
      giveBack]
  rw [Feed.ofBytes, hpieces]
  rfl

/-- Above the second line of that file neither question gets an answer. -/
theorem strayByte_faults_agree :
    let tree : FileTree := ⟨[(["a"], .file [0xFF, 10, 120])]⟩
    let v : Json := .arr [.str "a", .int 2]
    let fault : Fault := .unreadable "a" (.undecodable .invalidStart)
    let d := Desk.ofTree tree
    d.opened.tree = d.tree ∧ (extractComment v d).1 = .error fault ∧
      (extractSource v none d.opened).1 = .error fault := by
  intro tree v fault d
  let loc : Location := ⟨"a", 2, by decide⟩
  obtain ⟨hagree, -, hfaults⟩ := @faults_agree v none d d.opened rfl
  have hsettings : settingsIn tree = .ok {} := settingsIn_default rfl
  have hlang : (Language.find "a" d).1 = .ok .python := by
    rw [reads_outcome (reads_find "a") d]
    change (settingsIn tree >>= _) = _
    rw [hsettings]
    rfl
  have hplaced : placed loc tree = .error fault := by
    have hfeed : feedOf "a" .null tree = .ok (Feed.ofBytes .utf8 [0xFF, 10, 120]) := rfl
    rw [placed_reached, reached, hsettings, except_map_error]
    simp only [bind, Except.bind]
    rw [hfeed, feed_strayByte]
    dsimp only
    rw [approached, linesAbove_beyond (by decide)]
    rfl
  have hopen : (Source.openAt loc d).1 = .error fault :=
    except_map_error.mp ((reads_openAt loc d).1.trans hplaced)
  have hcomment : (extractComment v d).1 = .error fault :=
    (hfaults fault).mpr (Or.inr ⟨loc, rfl, Or.inr ⟨.python, hlang, hopen⟩⟩)
  exact ⟨rfl, hcomment, hagree fault hcomment⟩

end Excerpt
