import Excerpt.Proofs.Gathering

/-! Languages whose units close themselves. What such a language says of a candidate depends on the
text alone, so the line that the reader looks at ahead and the question it asks at the end of the file
are idle: the reader is the loop that adds lines until the text is whole. -/
namespace Excerpt

/-- The languages with closing marks, over any notion of what a program is. -/
inductive SelfClosing : Language → Prop
  | ruby (isProgram : Text → Bool) :
      SelfClosing { Language.ruby with accepts := fun code _ => isProgram code }
  | javaScript (isProgram : Text → Bool) :
      SelfClosing { Language.javaScript with
        accepts := fun code _ => JavaScript.isUnit isProgram code }

/-- The numbers of lines, from the first on, whose text is whole by `check`. -/
def wholeRuns (check : Text → Except Fault Bool) (ls : List Text) : Set ℕ :=
  {k | 0 < k ∧ k ≤ ls.length ∧ check (ls.take k).flatten = .ok true}

/-- The result of the plain loop over `ls`: the shortest run of lines that is whole, or the one fault
that none is. -/
structure ReadsShortest (check : Text → Except Fault Bool) (loc : Location) (ls : List Text)
    (result : Except Fault Text) : Prop where
  shortest : ∀ s, result = .ok s ↔ ∃ k, IsLeast (wholeRuns check ls) k ∧ s = (ls.take k).flatten
  ended : result = .error (.endOfInput loc.file loc.line ls.length) ↔
    ∀ k, 0 < k → k ≤ ls.length → check (ls.take k).flatten = .ok false
  noOther : ∀ e, result = .error e → e = .endOfInput loc.file loc.line ls.length

section
variable {check : Text → Except Fault Bool} {loc : Location} {ls : List Text}

theorem readsShortest_least {k : ℕ} (hk : IsLeast (wholeRuns check ls) k) :
    ReadsShortest check loc ls (.ok (ls.take k).flatten) := by
  constructor
  · intro s
    constructor
    · intro hs
      cases hs
      exact ⟨k, hk, rfl⟩
    · rintro ⟨k', hk', rfl⟩
      rw [hk.unique hk']
  · obtain ⟨hpos, hle, hyes⟩ := hk.1
    refine iff_of_false (by simp) fun hall => ?_
    rw [hall k hpos hle] at hyes
    cases hyes
  · intro e he
    cases he

theorem readsShortest_none
    (hno : ∀ k, 0 < k → k ≤ ls.length → check (ls.take k).flatten = .ok false) :
    ReadsShortest check loc ls (.error (.endOfInput loc.file loc.line ls.length)) := by
  constructor
  · intro s
    constructor
    · intro hs
      cases hs
    · rintro ⟨k, ⟨⟨hpos, hle, hyes⟩, _⟩, _⟩
      rw [hno k hpos hle] at hyes
      cases hyes
  · exact iff_of_true rfl hno
  · intro e he
    cases he
    rfl

end

section
variable {lang : Language}

/-- Nothing that is known besides the text changes the answer. -/
theorem selfClosing_blind (h : SelfClosing lang) (code : Text) (e : Evidence) :
    lang.isComplete code e = lang.isComplete code .none := by
  cases h with
  | ruby isProgram => rfl
  | javaScript isProgram => rfl

/-- The numbers of lines accepted with a look ahead are those that are whole by themselves. -/
theorem accepted_blind (h : SelfClosing lang) (ls : List Text) :
    lang.accepted ls = wholeRuns (fun p => .ok (lang.isComplete p .none)) ls := by
  ext k
  simp only [Language.accepted, Language.takes, wholeRuns, Set.mem_ofPred_eq, selfClosing_blind h,
    Except.ok.injEq]

/-- Once every number of lines has been refused, the end of the file changes nothing. -/
theorem refused_atEnd (h : SelfClosing lang) {ls : List Text} (hnone : lang.accepted ls = ∅) :
    lang.isComplete ls.flatten .atEnd = false := by
  by_contra hyes
  have hne : ls ≠ [] := by
    rintro rfl
    exact hyes (isComplete_nil lang .atEnd)
  have hmem : ls.length ∈ lang.accepted ls := by
    refine ⟨List.length_pos_iff.mpr hne, le_rfl, ?_⟩
    rw [Language.takes, List.take_length, selfClosing_blind h, ← selfClosing_blind h _ .atEnd]
    simpa using hyes
  rw [hnone] at hmem
  exact hmem

/-- The reader of units as the plain loop. -/
theorem unitFrom_shortest (h : SelfClosing lang) (loc : Location) (ls : List Text) :
    ReadsShortest (fun p => .ok (lang.isComplete p .none)) loc ls
      (unitFrom lang loc ⟨ls, .done⟩) := by
  have hrun := gather_reading lang loc ⟨ls, .done⟩
  rcases Set.eq_empty_or_nonempty (lang.accepted ls) with hnone | hsome
  · have hresult : unitFrom lang loc ⟨ls, .done⟩ =
        .error (.endOfInput loc.file loc.line ls.length) := by
      rcases reading_none hrun hnone with ⟨_, hyes, _⟩ | ⟨_, hended⟩
      · rw [refused_atEnd h hnone] at hyes
        cases hyes
      · rw [unitFrom, hended]
        rfl
    rw [hresult]
    apply readsShortest_none
    intro k hpos hle
    by_contra hyes
    have hmem : k ∈ lang.accepted ls := by
      rw [accepted_blind h]
      exact ⟨hpos, hle, by simpa using hyes⟩
    rw [hnone] at hmem
    exact hmem
  · obtain ⟨k, hk, hunit, _⟩ := reading_least hrun hsome
    have hresult : unitFrom lang loc ⟨ls, .done⟩ = .ok (ls.take k).flatten := by
      rw [unitFrom, hunit]
      rfl
    rw [accepted_blind h] at hk
    rw [hresult]
    exact readsShortest_least hk

end

/-! ### What the reader records -/

theorem completeAtEnd_ne_complete (loc : Location) (n m : ℕ) :
    Record.completeAtEnd loc n ≠ .complete loc m := by
  intro h
  have htext := congrArg (fun r => r.text.toList) h
  simp [Record.completeAtEnd, Record.complete] at htext

theorem completeAtEnd_ne_incomplete (loc : Location) (n m : ℕ) :
    Record.completeAtEnd loc n ≠ .incomplete loc m := by
  intro h
  have htext := congrArg (fun r => r.text.toList) h
  simp [Record.completeAtEnd, Record.incomplete] at htext

theorem completeAtEnd_ne_noUnit (loc : Location) (n : ℕ) (language : String) :
    Record.completeAtEnd loc n ≠ .noUnit loc language := by
  intro h
  cases congrArg Record.severity h

section
variable {lang : Language} {loc : Location}

/-- The reader gets to the end of the file only with a text that was refused before, or with none. -/
theorem settle_records {code : Text} (hno : lang.isComplete code .atEnd = false) (count : ℕ)
    (feed : Feed) :
    (settle (Judge.ofLanguage lang) loc ⟨⟩ code count feed).records = [.noUnit loc lang.name] := by
  rw [settle_eq, hno]
  rfl

theorem gatherLine_records (h : SelfClosing lang) (code : Text) (count n : ℕ) (ending : Ending)
    (line : Text) (rest : List Text) :
    Record.completeAtEnd loc n ∉
      (gatherLine (Judge.ofLanguage lang) loc ⟨⟩ code count ending line rest).records := by
  induction rest generalizing code count line with
  | nil =>
    cases ending with
    | stuck f rest => simp [gatherLine]
    | done =>
      simp only [gatherLine, decide_ofLanguage]
      split_ifs with hy
      · simp [completeAtEnd_ne_complete]
      · have hend : lang.isComplete (code ++ line) .atEnd = false := by
          rw [selfClosing_blind h, ← selfClosing_blind h _ (.ahead [])]
          simpa using hy
        simp [Gathering.noting, settle_records hend, completeAtEnd_ne_incomplete,
          completeAtEnd_ne_noUnit]
  | cons upcoming rest ih =>
    simp only [gatherLine, decide_ofLanguage]
    split_ifs with hy
    · simp [completeAtEnd_ne_complete]
    · simpa [Gathering.noting, completeAtEnd_ne_incomplete] using ih _ _ _

/-- No unit of such a language is ever found at the end of a file only. -/
theorem gather_records (h : SelfClosing lang) (n : ℕ) (feed : Feed) :
    Record.completeAtEnd loc n ∉ (gather (Judge.ofLanguage lang) loc ⟨⟩ feed).records := by
  rcases feed with ⟨_ | ⟨line, rest⟩, ending⟩
  · cases ending with
    | done =>
      rw [gather, settle_records (isComplete_nil lang .atEnd)]
      simp [completeAtEnd_ne_noUnit]
    | stuck f rest => simp [gather]
  · exact gatherLine_records h [] 0 n ending line rest

end

theorem checkText_find {file : String} {d : Desk} {lang : Language}
    (h : (Language.find file d).1 = .ok lang) (p : Text) :
    (checkText p file d).1 = .ok (lang.isComplete p .none) := by
  rw [checkText, op_bind]
  rcases hd : Language.find file d with ⟨e | lang', d'⟩
  · rw [hd] at h
    cases h
  · rw [hd] at h
    cases h
    rfl

/-- For a language whose units close themselves, over any notion of program, neither the line ahead
nor the end of the file changes an answer, no unit is recorded as complete at the end of the file, and
inside a file that decodes the reader finds the shortest run of lines that is whole by itself, or
fails, by the fault of the end of the file, exactly if no run is. So it is with Ruby and JavaScript
and their question about a text alone. -/
theorem unit_shortest_whole :
    (∀ lang, SelfClosing lang →
      (∀ code e, lang.isComplete code e = lang.isComplete code .none) ∧
      (∀ loc n feed,
        Record.completeAtEnd loc n ∉ (gather (Judge.ofLanguage lang) loc ⟨⟩ feed).records) ∧
      ∀ (loc : Location) d t, Decodes d.tree loc.file t → loc.line ≤ (lines t).length →
        ReadsShortest (fun p => .ok (lang.isComplete p .none)) loc (linesFrom t loc.line)
          (Source.withPlaced loc (readUnit lang loc) d).1) ∧
    ∀ (loc : Location) name d t lang, Decodes d.tree loc.file t → loc.line ≤ (lines t).length →
      (Language.find loc.file d).1 = .ok lang → lang = .ruby ∨ lang = .javaScript →
      SelfClosing lang ∧
        ReadsShortest (fun p => (checkText p loc.file d).1) loc (linesFrom t loc.line)
          (sourceAt (some loc) name d).1 := by
  constructor
  · intro lang h
    refine ⟨selfClosing_blind h, fun loc n feed => gather_records h n feed, ?_⟩
    intro loc d t ht hn
    rw [reads_outcome (reads_placedUnit lang loc) d, placed_decodes ht (by omega)]
    exact unitFrom_shortest h loc _
  · intro loc name d t lang ht hn hfind hlang
    have h : SelfClosing lang := by
      rcases hlang with rfl | rfl
      · exact SelfClosing.ruby Ruby.isProgram
      · exact SelfClosing.javaScript JavaScript.isProgram
    refine ⟨h, ?_⟩
    simp only [checkText_find hfind]
    rw [reads_outcome (reads_find loc.file) d] at hfind
    rw [reads_outcome (reads_sourceAt loc name) d, hfind, placed_decodes ht (by omega)]
    exact unitFrom_shortest h loc _

/-- A directory that holds one Ruby file and no settings. -/
def rubyFile (t : Text) : FileTree := ⟨[(["a.rb"], .file (utf8Bytes t))]⟩

theorem settingsIn_rubyFile (t : Text) : settingsIn (rubyFile t) = .ok {} := settingsIn_default rfl

theorem readFile_rubyFile (t : Text) : (rubyFile t).readFile "a.rb" = .ok (utf8Bytes t) := by
  have hparts : pathComponents "a.rb" = ["a.rb"] := by decide
  have hwalk : (rubyFile t).walk [] ["a.rb"] = .ok (.entry ["a.rb"] (.file (utf8Bytes t))) := by
    have htop : (rubyFile t).get? [] = some .dir := rfl
    have hfile : (rubyFile t).get? ["a.rb"] = some (.file (utf8Bytes t)) := by
      simp [FileTree.get?, rubyFile]
    have hsize : ¬ "a.rb".utf8ByteSize > maxName := by decide
    simp [FileTree.walk, htop, hfile, hsize]
  have hlocate : (rubyFile t).locate "a.rb" = .ok (.entry ["a.rb"] (.file (utf8Bytes t))) := by
    have hsize : ¬ "a.rb".utf8ByteSize > maxPath := by decide
    have habs : isAbsolute "a.rb" = false := by decide
    rw [FileTree.locate, if_neg (by decide), if_neg hsize, habs, hparts, hwalk]
    rfl
  rw [FileTree.readFile, hlocate]

theorem decodes_rubyFile (t : Text) : Decodes (rubyFile t) "a.rb" t :=
  ⟨{}, utf8Bytes t, .utf8, settingsIn_rubyFile t, by decide, readFile_rubyFile t, rfl,
    decode_utf8Bytes t⟩

theorem find_rubyFile (t : Text) :
    (Language.find "a.rb" (Desk.ofTree (rubyFile t))).1 = .ok .ruby := by
  rw [reads_outcome (reads_find "a.rb") _]
  change languageIn "a.rb" (rubyFile t) = _
  rw [languageIn, settingsIn_rubyFile]
  rfl

theorem ruby_def_whole : Language.ruby.isComplete "def f\nend\n".toList .none = true := by
  decide +kernel

theorem ruby_def_open : Language.ruby.isComplete "def f\n".toList .none = false := by
  decide +kernel

/-- A method in the middle of a Ruby file is read up to its end; and where braces must balance, a file
that leaves one open holds no unit. -/
theorem method_shortest_whole :
    let t := "x\ndef f\nend\ny".toList
    let d := Desk.ofTree (rubyFile t)
    let loc : Location := ⟨"a.rb", 2, by decide⟩
    let braced : Language :=
      { Language.javaScript with
        accepts := fun code _ => JavaScript.isUnit (fun p => p.count '{' == p.count '}') code }
    let first : Location := ⟨"a", 1, by decide⟩
    Decodes d.tree loc.file t ∧ loc.line ≤ (lines t).length ∧
      (Language.find loc.file d).1 = .ok .ruby ∧
      (sourceAt (some loc) none d).1 = .ok "def f\nend\n".toList ∧
      SelfClosing braced ∧
      (Source.withPlaced first (readUnit braced first) (Desk.ofTree (oneFile ['{', '\n']))).1 =
        .error (.endOfInput "a" 1 1) := by
  intro t d loc braced first
  have hdecodes : Decodes d.tree loc.file t := decodes_rubyFile t
  have hline : loc.line ≤ (lines t).length := by decide
  have hfind : (Language.find loc.file d).1 = .ok .ruby := find_rubyFile t
  have hbraced : SelfClosing braced := SelfClosing.javaScript _
  obtain ⟨hany, hsource⟩ := unit_shortest_whole
  refine ⟨hdecodes, hline, hfind, ?_, hbraced, ?_⟩
  · obtain ⟨-, hreads⟩ := hsource loc none d t .ruby hdecodes hline hfind (Or.inl rfl)
    have hone : ((linesFrom t loc.line).take 1).flatten = "def f\n".toList := by decide
    have htwo : ((linesFrom t loc.line).take 2).flatten = "def f\nend\n".toList := by decide
    refine (hreads.shortest _).mpr ⟨2, ⟨⟨by decide, by decide, ?_⟩, ?_⟩, htwo.symm⟩
    · beta_reduce
      rw [checkText_find hfind, htwo, ruby_def_whole]
    · rintro k ⟨hpos, _, hyes⟩
      by_contra hlt
      obtain rfl : k = 1 := by omega
      beta_reduce at hyes
      rw [checkText_find hfind, hone, ruby_def_open] at hyes
      cases hyes
  · obtain ⟨-, -, hreads⟩ := hany braced hbraced
    have hopen := hreads first (Desk.ofTree (oneFile ['{', '\n'])) ['{', '\n'] (decodes_oneFile _)
      (by decide)
    refine hopen.ended.mpr fun k hpos hle => ?_
    obtain rfl : k = 1 := Nat.le_antisymm hle hpos
    rfl

end Excerpt
