import Excerpt.Proofs.Gathering

/-! More evidence about a candidate never turns an acceptance into a refusal, whatever the grammars
behind the languages are. Hence the reader, who asks with the next line and at the end of the file,
finds units that are minimal for the language alone. -/
namespace Excerpt

/-- The languages, over any notion of what their grammars accept. -/
inductive Hosted : Language → Prop
  | python (h : Python.Host) : Hosted { Language.python with accepts := h.accepts }
  | ruby (isProgram : Text → Bool) :
      Hosted { Language.ruby with accepts := fun code _ => isProgram code }
  | javaScript (isProgram : Text → Bool) :
      Hosted { Language.javaScript with
        accepts := fun code _ => JavaScript.isUnit isProgram code }

/-- What is accepted without evidence is accepted before any line, and what is accepted before a line
is accepted at the end of the file. -/
structure EvidenceMonotone (lang : Language) : Prop where
  ahead : ∀ code a, lang.isComplete code .none = true → lang.isComplete code (.ahead a) = true
  final : ∀ code a b, lang.isComplete code (.ahead a) = true → lang.isComplete code ⟨true, b⟩ = true

/-- Accepted at the end of a file, while no shorter run of its lines is accepted on its own. -/
structure MinimalUnit (lang : Language) (s : Text) : Prop where
  complete : lang.isComplete s .atEnd = true
  minimal : ∀ i, 0 < i → i < (lines s).length →
    lang.isComplete ((lines s).take i).flatten .none = false

/-- Comments are refused whatever is known, so the language's own answers decide. -/
theorem isComplete_mono {lang : Language} {code : Text} {e e' : Evidence}
    (h : lang.accepts code e = true → lang.accepts code e' = true)
    (hc : lang.isComplete code e = true) : lang.isComplete code e' = true := by
  rw [Language.isComplete] at hc ⊢
  split_ifs at hc ⊢
  exact h hc

/-- The four ways in which a module is accepted: the end of the file, no open block, a next line that
closes it, or a blank line at its end. -/
theorem python_accepts_iff (h : Python.Host) (code : Text) (e : Evidence) :
    h.accepts code e = true ↔
      h.isModule (Python.dedent code) = true ∧
        (e.final = true ∨ h.opensSuite (Python.dedent code) = false ∨
          Python.closesSuite ((bareLines code).headD []) e.next = true ∨
          isBlankLine ((bareLines (Python.dedent code)).getLastD []) = true) := by
  simp only [Python.Host.accepts]
  -- Only the five answers matter from here on.
  generalize h.isModule (Python.dedent code) = isModule
  generalize h.opensSuite (Python.dedent code) = opens
  generalize Python.closesSuite ((bareLines code).headD []) e.next = closes
  generalize isBlankLine ((bareLines (Python.dedent code)).getLastD []) = blank
  generalize e.final = final
  revert isModule opens closes blank final
  decide

theorem hosted_monotone {lang : Language} (h : Hosted lang) : EvidenceMonotone lang := by
  cases h with
  | python host =>
    constructor
    · intro code a
      apply isComplete_mono
      change host.accepts code .none = true → host.accepts code (.ahead a) = true
      rw [python_accepts_iff, python_accepts_iff]
      rintro ⟨hm, hf | ho | hc | hb⟩
      · cases hf
      · exact ⟨hm, Or.inr (Or.inl ho)⟩
      · -- Without a next line nothing closes a block.
        cases hc
      · exact ⟨hm, Or.inr (Or.inr (Or.inr hb))⟩
    · intro code a b
      apply isComplete_mono
      change host.accepts code (.ahead a) = true → host.accepts code ⟨true, b⟩ = true
      rw [python_accepts_iff, python_accepts_iff]
      rintro ⟨hm, _⟩
      exact ⟨hm, Or.inl rfl⟩
  | ruby _ => exact ⟨fun _ _ => isComplete_mono id, fun _ _ _ => isComplete_mono id⟩
  | javaScript _ => exact ⟨fun _ _ => isComplete_mono id, fun _ _ _ => isComplete_mono id⟩

/-- A reader who asks a monotone language finds minimal units. -/
theorem unitFrom_minimal {lang : Language} {loc : Location} {feed : Feed} {s : Text}
    (hm : EvidenceMonotone lang) (hcut : Cut feed.lines) (h : unitFrom lang loc feed = .ok s) :
    MinimalUnit lang s := by
  obtain ⟨k, _, hle, rfl, hbefore, haccepted⟩ := unitFrom_ok h
  have hlines : lines (feed.lines.take k).flatten = feed.lines.take k := lines_cut (cut_take hcut k)
  constructor
  · rcases haccepted with hk | hend
    · exact hm.final _ _ none hk
    · exact hend
  · -- The reader was refused with the next line known, so also with nothing known.
    intro i hi hlt
    rw [hlines, List.length_take] at hlt
    rw [hlines, List.take_take, Nat.min_eq_left (by omega)]
    by_contra hc
    have hahead := hm.ahead _ (feed.lines.getD i []) (by simpa using hc)
    have hrefused := hbefore i hi (by omega)
    rw [Language.takes, hahead] at hrefused
    cases hrefused

theorem placed_cut {loc : Location} {tree : FileTree} {feed : Feed}
    (h : placed loc tree = .ok feed) : Cut feed.lines := by
  obtain ⟨_, bytes, cs, _, _, _, _, rfl⟩ := placed_ok h
  exact cut_drop (feed_cut cs bytes) _

theorem bySuffix_mem (suffix : String) : Language.bySuffix suffix ∈ Language.all := by
  rcases hf : Language.all.find? fun lang => lang.suffixes.contains suffix with _ | lang
  · rw [Language.bySuffix, hf, Language.all]
    exact List.mem_cons_self
  · rw [Language.bySuffix, hf]
    exact List.mem_of_find?_eq_some hf

/-- Whatever the settings say, a file's language is one of those known. -/
theorem ofFile_mem {suffixes : List (String × Json)} {file : String} {lang : Language}
    (h : Language.ofFile suffixes file = .ok lang) : lang ∈ Language.all := by
  simp only [Language.ofFile] at h
  rcases hc : Language.configured? (lower (suffixOf file)) suffixes with _ | v
  · rw [hc] at h
    obtain rfl : Language.bySuffix (lower (suffixOf file)) = lang := by simpa using h
    exact bySuffix_mem _
  rcases hn : Language.named? (lower v.plain) with _ | lang'
  · simp [hc, hn] at h
  · obtain rfl : lang' = lang := by simpa [hc, hn] using h
    exact List.mem_of_find?_eq_some hn

theorem languageIn_hosted {file : String} {tree : FileTree} {lang : Language}
    (h : languageIn file tree = .ok lang) : Hosted lang := by
  rw [languageIn] at h
  obtain ⟨settings, _, h⟩ := except_bind_ok.mp h
  have hmem := ofFile_mem h
  simp only [Language.all, List.mem_cons, List.not_mem_nil, or_false] at hmem
  rcases hmem with rfl | rfl | rfl
  · exact Hosted.python Python.host
  · exact Hosted.ruby Ruby.isProgram
  · exact Hosted.javaScript JavaScript.isProgram

/-- Whatever the grammars accept, evidence only adds acceptances; so a unit read at any location of
any file is complete at the end of a file, and none of its shorter runs of lines is complete by
itself. -/
theorem evidence_monotone_minimal :
    (∀ lang, Hosted lang → EvidenceMonotone lang ∧
      ∀ loc d s, (Source.withPlaced loc (readUnit lang loc) d).1 = .ok s → MinimalUnit lang s) ∧
    ∀ loc name d s, (sourceAt (some loc) name d).1 = .ok s →
      ∃ lang, (Language.find loc.file d).1 = .ok lang ∧ Hosted lang ∧ MinimalUnit lang s := by
  refine ⟨fun lang hl => ⟨hosted_monotone hl, ?_⟩, ?_⟩
  · intro loc d s hs
    rw [reads_outcome (reads_placedUnit lang loc) d] at hs
    obtain ⟨feed, hp, hunit⟩ := except_bind_ok.mp hs
    exact unitFrom_minimal (hosted_monotone hl) (placed_cut hp) hunit
  · intro loc name d s hs
    obtain ⟨lang, feed, hlang, hp, hunit⟩ := sourceAt_ok hs
    have hl := languageIn_hosted hlang
    refine ⟨lang, ?_, hl, unitFrom_minimal (hosted_monotone hl) (placed_cut hp) hunit⟩
    rw [reads_outcome (reads_find loc.file) d, hlang]

/-- A grammar that takes everything for a module, and `d` for the start of a block. The block is
closed by the line behind it and by no line of its own. -/
theorem block_minimal :
    let lang : Language :=
      { Language.python with accepts := Python.Host.accepts ⟨fun _ => true, startsWith ['d']⟩ }
    let t := ['d', '\n', '\t', 'x', '\n', 'y']
    let loc : Location := ⟨"a", 1, by decide⟩
    Hosted lang ∧
      (Source.withPlaced loc (readUnit lang loc) (Desk.ofTree (oneFile t))).1 =
        .ok ['d', '\n', '\t', 'x', '\n'] ∧
      MinimalUnit lang ['d', '\n', '\t', 'x', '\n'] ∧
      ∃ lang, Hosted lang ∧ MinimalUnit lang ['x', '\n'] := by
  intro lang t loc
  have hl : Hosted lang := Hosted.python _
  have hs : (Source.withPlaced loc (readUnit lang loc) (Desk.ofTree (oneFile t))).1 =
      .ok ['d', '\n', '\t', 'x', '\n'] := by
    rw [reads_outcome (reads_placedUnit lang loc) _]
    change (placed loc (oneFile t) >>= unitFrom lang loc) = _
    rw [placed_decodes (decodes_oneFile t) (by decide)]
    rfl
  obtain ⟨hhosted, hsource⟩ := evidence_monotone_minimal
  obtain ⟨lang', _, hl', hmin⟩ := hsource _ _ _ _ sourceAt_statement
  exact ⟨hl, hs, (hhosted lang hl).2 loc _ _ hs, lang', hl', hmin⟩

end Excerpt
