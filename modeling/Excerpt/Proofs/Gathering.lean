import Excerpt.Proofs.Outcome
import Mathlib.Order.Bounds.Basic

/-! A unit is the least number of lines that the language accepts. The reader stays one line ahead of
what it has gathered, and asks once more when the file ends. -/
namespace Excerpt

/-- Does the language accept the first `k` lines, seeing the line behind them? Behind the last line
of a file it sees an empty one. -/
def Language.takes (lang : Language) (ls : List Text) (k : ℕ) : Bool :=
  lang.isComplete (ls.take k).flatten (.ahead (ls.getD k []))

/-- The numbers of lines that the language accepts. -/
def Language.accepted (lang : Language) (ls : List Text) : Set ℕ :=
  {k | 0 < k ∧ k ≤ ls.length ∧ lang.takes ls k = true}

/-- The ways in which gathering from `ls` can end, each with the feed that it leaves. -/
inductive Reading (lang : Language) (ls : List Text) (ending : Ending) : Gathered → Feed → Prop
  | accepted {k : ℕ} (pos : 0 < k) (le : k ≤ ls.length)
      (seen : k < ls.length ∨ ending = .done)
      (before : ∀ i, 0 < i → i < k → lang.takes ls i = false) (yes : lang.takes ls k = true) :
      Reading lang ls ending (.unit (ls.take k).flatten) ⟨ls.drop (k + 1), ending⟩
  | acceptedAtEnd (done : ending = .done) (nonempty : ls ≠ [])
      (before : ∀ i, 0 < i → i ≤ ls.length → lang.takes ls i = false)
      (yes : lang.isComplete ls.flatten .atEnd = true) :
      Reading lang ls ending (.unit ls.flatten) ⟨[], .done⟩
  | ended (done : ending = .done)
      (before : ∀ i, 0 < i → i ≤ ls.length → lang.takes ls i = false)
      (no : lang.isComplete ls.flatten .atEnd = false) :
      Reading lang ls ending (.ended ls.length) ⟨[], .done⟩
  | stuck {f : DecodeFault} {rest : Piece} (stuck : ending = .stuck f rest)
      (before : ∀ i, 0 < i → i < ls.length → lang.takes ls i = false) :
      Reading lang ls ending (.stuck f) (Feed.pastStuck f rest)

theorem isComplete_nil (lang : Language) (e : Evidence) : lang.isComplete [] e = false := rfl

theorem decide_ofLanguage (lang : Language) (code : Text) (e : Evidence) :
    (Judge.ofLanguage lang).decide ⟨⟩ code e = (lang.isComplete code e, ⟨⟩) := by
  unfold Judge.decide Language.isComplete
  change (if lang.isQuiet code = true then _ else _) = _
  split_ifs <;> rfl

section
variable {σ : Type} (r : Record) (g : Gathering σ)

@[simp] theorem noting_result : (g.noting r).result = g.result := rfl

@[simp] theorem noting_feed : (g.noting r).feed = g.feed := rfl

end

section
variable (lang : Language) (loc : Location)

/-- The last question, at the end of the file. No text at all is refused without asking, which is
what the language would answer. -/
theorem settle_eq (code : Text) (count : ℕ) (feed : Feed) :
    settle (Judge.ofLanguage lang) loc ⟨⟩ code count feed =
      if lang.isComplete code .atEnd then ⟨.unit code, [.completeAtEnd loc count], feed, ⟨⟩⟩
      else ⟨.ended count, [.noUnit loc lang.name], feed, ⟨⟩⟩ := by
  have hask : (if code.isEmpty then (false, ⟨⟩)
      else (Judge.ofLanguage lang).decide ⟨⟩ code .atEnd) = (lang.isComplete code .atEnd, ⟨⟩) := by
    rw [decide_ofLanguage]
    split_ifs with he
    · rw [List.isEmpty_iff.mp he, isComplete_nil]
    · rfl
  rw [settle, hask]
  rfl

theorem settle_ofLanguage (code : Text) (count : ℕ) (feed : Feed) :
    (settle (Judge.ofLanguage lang) loc ⟨⟩ code count feed).result =
        (if lang.isComplete code .atEnd then .unit code else .ended count) ∧
      (settle (Judge.ofLanguage lang) loc ⟨⟩ code count feed).feed = feed := by
  rw [settle_eq]
  split_ifs <;> exact ⟨rfl, rfl⟩

theorem take_gathered (pre rest : List Text) (line : Text) :
    ((pre ++ line :: rest).take (pre.length + 1)).flatten = pre.flatten ++ line := by
  rw [List.append_cons, List.take_left' (by simp)]
  simp

theorem getD_gathered (pre rest : List Text) (line : Text) :
    (pre ++ line :: rest).getD (pre.length + 1) [] = rest.headD [] := by
  cases rest <;> simp [List.getD_eq_getElem?_getD]

/-- One step: the lines gathered so far with one more, and the line behind that. -/
theorem takes_step (pre rest : List Text) (line : Text) :
    lang.takes (pre ++ line :: rest) (pre.length + 1) =
      lang.isComplete (pre.flatten ++ line) (.ahead (rest.headD [])) := by
  rw [Language.takes, take_gathered, getD_gathered]

/-- A refusal at this step extends the refusals so far by one line. -/
theorem refused_succ {ls : List Text} {n : ℕ} (hno : ∀ i, 0 < i → i ≤ n → lang.takes ls i = false)
    (hr : lang.takes ls (n + 1) = false) (i : ℕ) (hi : 0 < i) (hle : i ≤ n + 1) :
    lang.takes ls i = false := by
  rcases Nat.lt_or_ge n i with hlt | hge
  · rwa [show i = n + 1 by omega]
  · exact hno i hi hge

/-- If the lines gathered so far were refused, each time with what followed them, the rest of the run
ends in one of the ways that `Reading` lists. -/
theorem gatherLine_reading {ls : List Text} (ending : Ending) (pre rest : List Text) (line : Text)
    (hls : ls = pre ++ line :: rest)
    (hno : ∀ i, 0 < i → i ≤ pre.length → lang.takes ls i = false) :
    Reading lang ls ending
      (gatherLine (Judge.ofLanguage lang) loc ⟨⟩ pre.flatten pre.length ending line rest).result
      (gatherLine (Judge.ofLanguage lang) loc ⟨⟩ pre.flatten pre.length ending line rest).feed := by
  -- On the lines not yet read: each step moves `line` to the refused ones, `ls` staying the same.
  induction rest generalizing pre line with
  | nil =>
    have hlen : ls.length = pre.length + 1 := by simp [hls]
    have hflat : ls.flatten = pre.flatten ++ line := by simp [hls]
    have hstep : lang.takes ls (pre.length + 1) =
        lang.isComplete (pre.flatten ++ line) (.ahead []) := hls ▸ takes_step lang pre [] line
    cases ending with
    | stuck f rest => exact Reading.stuck rfl fun i hi hlt => hno i hi (by omega)
    | done =>
      simp only [gatherLine, decide_ofLanguage]
      split_ifs with hy
      · have h : Reading lang ls .done (.unit (ls.take (pre.length + 1)).flatten) _ :=
          Reading.accepted (Nat.succ_pos _) hlen.ge (Or.inr rfl)
            (fun i hi hlt => hno i hi (by omega)) (hstep.trans hy)
        rwa [← hlen, List.take_length, hflat, List.drop_of_length_le (Nat.le_succ _)] at h
      · have hall := refused_succ lang hno (hstep.trans (Bool.eq_false_iff.mpr hy))
        rw [← hlen] at hall ⊢
        rw [← hflat, noting_result, noting_feed]
        obtain ⟨hresult, hfeed⟩ := settle_ofLanguage lang loc ls.flatten ls.length ⟨[], .done⟩
        rw [hresult, hfeed]
        split_ifs with hend
        · exact Reading.acceptedAtEnd rfl (by rintro rfl; simp at hlen) hall hend
        · exact Reading.ended rfl hall (Bool.eq_false_iff.mpr hend)
  | cons upcoming rest ih =>
    have hlen : pre.length + 1 < ls.length := by simp [hls]
    have hdrop : ls.drop (pre.length + 1 + 1) = rest := by
      have hsplit : ls = (pre ++ [line, upcoming]) ++ rest := by simp [hls]
      rw [hsplit, List.drop_left' (by simp)]
    have hstep : lang.takes ls (pre.length + 1) =
        lang.isComplete (pre.flatten ++ line) (.ahead upcoming) :=
      hls ▸ takes_step lang pre (upcoming :: rest) line
    simp only [gatherLine, decide_ofLanguage]
    split_ifs with hy
    · have h : Reading lang ls ending (.unit (ls.take (pre.length + 1)).flatten) _ :=
        Reading.accepted (Nat.succ_pos _) hlen.le (Or.inl hlen)
          (fun i hi hlt => hno i hi (by omega)) (hstep.trans hy)
      have htake : (ls.take (pre.length + 1)).flatten = pre.flatten ++ line :=
        hls ▸ take_gathered pre (upcoming :: rest) line
      rwa [htake, hdrop] at h
    · have hlen' : (pre ++ [line]).length = pre.length + 1 := by simp
      have hflat : (pre ++ [line]).flatten = pre.flatten ++ line := by simp
      have hno' := refused_succ lang hno (hstep.trans (Bool.eq_false_iff.mpr hy))
      rw [noting_result, noting_feed, ← hlen', ← hflat]
      exact ih (pre ++ [line]) upcoming (by simp [hls]) (by rwa [hlen'])

/-- Gathering from any feed ends in one of the ways that `Reading` lists. -/
theorem gather_reading (feed : Feed) :
    Reading lang feed.lines feed.ending (gather (Judge.ofLanguage lang) loc ⟨⟩ feed).result
      (gather (Judge.ofLanguage lang) loc ⟨⟩ feed).feed := by
  rcases feed with ⟨_ | ⟨line, rest⟩, ending⟩
  · cases ending with
    | done =>
      obtain ⟨hresult, hfeed⟩ := settle_ofLanguage lang loc [] 0 ⟨[], .done⟩
      rw [gather, hresult, hfeed, isComplete_nil]
      exact Reading.ended rfl (fun i hi hle => by simp at hle; omega) rfl
    | stuck f rest => exact Reading.stuck rfl fun i hi hlt => by simp at hlt
  · exact gatherLine_reading lang loc ending [] rest line rfl fun i hi hle => by simp at hle; omega

end

section
variable {lang : Language} {ls : List Text} {ending : Ending} {g : Gathered} {feed : Feed}

theorem accepted_least {k : ℕ} (pos : 0 < k) (le : k ≤ ls.length)
    (before : ∀ i, 0 < i → i < k → lang.takes ls i = false) (yes : lang.takes ls k = true) :
    IsLeast (lang.accepted ls) k := by
  refine ⟨⟨pos, le, yes⟩, ?_⟩
  rintro i ⟨hi, _, hi'⟩
  by_contra hlt
  rw [before i hi (by omega)] at hi'
  cases hi'

theorem accepted_eq_empty : lang.accepted ls = ∅ ↔
    ∀ i, 0 < i → i ≤ ls.length → lang.takes ls i = false := by
  rw [Set.eq_empty_iff_forall_notMem]
  apply forall_congr'
  intro i
  simp [Language.accepted]

/-- Where a number of lines is accepted, reading stops at the least one, with one line more read if
there is one. -/
theorem reading_least (h : Reading lang ls .done g feed) (hsome : (lang.accepted ls).Nonempty) :
    ∃ k, IsLeast (lang.accepted ls) k ∧ g = .unit (ls.take k).flatten ∧
      feed = ⟨ls.drop (min (k + 1) ls.length), .done⟩ := by
  -- An accepted number of lines rules out every way to end that refused them all.
  have hnever {p : Prop} (hno : ∀ i, 0 < i → i ≤ ls.length → lang.takes ls i = false) : p :=
    absurd (accepted_eq_empty.mpr hno) hsome.ne_empty
  cases h with
  | @accepted k pos le seen before yes =>
    refine ⟨k, accepted_least pos le before yes, rfl, ?_⟩
    rcases Nat.lt_or_ge k ls.length with hlt | hge
    · rw [Nat.min_eq_left hlt]
    · rw [Nat.min_eq_right (by omega), List.drop_of_length_le (by omega), List.drop_length]
  | acceptedAtEnd _ _ before _ => exact hnever before
  | ended _ before _ => exact hnever before
  | stuck stuck _ => cases stuck

/-- Where no number of lines is accepted, the answer at the end of the file decides. -/
theorem reading_none (h : Reading lang ls .done g feed) (hno : lang.accepted ls = ∅) :
    (ls ≠ [] ∧ lang.isComplete ls.flatten .atEnd = true ∧ g = .unit ls.flatten) ∨
      (lang.isComplete ls.flatten .atEnd = false ∧ g = .ended ls.length) := by
  cases h with
  | @accepted j pos le _ _ yes =>
    have hj : j ∈ lang.accepted ls := ⟨pos, le, yes⟩
    rw [hno] at hj
    exact hj.elim
  | acceptedAtEnd _ nonempty _ yes => exact Or.inl ⟨nonempty, yes, rfl⟩
  | ended _ _ no => exact Or.inr ⟨no, rfl⟩
  | stuck stuck _ => cases stuck

end

/-- A unit that has been read is a number of lines of its feed, and every smaller number was refused
with what followed. -/
theorem unitFrom_ok {lang : Language} {loc : Location} {feed : Feed} {s : Text}
    (h : unitFrom lang loc feed = .ok s) :
    ∃ k, 0 < k ∧ k ≤ feed.lines.length ∧ s = (feed.lines.take k).flatten ∧
      (∀ i, 0 < i → i < k → lang.takes feed.lines i = false) ∧
      (lang.takes feed.lines k = true ∨ lang.isComplete s .atEnd = true) := by
  have hrun := gather_reading lang loc feed
  rw [unitFrom] at h
  generalize (gather (Judge.ofLanguage lang) loc ⟨⟩ feed).result = g at h hrun
  generalize (gather (Judge.ofLanguage lang) loc ⟨⟩ feed).feed = left at hrun
  cases hrun with
  | @accepted k pos le _ before yes =>
    obtain rfl : (feed.lines.take k).flatten = s := by simpa [Gathered.outcome] using h
    exact ⟨k, pos, le, rfl, before, Or.inl yes⟩
  | acceptedAtEnd _ nonempty before yes =>
    obtain rfl : feed.lines.flatten = s := by simpa [Gathered.outcome] using h
    refine ⟨feed.lines.length, List.length_pos_iff.mpr nonempty, le_rfl, ?_, ?_, Or.inr yes⟩
    · rw [List.take_length]
    · exact fun i hi hlt => before i hi hlt.le
  | ended _ _ _ => cases h
  | stuck _ _ => cases h

/-- In a file that decodes, opening at a line and reading there always gives the same answer as
gathering from the lines that are left. -/
theorem readUnit_placed {d : Desk} {loc : Location} {t : Text} (lang : Language)
    (ht : Decodes d.tree loc.file t) (hn : loc.line ≤ (lines t).length + 1) :
    ∃ h d', Source.openAt loc d = (.ok h, d') ∧ h.feed = ⟨linesFrom t loc.line, .done⟩ ∧
      (readUnit lang loc h d').1 = unitFrom lang loc h.feed ∧
      (Source.withPlaced loc (readUnit lang loc) d).1 = unitFrom lang loc h.feed := by
  have hplaced := placed_decodes ht hn
  have hopen := (reads_openAt loc d).1
  rw [hplaced] at hopen
  rcases hd : Source.openAt loc d with ⟨e | h, d'⟩
  · rw [hd] at hopen
    cases hopen
  · rw [hd] at hopen
    have hfeed : h.feed = ⟨linesFrom t loc.line, .done⟩ := by simpa [Except.map] using hopen
    refine ⟨h, d', rfl, hfeed, reads_outcome (reads_readUnit lang loc h) d', ?_⟩
    rw [reads_outcome (reads_placedUnit lang loc) d, hplaced, hfeed]
    rfl

/-- In a file that decodes, the unit at a line is made of the least number of lines that the language
accepts there; else it is all the rest of the file, if the language accepts that at the end; else the
file has ended too early. -/
theorem unit_least_accepted {d : Desk} {loc : Location} {t : Text} (lang : Language)
    (ht : Decodes d.tree loc.file t) (hn : loc.line ≤ (lines t).length + 1) :
    ∃ h d', Source.openAt loc d = (.ok h, d') ∧
      (Source.withPlaced loc (readUnit lang loc) d).1 = (readUnit lang loc h d').1 ∧
      ((lang.accepted (linesFrom t loc.line)).Nonempty →
        ∃ k, IsLeast (lang.accepted (linesFrom t loc.line)) k ∧
          (readUnit lang loc h d').1 = .ok ((linesFrom t loc.line).take k).flatten ∧
          (gather (Judge.ofLanguage lang) loc ⟨⟩ h.feed).feed =
            ⟨(linesFrom t loc.line).drop (min (k + 1) ((lines t).length + 1 - loc.line)), .done⟩) ∧
      (lang.accepted (linesFrom t loc.line) = ∅ → loc.line ≤ (lines t).length →
        lang.isComplete (linesFrom t loc.line).flatten .atEnd = true →
        (readUnit lang loc h d').1 = .ok (linesFrom t loc.line).flatten) ∧
      (lang.accepted (linesFrom t loc.line) = ∅ →
        ¬ (loc.line ≤ (lines t).length ∧
          lang.isComplete (linesFrom t loc.line).flatten .atEnd = true) →
        (readUnit lang loc h d').1 =
          .error (.endOfInput loc.file loc.line ((lines t).length + 1 - loc.line))) := by
  obtain ⟨h, d', hopen, hfeed, hread, hplaced⟩ := readUnit_placed lang ht hn
  have hlen : (linesFrom t loc.line).length = (lines t).length + 1 - loc.line := by
    have hpos := loc.line_pos
    rw [linesFrom, List.length_drop]
    omega
  have hrun := gather_reading lang loc h.feed
  rw [hfeed] at hrun
  refine ⟨h, d', hopen, hplaced.trans hread.symm, ?_, ?_, ?_⟩
  · intro hsome
    obtain ⟨k, hk, hunit, hleft⟩ := reading_least hrun hsome
    refine ⟨k, hk, ?_, ?_⟩
    · rw [hread, unitFrom, hfeed, hunit]
      rfl
    · rw [hfeed, hleft, hlen]
  · intro hnone _ hend
    rcases reading_none hrun hnone with ⟨_, _, hunit⟩ | ⟨hno, _⟩
    · rw [hread, unitFrom, hfeed, hunit]
      rfl
    · rw [hend] at hno
      cases hno
  · intro hnone hno
    rcases reading_none hrun hnone with ⟨hne, hend, _⟩ | ⟨_, hended⟩
    · have hpos : 0 < (linesFrom t loc.line).length := List.length_pos_iff.mpr hne
      exact absurd ⟨by omega, hend⟩ hno
    · rw [hread, unitFrom, hfeed, hended, hlen]
      rfl

/-- A language whose units are the texts with as many closing braces as opening ones. -/
def braces : Language where
  name := "braces"
  commentMark := ['#']
  suffixes := [".b"]
  accepts code _ := code.count '{' == code.count '}'

/-- From the second line on, one line is refused, two are accepted, and the third is only looked
at. -/
theorem braces_least_accepted :
    let t := ['x', '\r', '\n', '{', '\n', '}', '\r', '#']
    let loc : Location := ⟨"a", 2, by decide⟩
    Decodes (oneFile t) "a" t ∧ loc.line ≤ (lines t).length + 1 ∧
      ∃ h d', Source.openAt loc (Desk.ofTree (oneFile t)) = (.ok h, d') ∧
        (readUnit braces loc h d').1 = .ok ['{', '\n', '}', '\r'] ∧
        (gather (Judge.ofLanguage braces) loc ⟨⟩ h.feed).feed = ⟨[], .done⟩ := by
  intro t loc
  have hdecodes := decodes_oneFile t
  have hline : loc.line ≤ (lines t).length + 1 := by decide
  have hleast : IsLeast (braces.accepted (linesFrom t loc.line)) 2 := by
    refine ⟨⟨by decide, by decide, by decide⟩, ?_⟩
    rintro i ⟨hi, _, hi'⟩
    by_contra hlt
    obtain rfl : i = 1 := by omega
    exact absurd hi' (by decide)
  obtain ⟨h, d', hopen, _, hsome, _⟩ :=
    @unit_least_accepted (Desk.ofTree (oneFile t)) loc t braces hdecodes hline
  obtain ⟨k, hk, hread, hleft⟩ := hsome ⟨2, hleast.1⟩
  obtain rfl : k = 2 := hk.unique hleast
  exact ⟨hdecodes, hline, h, d', hopen, hread, hleft⟩

theorem python_statement_complete :
    Language.python.isComplete ['x', '\n'] (.ahead ['y']) = true := by
  decide +kernel

/-- A line in the middle of a file that is a statement by itself. -/
theorem sourceAt_statement :
    (sourceAt (some ⟨"a", 2, by decide⟩) none
      (Desk.ofTree (oneFile ['é', '\r', '\n', 'x', '\n', 'y']))).1 = .ok ['x', '\n'] := by
  apply sourceAt_oneFile none rfl (by decide)
  change (gatherLine (Judge.ofLanguage .python) _ ⟨⟩ [] 0 .done ['x', '\n'] [['y']]).result.outcome _
    = _
  simp only [gatherLine, decide_ofLanguage, List.nil_append, python_statement_complete, if_true]
  rfl

end Excerpt
