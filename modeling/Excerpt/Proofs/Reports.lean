import Excerpt.Proofs.BeyondEnd
import Excerpt.Proofs.FaultAgreement
import Excerpt.Proofs.SelfClosing
import Excerpt.Proofs.SettingsRead

/-! The journal tells how an extraction ended. Every number of lines that was refused leaves a record,
in order, the one that was accepted leaves another, and the only warning there can be is the last record
of an extraction that met the end of the file too early. -/
namespace Excerpt

/-- What the first `count` refusals leave. -/
def refusals (loc : Location) (count : ℕ) : List Record :=
  (List.range count).map fun i => .incomplete loc (i + 1)

theorem refusals_succ (loc : Location) (n : ℕ) :
    refusals loc (n + 1) = refusals loc n ++ [.incomplete loc (n + 1)] := by
  rw [refusals, List.range_succ, List.map_append]
  rfl

/-- The result of reading a unit from a feed, with the records that tell it: of the least number of
lines accepted, if the line behind them could be read; of the text accepted at the end of the file; of
a file that ends without a unit; of a line that cannot be decoded. -/
inductive Told (lang : Language) (loc : Location) (f : Feed) : Except Fault Text → List Record → Prop
  | complete {k : ℕ} (least : IsLeast (lang.accepted f.lines) k)
      (seen : k < f.lines.length ∨ f.ending = .done) :
      Told lang loc f (.ok (f.lines.take k).flatten) (refusals loc (k - 1) ++ [.complete loc k])
  | completeAtEnd (none : lang.accepted f.lines = ∅) (done : f.ending = .done)
      (yes : lang.isComplete f.lines.flatten .atEnd = true) :
      Told lang loc f (.ok f.lines.flatten)
        (refusals loc f.lines.length ++ [.completeAtEnd loc f.lines.length])
  | ended (none : lang.accepted f.lines = ∅) (done : f.ending = .done)
      (no : lang.isComplete f.lines.flatten .atEnd = false) :
      Told lang loc f (.error (.endOfInput loc.file loc.line f.lines.length))
        (refusals loc f.lines.length ++ [.noUnit loc lang.name])
  | stuck {fault : DecodeFault} {rest : Piece} (stuck : f.ending = .stuck fault rest)
      (before : ∀ k ∈ lang.accepted f.lines, f.lines.length ≤ k) :
      Told lang loc f (.error (readFault loc.file fault)) (refusals loc (f.lines.length - 1))

/-! ### Gathering -/

/-- What was gathered, with other records in front of its own. -/
def Gathering.behind {σ : Type} (rs : List Record) (g : Gathering σ) : Gathering σ :=
  { g with records := rs ++ g.records }

theorem noting_behind {σ : Type} (rs : List Record) (r : Record) (g : Gathering σ) :
    (g.noting r).behind rs = g.behind (rs ++ [r]) := by
  simp [Gathering.behind, Gathering.noting]

section
variable {lang : Language} (loc : Location) {ls pre rest : List Text} {line : Text} {ending : Ending}

/-- A refusal with a line behind it leaves its record, and that line is gathered next. -/
theorem gatherLine_refused {upcoming : Text}
    (hno : lang.takes (pre ++ line :: upcoming :: rest) (pre.length + 1) = false) :
    gatherLine (Judge.ofLanguage lang) loc ⟨⟩ pre.flatten pre.length ending line (upcoming :: rest) =
      (gatherLine (Judge.ofLanguage lang) loc ⟨⟩ (pre ++ [line]).flatten (pre ++ [line]).length ending
        upcoming rest).noting (.incomplete loc (pre.length + 1)) := by
  rw [takes_step, List.headD_cons] at hno
  rw [gatherLine, decide_ofLanguage, hno]
  simp

/-- As long as every number of lines is refused, gathering goes from line to line, and each refusal
leaves its record. -/
theorem gather_refused
    (hno : ∀ i, 0 < i → i ≤ pre.length → lang.takes (pre ++ line :: rest) i = false) :
    gather (Judge.ofLanguage lang) loc ⟨⟩ ⟨pre ++ line :: rest, ending⟩ =
      (gatherLine (Judge.ofLanguage lang) loc ⟨⟩ pre.flatten pre.length ending line rest).behind
        (refusals loc pre.length) := by
  -- On the lines refused so far, the last one first: the step moves one line behind them.
  induction pre using List.reverseRecOn generalizing line rest with
  | nil => rfl
  | append_singleton pre last ih =>
    have hls : pre ++ [last] ++ line :: rest = pre ++ last :: line :: rest := by simp
    have hlen : (pre ++ [last]).length = pre.length + 1 := by simp
    rw [hls, hlen] at hno
    have hlast := hno (pre.length + 1) (Nat.succ_pos _) (Nat.le_refl _)
    rw [hls, ih fun i hi hle => hno i hi (by omega), gatherLine_refused loc hlast, noting_behind,
      ← refusals_succ, hlen]

/-- Once every number of lines has been refused, only the question at the end of the file is left. -/
theorem gather_settled (hno : ∀ i, 0 < i → i ≤ ls.length → lang.takes ls i = false) :
    gather (Judge.ofLanguage lang) loc ⟨⟩ ⟨ls, .done⟩ =
      (settle (Judge.ofLanguage lang) loc ⟨⟩ ls.flatten ls.length ⟨[], .done⟩).behind
        (refusals loc ls.length) := by
  rcases List.eq_nil_or_concat' ls with rfl | ⟨pre, line, rfl⟩
  · rfl
  · have hlen : (pre ++ [line]).length = pre.length + 1 := by simp
    have hflat : (pre ++ [line]).flatten = pre.flatten ++ line := by simp
    rw [hlen] at hno
    have hlast := hno (pre.length + 1) (Nat.succ_pos _) (Nat.le_refl _)
    rw [takes_step, List.headD_nil] at hlast
    rw [gather_refused loc fun i hi hle => hno i hi (by omega), hlen, hflat, refusals_succ,
      ← noting_behind, gatherLine, decide_ofLanguage, hlast]
    rfl

/-- Where a line and what is behind it have been read, an accepted text ends the gathering. -/
theorem gatherLine_accepted (hyes : lang.takes (pre ++ line :: rest) (pre.length + 1) = true)
    (hseen : rest ≠ [] ∨ ending = .done) :
    let g := gatherLine (Judge.ofLanguage lang) loc ⟨⟩ pre.flatten pre.length ending line rest
    g.result = .unit (pre.flatten ++ line) ∧ g.records = [.complete loc (pre.length + 1)] := by
  rw [takes_step] at hyes
  cases rest with
  | nil =>
    obtain rfl : ending = .done := hseen.resolve_left (by simp)
    rw [List.headD_nil] at hyes
    simp [gatherLine, decide_ofLanguage, hyes]
  | cons upcoming rest =>
    rw [List.headD_cons] at hyes
    simp [gatherLine, decide_ofLanguage, hyes]

end

/-! ### What is told -/

theorem exists_split {ls : List Text} {n : ℕ} (hn : n < ls.length) :
    ∃ pre line rest, ls = pre ++ line :: rest ∧ pre.length = n :=
  ⟨ls.take n, ls[n], ls.drop (n + 1), by simp, by simp; omega⟩

/-- Below a lower bound of the numbers accepted every number of lines is refused. -/
theorem refused_below {lang : Language} {ls : List Text} {k : ℕ}
    (hk : ∀ i ∈ lang.accepted ls, k ≤ i) {i : ℕ} (hpos : 0 < i) (hle : i ≤ ls.length) (hlt : i < k) :
    lang.takes ls i = false := by
  by_contra hyes
  have hmem : i ∈ lang.accepted ls := ⟨hpos, hle, by simpa using hyes⟩
  have hge := hk i hmem
  omega

section
variable {lang : Language} {loc : Location} {f : Feed} {r : Except Fault Text} {rs : List Record}

/-- What can be told of a feed is what gathering from it gives. -/
theorem told_gather (h : Told lang loc f r rs) :
    (gather (Judge.ofLanguage lang) loc ⟨⟩ f).result.outcome loc = r ∧
      (gather (Judge.ofLanguage lang) loc ⟨⟩ f).records = rs := by
  rcases f with ⟨ls, ending⟩
  cases h with
  | @complete k least seen =>
    dsimp only at least seen ⊢
    obtain ⟨⟨hpos, hle, hyes⟩, hleast⟩ := least
    -- Less than the least number is refused, so gathering gets to the line that completes it.
    have hfirst : k - 1 < ls.length := by omega
    obtain ⟨pre, line, rest, rfl, hlen⟩ := exists_split hfirst
    obtain rfl : k = pre.length + 1 := by omega
    have hseen : rest ≠ [] ∨ ending = .done := by
      refine seen.imp_left fun hlt => ?_
      rintro rfl
      simp at hlt
    have hrefused := @gather_refused lang loc pre rest line ending fun i hi hle' =>
      refused_below hleast hi (by omega) (by omega)
    obtain ⟨hresult, hrecords⟩ := gatherLine_accepted loc hyes hseen
    rw [hrefused, take_gathered]
    simp [Gathering.behind, hresult, hrecords, Gathered.outcome]
  | completeAtEnd none done yes =>
    obtain rfl : ending = .done := done
    rw [gather_settled loc (accepted_eq_empty.mp none), settle_eq, if_pos yes]
    exact ⟨rfl, rfl⟩
  | ended none done no =>
    obtain rfl : ending = .done := done
    rw [gather_settled loc (accepted_eq_empty.mp none), settle_eq, if_neg (by simpa using no)]
    exact ⟨rfl, rfl⟩
  | @stuck fault rest stuck before =>
    obtain rfl : ending = .stuck fault rest := stuck
    rcases List.eq_nil_or_concat' ls with rfl | ⟨pre, line, rfl⟩
    · exact ⟨rfl, rfl⟩
    · -- What is behind the last line cannot be read, so nobody is asked about that line.
      have hlen : (pre ++ [line]).length = pre.length + 1 := by simp
      dsimp only at before ⊢
      rw [gather_refused loc fun i hi hle => refused_below before hi (by omega) (by omega), hlen]
      simp [Gathering.behind, gatherLine, Gathered.outcome]

/-- Of every feed something can be told. -/
theorem exists_told (lang : Language) (loc : Location) (f : Feed) : ∃ r rs, Told lang loc f r rs := by
  have hrun := gather_reading lang loc f
  generalize (gather (Judge.ofLanguage lang) loc ⟨⟩ f).result = g at hrun
  generalize (gather (Judge.ofLanguage lang) loc ⟨⟩ f).feed = left at hrun
  cases hrun with
  | accepted pos le seen before yes => exact ⟨_, _, .complete (accepted_least pos le before yes) seen⟩
  | acceptedAtEnd done _ before yes =>
    exact ⟨_, _, .completeAtEnd (accepted_eq_empty.mpr before) done yes⟩
  | ended done before no => exact ⟨_, _, .ended (accepted_eq_empty.mpr before) done no⟩
  | stuck stuck before =>
    refine ⟨_, _, .stuck stuck fun k hk => ?_⟩
    obtain ⟨hpos, -, hyes⟩ := hk
    by_contra hlt
    rw [before k hpos (by omega)] at hyes
    cases hyes

theorem told_iff : Told lang loc f r rs ↔
    (gather (Judge.ofLanguage lang) loc ⟨⟩ f).result.outcome loc = r ∧
      (gather (Judge.ofLanguage lang) loc ⟨⟩ f).records = rs := by
  refine ⟨told_gather, ?_⟩
  rintro ⟨rfl, rfl⟩
  obtain ⟨r', rs', h⟩ := exists_told lang loc f
  obtain ⟨hr, hrs⟩ := told_gather h
  rwa [hr, hrs]

end

/-! ### Warnings -/

/-- The result is the fault of a file that ended too early. -/
def EndsEarly {α : Type} (r : Except Fault α) : Prop :=
  ∃ file line count, r = .error (.endOfInput file line count)

/-- No record is a warning. -/
def Quiet (rs : List Record) : Prop := ∀ w ∈ rs, w.severity ≠ .warning

/-- There is a warning just when the file ended too early, and then it is the last record and the only
warning. -/
structure Warned {α : Type} (r : Except Fault α) (rs : List Record) : Prop where
  iff : (∃ w ∈ rs, w.severity = .warning) ↔ EndsEarly r
  last : Quiet rs.dropLast

/-- What the operation adds to the journal is warned as `Warned` says. -/
def Tells {α : Type} (op : Op α) (d : Desk) : Prop :=
  ∃ rs, (op d).2.journal = d.journal ++ rs ∧ Warned (op d).1 rs

theorem quiet_refusals (loc : Location) (n : ℕ) : Quiet (refusals loc n) := by
  intro w hw
  obtain ⟨i, -, rfl⟩ := List.mem_map.mp hw
  simp [Record.incomplete]

theorem quiet_append {rs rs' : List Record} (h : Quiet rs) (h' : Quiet rs') : Quiet (rs ++ rs') :=
  List.forall_mem_append.mpr ⟨h, h'⟩

theorem quiet_singleton {w : Record} (h : w.severity = .debug) : Quiet [w] := by
  simp [Quiet, h]

section
variable {α β : Type} {r : Except Fault α} {rs rs' : List Record}

theorem not_early_ok (a : α) : ¬ EndsEarly (.ok a : Except Fault α) := by
  simp [EndsEarly]

theorem early_error (e : Fault) :
    EndsEarly (.error e : Except Fault α) ↔ EndsEarly (.error e : Except Fault β) := by
  simp [EndsEarly]

/-- A fault is warned of whatever the operation would have returned. -/
theorem warned_error {e : Fault} (h : Warned (.error e : Except Fault α) rs) :
    Warned (.error e : Except Fault β) rs :=
  ⟨h.iff.trans (early_error e), h.last⟩

theorem warned_quiet (hr : ¬ EndsEarly r) (h : Quiet rs) : Warned r rs := by
  refine ⟨iff_of_false ?_ hr, fun w hw => h w (List.dropLast_subset rs hw)⟩
  rintro ⟨w, hw, hwarning⟩
  exact h w hw hwarning

theorem warned_last {w : Record} (hr : EndsEarly r) (h : Quiet rs) (hw : w.severity = .warning) :
    Warned r (rs ++ [w]) := by
  refine ⟨iff_of_true ⟨w, by simp, hw⟩ hr, ?_⟩
  rwa [List.dropLast_concat]

/-- Records without a warning in front change nothing. -/
theorem warned_append (h : Quiet rs) (h' : Warned r rs') : Warned r (rs ++ rs') := by
  constructor
  · rw [← h'.iff]
    constructor
    · rintro ⟨w, hw, hwarning⟩
      rcases List.mem_append.mp hw with hw | hw
      · exact absurd hwarning (h w hw)
      · exact ⟨w, hw, hwarning⟩
    · rintro ⟨w, hw, hwarning⟩
      exact ⟨w, List.mem_append_right rs hw, hwarning⟩
  · by_cases hnil : rs' = []
    · rw [hnil, List.append_nil]
      exact fun w hw => h w (List.dropLast_subset rs hw)
    · rw [List.dropLast_append_of_ne_nil hnil]
      exact quiet_append h h'.last

theorem Warned.quiet (h : Warned r rs) (hr : ¬ EndsEarly r) : Quiet rs := by
  intro w hw hwarning
  exact hr (h.iff.mp ⟨w, hw, hwarning⟩)

theorem not_early_readFault (file : String) (f : DecodeFault) :
    ¬ EndsEarly (.error (readFault file f) : Except Fault α) := by
  rw [readFault]
  split_ifs <;> simp [EndsEarly]

theorem told_warned {lang : Language} {loc : Location} {f : Feed} {r : Except Fault Text}
    (h : Told lang loc f r rs) : Warned r rs := by
  cases h with
  | complete _ _ =>
    exact warned_quiet (not_early_ok _) (quiet_append (quiet_refusals loc _) (quiet_singleton rfl))
  | completeAtEnd _ _ _ =>
    exact warned_quiet (not_early_ok _) (quiet_append (quiet_refusals loc _) (quiet_singleton rfl))
  | ended _ _ _ => exact warned_last ⟨_, _, _, rfl⟩ (quiet_refusals loc _) rfl
  | stuck _ _ => exact warned_quiet (not_early_readFault _ _) (quiet_refusals loc _)

/-! ### Operations -/

theorem tells_quiet {op : Op α} {d : Desk} (hr : ¬ EndsEarly (op d).1)
    (h : (op d).2.journal = d.journal) : Tells op d :=
  ⟨[], by rw [h, List.append_nil], warned_quiet hr (by simp [Quiet])⟩

theorem tells_bind {x : Op α} {f : α → Op β} {d : Desk} (hx : Tells x d)
    (hf : ∀ a d', x d = (.ok a, d') → Tells (f a) d') : Tells (x >>= f) d := by
  obtain ⟨rs, hjournal, hwarned⟩ := hx
  rw [Tells, op_bind]
  rcases hrun : x d with ⟨e | a, d'⟩
  · rw [hrun] at hjournal hwarned
    exact ⟨rs, hjournal, warned_error hwarned⟩
  · rw [hrun] at hjournal hwarned
    obtain ⟨rs', hjournal', hwarned'⟩ := hf a d' hrun
    -- What the first operation left holds no warning, since it did not fail.
    refine ⟨rs ++ rs', ?_, warned_append (hwarned.quiet (not_early_ok a)) hwarned'⟩
    rw [hjournal', hjournal, List.append_assoc]

theorem ofExcept_eq (x : Except Fault α) (d : Desk) : Op.ofExcept x d = (x, d) := by
  rcases x with e | a <;> rfl

theorem tells_ofExcept {x : Except Fault α} (h : ¬ EndsEarly x) (d : Desk) :
    Tells (Op.ofExcept x) d := by
  apply tells_quiet <;> rw [ofExcept_eq]
  exact h

theorem tells_closing {body : Op α} {d : Desk} (h : Handle) (hbody : Tells body d) :
    Tells (Op.closing body (Source.close h)) d := by
  obtain ⟨rs, hjournal, hwarned⟩ := hbody
  rw [Tells, Op.closing]
  rcases hrun : body d with ⟨r, d'⟩
  rw [hrun] at hjournal hwarned
  exact ⟨rs, hjournal, hwarned⟩

end

theorem tells_note {r : Record} (hr : r.severity = .debug) (d : Desk) : Tells (Op.note r) d :=
  ⟨[r], rfl, warned_quiet (not_early_ok ()) (quiet_singleton hr)⟩

/-! ### Opening a file and going to a line -/

theorem not_early_misfit {encoding : Json} {e : Fault} (h : encodingMisfit encoding = some e) :
    ¬ EndsEarly (.error e : Except Fault Handle) := by
  cases encoding with
  | null => cases h
  | str name =>
    rw [encodingMisfit] at h
    split_ifs at h
    cases h
    simp [EndsEarly]
  | _ =>
    cases h
    simp [EndsEarly]

theorem not_early_charset {encoding : Json} {e : Fault} (h : charsetOf encoding = .error e) :
    ¬ EndsEarly (.error e : Except Fault Handle) := by
  cases encoding with
  | null => cases h
  | str name =>
    rw [charsetOf] at h
    split_ifs at h
    · cases h
      simp [EndsEarly]
    · split at h
      · cases h
      · cases h
        simp [EndsEarly]
  | _ =>
    cases h
    simp [EndsEarly]

/-- Opening a file leaves one record if it succeeds, and never a warning. -/
theorem openText_told (file : String) (encoding : Json) (d : Desk) :
    ∃ rs, (Source.openText file encoding d).2.journal = d.journal ++ rs ∧ Quiet rs ∧
      ¬ EndsEarly (Source.openText file encoding d).1 ∧
      ∀ h, (Source.openText file encoding d).1 = .ok h → rs = [.opened file] := by
  rw [openText_eq]
  rcases hmisfit : encodingMisfit encoding with _ | e
  swap
  · exact ⟨[], by simp, by simp [Quiet], not_early_misfit hmisfit, by simp⟩
  dsimp only
  split_ifs
  · exact ⟨[], by simp, by simp [Quiet], by simp [EndsEarly], by simp⟩
  rcases d.tree.readFile file with e | bytes
  · exact ⟨[.openFailed file e], rfl, quiet_singleton rfl, by simp [EndsEarly], by simp⟩
  rcases hcharset : charsetOf encoding with e | cs
  · exact ⟨[], by simp, by simp [Quiet], not_early_charset hcharset, by simp⟩
  · exact ⟨[.opened file], rfl, quiet_singleton rfl, not_early_ok _, fun _ _ => rfl⟩

theorem tells_approach (h : Handle) (loc : Location) (d : Desk) :
    Tells (Source.approach h loc) d := by
  rw [Tells, Source.approach]
  rcases linesAbove (loc.line - 1) 0 h.feed with ⟨above, feed | read | f⟩
  · exact tells_quiet (not_early_ok _) rfl
  · have hshort : Warned (α := List Text × Handle) (.error (.endOfInput loc.file loc.line read))
        ([] ++ [.fileTooShort loc read]) := warned_last ⟨_, _, _, rfl⟩ (by simp [Quiet]) rfl
    exact ⟨_, rfl, hshort⟩
  · exact tells_quiet (not_early_readFault _ _) rfl

theorem approach_desk {h h' : Handle} {loc : Location} {d d' : Desk} {above : List Text}
    (hrun : Source.approach h loc d = (.ok (above, h'), d')) : d' = d := by
  revert hrun
  rw [Source.approach]
  rcases linesAbove (loc.line - 1) 0 h.feed with ⟨above, feed | read | f⟩
  all_goals
    intro hrun
    cases hrun
  rfl

/-- The settings file is not there, or it holds an object whose suffixes, if it has any, are an object
as well. -/
def Settings.WellFormed (tree : FileTree) : Prop :=
  entryIn tree = none ∨ ∃ fields, FileObject tree fields ∧
    ∀ v, Json.field? "suffixes" fields = some v → ∃ l, v = .obj l

/-- Loading such settings leaves no trace. -/
theorem load_quiet {d : Desk} (h : Settings.WellFormed d.tree) :
    ∃ s, settingsIn d.tree = .ok s ∧ Settings.load Settings.defaultPath d = (.ok s, d) := by
  have hload := Settings.loaded d
  rw [← reads_outcome reads_load d]
  generalize Settings.load Settings.defaultPath d = x at hload ⊢
  cases hload with
  | missing _ => exact ⟨{}, rfl, rfl⟩
  | @object fields hobject =>
    have hnone : (Settings.ofFields fields).2 = [] := by
      rcases h with hentry | ⟨fields', hobject', hsuffixes⟩
      · obtain ⟨b, hfile, -⟩ := hobject
        cases hentry.symm.trans hfile
      · rw [Settings.fileObject_unique hobject hobject'] at hsuffixes
        rw [Settings.ofFields]
        split
        · rfl
        · rfl
        · next v hno hv =>
          obtain ⟨l, rfl⟩ := hsuffixes v hv
          exact absurd rfl (hno l)
    refine ⟨_, rfl, ?_⟩
    rw [hnone, List.append_nil]
  | broken _ hentry hno _ =>
    rcases h with hnone | ⟨fields, hobject, -⟩
    · exact absurd hnone hentry
    · exact absurd hobject (hno fields)
  | deep hdeep =>
    rcases h with hnone | ⟨fields, hobject, -⟩
    · obtain ⟨b, hfile, -⟩ := hdeep
      cases hnone.symm.trans hfile
    · exact absurd hdeep (Settings.not_fileDeep hobject)

section
variable {d : Desk} (hsettings : Settings.WellFormed d.tree)
include hsettings

/-- A handle that is placed leaves the one record of a file that was opened. -/
theorem openAt_told (loc : Location) :
    ∃ rs, (Source.openAt loc d).2.journal = d.journal ++ rs ∧ Warned (Source.openAt loc d).1 rs ∧
      ∀ h, (Source.openAt loc d).1 = .ok h → rs = [.opened loc.file] := by
  obtain ⟨s, -, hload⟩ := load_quiet hsettings
  obtain ⟨rs, hjournal, hquiet, hearly, hrs⟩ := openText_told loc.file s.encoding d
  rw [Source.openAt, op_bind, hload]
  dsimp only
  rw [op_bind]
  generalize Source.openText loc.file s.encoding d = out at hjournal hearly hrs ⊢
  rcases out with ⟨e | h, d₁⟩
  · exact ⟨rs, hjournal, warned_quiet hearly hquiet, by simp⟩
  · obtain rfl := hrs h rfl
    obtain ⟨rs', hjournal', hwarned⟩ := tells_approach h loc d₁
    dsimp only at hjournal ⊢
    rcases hrun : Source.approach h loc d₁ with ⟨e | ⟨above, h'⟩, d₂⟩
    · -- The handle is closed then, and that leaves no record.
      rw [hrun, hjournal, List.append_assoc] at hjournal'
      rw [hrun] at hwarned
      refine ⟨_, hjournal', warned_append hquiet (warned_error hwarned), ?_⟩
      intro h' hok
      cases hok
    · obtain rfl := approach_desk hrun
      exact ⟨_, hjournal, warned_quiet (not_early_ok h') hquiet, fun _ _ => rfl⟩

theorem find_quiet (file : String) :
    ∃ s, Language.find file d = (Language.ofFile (Settings.suffixes s) file, d) := by
  obtain ⟨s, -, hload⟩ := load_quiet hsettings
  refine ⟨s, ?_⟩
  rw [Language.find, op_bind, hload]
  exact ofExcept_eq _ d

end

/-! ### Extraction -/

theorem readUnit_eq (lang : Language) (loc : Location) (h : Handle) (d : Desk) :
    readUnit lang loc h d =
      ((gather (Judge.ofLanguage lang) loc ⟨⟩ h.feed).result.outcome loc,
        { d with journal :=
            d.journal ++ (gather (Judge.ofLanguage lang) loc ⟨⟩ h.feed).records }) := by
  rw [readUnit, op_bind, Settings.notes_eq]
  exact ofExcept_eq _ _

theorem tells_readUnit (lang : Language) (loc : Location) (h : Handle) (d : Desk) :
    Tells (readUnit lang loc h) d := by
  rw [Tells, readUnit_eq]
  exact ⟨_, rfl, told_warned (told_iff.mpr ⟨rfl, rfl⟩)⟩

theorem not_early_language {suffixes : List (String × Json)} {file : String} :
    ¬ EndsEarly (Language.ofFile suffixes file) := by
  rw [Language.ofFile]
  split
  · exact not_early_ok _
  · split
    · exact not_early_ok _
    · simp [EndsEarly]

theorem not_early_location (v : Json) : ¬ EndsEarly (Location.ofJson v) := by
  have htwo (items : List Json) : ¬ EndsEarly (twoParts.two items) := by
    rw [twoParts.two.eq_def]
    split <;> simp [EndsEarly]
  have hparts (v : Json) : ¬ EndsEarly (twoParts v) := by
    cases v with
    | arr items => exact htwo _
    | str s => exact htwo _
    | obj fields => exact htwo _
    | _ => simp [twoParts, EndsEarly]
  have hcheck (file : String) (line : Json) : ¬ EndsEarly (Located.check file line) := by
    cases line with
    | int n =>
      rw [Located.check]
      split_ifs <;> simp [EndsEarly]
    | _ => simp [Located.check, EndsEarly]
  unfold Location.ofJson
  split
  · exact not_early_ok _
  · rintro ⟨file, line, count, h⟩
    rcases except_bind_error.mp h with h | ⟨parts, -, h⟩
    · exact hparts _ ⟨_, _, _, h⟩
    · rcases except_bind_error.mp h with h | ⟨loc, -, h⟩
      · exact hcheck _ _ ⟨_, _, _, h⟩
      · cases h

theorem tells_collectComment (dialect : Dialect) (encoding : Json) (loc : Location) (d : Desk) :
    Tells (collectComment dialect encoding loc) d := by
  obtain ⟨rs, hjournal, hquiet, hearly, -⟩ := openText_told loc.file encoding d
  refine tells_bind ⟨rs, hjournal, warned_quiet hearly hquiet⟩ fun h d₁ _ => ?_
  have hread : Tells (readComment dialect loc h) d₁ :=
    tells_bind (tells_approach h loc d₁) fun p _ _ => tells_quiet (not_early_ok _) rfl
  refine tells_bind (tells_closing h hread) fun comment d₂ _ => ?_
  have hnote := @tells_note (.commentLines loc (displayLines comment).length) rfl d₂
  exact tells_bind hnote fun _ _ _ => tells_quiet (not_early_ok _) rfl

section
variable {d : Desk} (hsettings : Settings.WellFormed d.tree)
include hsettings

theorem tells_sourceAt (loc : Option Location) (name : Option String) :
    Tells (sourceAt loc name) d := by
  cases loc with
  | none =>
    have hfault : ¬ EndsEarly (.error (.noLocation name) : Except Fault Text) := by simp [EndsEarly]
    exact tells_quiet hfault rfl
  | some loc =>
    obtain ⟨s, hfind⟩ := find_quiet hsettings loc.file
    have hlang : Tells (Language.find loc.file) d := by
      apply tells_quiet <;> rw [hfind]
      exact not_early_language
    refine tells_bind hlang fun lang d' hrun => ?_
    obtain rfl : d = d' := congrArg Prod.snd (hfind.symm.trans hrun)
    obtain ⟨rs, hjournal, hwarned, -⟩ := openAt_told hsettings loc
    exact tells_bind ⟨rs, hjournal, hwarned⟩ fun h d₁ _ =>
      tells_closing h (tells_readUnit lang loc h d₁)

theorem tells_commentAt (loc : Option Location) : Tells (commentAt loc) d := by
  cases loc with
  | none => exact tells_quiet (not_early_ok _) rfl
  | some loc =>
    obtain ⟨s, -, hload⟩ := load_quiet hsettings
    have hquiet : Tells (Settings.load Settings.defaultPath) d := by
      apply tells_quiet <;> rw [hload]
      exact not_early_ok s
    refine tells_bind hquiet fun s d₁ _ => ?_
    exact tells_bind (tells_ofExcept not_early_language d₁) fun lang d₂ _ =>
      tells_collectComment _ _ loc d₂

/-- With a handle in its place, the answer and the records are those of gathering. -/
theorem sourceAt_journal {loc : Location} {lang : Language} {h : Handle} (name : Option String)
    (hlang : (Language.find loc.file d).1 = .ok lang) (hopen : (Source.openAt loc d).1 = .ok h) :
    (sourceAt (some loc) name d).1 =
        (gather (Judge.ofLanguage lang) loc ⟨⟩ h.feed).result.outcome loc ∧
      (sourceAt (some loc) name d).2.journal = d.journal ++
        .opened loc.file :: (gather (Judge.ofLanguage lang) loc ⟨⟩ h.feed).records := by
  obtain ⟨s, hfind⟩ := find_quiet hsettings loc.file
  obtain ⟨rs, hjournal, -, hrs⟩ := openAt_told hsettings loc
  obtain rfl := hrs h hopen
  rw [hfind] at hlang
  dsimp only at hlang
  rw [sourceAt, op_bind, hfind, hlang]
  dsimp only
  rw [Source.withPlaced, op_bind]
  rcases hrun : Source.openAt loc d with ⟨e | h', d₁⟩
  · rw [hrun] at hopen
    cases hopen
  · rw [hrun] at hopen hjournal
    cases hopen
    dsimp only at hjournal ⊢
    rw [Op.closing, readUnit_eq, hjournal, List.append_assoc]
    exact ⟨rfl, rfl⟩

end

/-- The journal tells the outcome. Of the records that looking for a source or for a comment leaves,
just the last one is a warning if the file ended too early, and none otherwise. What the search for a
source leaves behind the record of the opened file are its refusals, one for each number of lines in
order, and then the number of lines that was accepted, by itself or at the end of the file; and every
source that is found was told of in this way. -/
theorem journal_tells_outcome {d : Desk} (hsettings : Settings.WellFormed d.tree) (v : Json)
    (name : Option String) :
    Tells (extractSource v name) d ∧ Tells (extractComment v) d ∧
    (∀ s, (extractSource v name d).1 = .ok s → ∃ loc lang h, Location.ofJson v = .ok (some loc) ∧
      (Language.find loc.file d).1 = .ok lang ∧ (Source.openAt loc d).1 = .ok h) ∧
    ∀ loc lang h, Location.ofJson v = .ok (some loc) → (Language.find loc.file d).1 = .ok lang →
      (Source.openAt loc d).1 = .ok h → ∀ r rs,
        Told lang loc h.feed r rs ↔ (extractSource v name d).1 = r ∧
          (extractSource v name d).2.journal = d.journal ++ .opened loc.file :: rs := by
  have hlocation {f : Option Location → Op Text} (hf : ∀ loc, Tells (f loc) d) :
      Tells (do f (← Op.ofExcept (Location.ofJson v))) d := by
    refine tells_bind (tells_ofExcept (not_early_location v) d) fun loc d' hrun => ?_
    rw [ofExcept_eq] at hrun
    obtain rfl : d = d' := congrArg Prod.snd hrun
    exact hf loc
  refine ⟨?_, ?_, ?_, ?_⟩
  · exact hlocation fun loc => tells_sourceAt hsettings loc name
  · exact hlocation (tells_commentAt hsettings)
  · intro s hs
    rw [extractSource, extract_outcome (f := (sourceAt · name))] at hs
    obtain ⟨_ | loc, hloc, hs⟩ := except_bind_ok.mp hs
    · cases hs
    · obtain ⟨lang, feed, hlang, hplaced, -⟩ := sourceAt_ok hs
      have hopen := (reads_openAt loc d).1
      rw [hplaced] at hopen
      rcases hrun : (Source.openAt loc d).1 with e | h
      · rw [hrun] at hopen
        cases hopen
      · exact ⟨loc, lang, h, hloc, (reads_outcome (reads_find loc.file) d).trans hlang, hrun⟩
  · intro loc lang h hloc hlang hopen r rs
    have hsame : extractSource v name d = sourceAt (some loc) name d := by
      rw [extractSource, op_bind, hloc]
      rfl
    obtain ⟨hresult, hrecords⟩ := sourceAt_journal hsettings name hlang hopen
    rw [told_iff, hsame, hresult, hrecords]
    simp

/-- The first of these lines is no unit, and the first two together are one for Ruby. -/
theorem method_told (loc : Location) :
    Told .ruby loc ⟨lines "def f\nend\ny".toList, .done⟩ (.ok "def f\nend\n".toList)
      [.incomplete loc 1, .complete loc 2] := by
  have hself : SelfClosing .ruby := SelfClosing.ruby Ruby.isProgram
  have hone : ((lines "def f\nend\ny".toList).take 1).flatten = "def f\n".toList := by decide
  have htwo : ((lines "def f\nend\ny".toList).take 2).flatten = "def f\nend\n".toList := by decide
  have hleast : IsLeast (Language.ruby.accepted (lines "def f\nend\ny".toList)) 2 := by
    rw [accepted_blind hself]
    refine ⟨⟨by decide, by decide, ?_⟩, ?_⟩
    · beta_reduce
      rw [htwo, ruby_def_whole]
    · rintro k ⟨hpos, _, hyes⟩
      by_contra hlt
      obtain rfl : k = 1 := by omega
      beta_reduce at hyes
      rw [hone, ruby_def_open] at hyes
      cases hyes
  rw [← htwo]
  exact Told.complete hleast (Or.inl (by decide))

/-- A block that only the end of the file closes. -/
theorem block_told (loc : Location) :
    Told .python loc ⟨lines "if x:\n  y\n".toList, .done⟩ (.ok (lines "if x:\n  y\n".toList).flatten)
      [.incomplete loc 1, .incomplete loc 2, .completeAtEnd loc 2] := by
  have hnone : Language.python.accepted (lines "if x:\n  y\n".toList) = ∅ := by
    rw [accepted_eq_empty]
    intro i hpos hle
    have hlen : (lines "if x:\n  y\n".toList).length = 2 := by decide
    obtain rfl | rfl : i = 1 ∨ i = 2 := by omega
    · decide +kernel
    · decide +kernel
  exact Told.completeAtEnd hnone rfl (by decide +kernel)

/-- A Ruby method is read up to its end, and a Python block up to the end of its file; each refusal is
in the journal. Far below the method, looking for a comment ends with a warning. -/
theorem method_and_block_journal :
    let d := Desk.ofTree (rubyFile "x\ndef f\nend\ny".toList)
    let d' := Desk.ofTree (oneFile "if x:\n  y\n".toList)
    let second : Location := ⟨"a.rb", 2, by decide⟩
    let first : Location := ⟨"a", 1, by decide⟩
    Settings.WellFormed d.tree ∧ Settings.WellFormed d'.tree ∧
      (extractSource (.arr [.str "a.rb", .int 2]) none d).2.journal =
        [.opened "a.rb", .incomplete second 1, .complete second 2] ∧
      (extractSource (.arr [.str "a", .int 1]) none d').2.journal =
        [.opened "a", .incomplete first 1, .incomplete first 2, .completeAtEnd first 2] ∧
      ∃ w ∈ (extractComment (.arr [.str "a.rb", .int 9]) d).2.journal, w.severity = .warning := by
  intro d d' second first
  have hsettings : Settings.WellFormed d.tree := Or.inl rfl
  have hsettings' : Settings.WellFormed d'.tree := Or.inl rfl
  have hdecodes : Decodes d.tree second.file "x\ndef f\nend\ny".toList := decodes_rubyFile _
  have hdecodes' : Decodes d'.tree first.file "if x:\n  y\n".toList := decodes_oneFile _
  have hfind : (Language.find second.file d).1 = .ok .ruby := find_rubyFile _
  refine ⟨hsettings, hsettings', ?_, ?_, ?_⟩
  · obtain ⟨-, -, -, htold⟩ := journal_tells_outcome hsettings (.arr [.str "a.rb", .int 2]) none
    have hline : second.line ≤ (lines "x\ndef f\nend\ny".toList).length + 1 := by decide
    obtain ⟨h, _, hopen, hfeed, -⟩ :=
      readUnit_placed (d := d) .ruby hdecodes hline
    have hsource := method_told second
    have hlines : linesFrom "x\ndef f\nend\ny".toList second.line = lines "def f\nend\ny".toList := by
      decide
    rw [← hlines, ← hfeed] at hsource
    exact ((htold second .ruby h rfl hfind (congrArg Prod.fst hopen) _ _).mp hsource).2
  · obtain ⟨-, -, -, htold⟩ := journal_tells_outcome hsettings' (.arr [.str "a", .int 1]) none
    have hline : first.line ≤ (lines "if x:\n  y\n".toList).length + 1 := by decide
    obtain ⟨h, _, hopen, hfeed, -⟩ :=
      readUnit_placed (d := d') .python hdecodes' hline
    have hsource := block_told first
    have hlines : linesFrom "if x:\n  y\n".toList first.line = lines "if x:\n  y\n".toList := rfl
    rw [← hlines, ← hfeed] at hsource
    exact ((htold first .python h rfl (find_oneFile _) (congrArg Prod.fst hopen) _ _).mp hsource).2
  · obtain ⟨-, ⟨rs, hjournal, hwarned⟩, -⟩ :=
      journal_tells_outcome hsettings (.arr [.str "a.rb", .int 9]) none
    have hcomment : EndsEarly (extractComment (.arr [.str "a.rb", .int 9]) d).1 := by
      have hloc : Location.ofJson (.arr [.str "a.rb", .int 9]) =
          .ok (some ⟨"a.rb", 9, by decide⟩) := rfl
      have hbeyond := @commentAt_beyond d ⟨"a.rb", 9, by decide⟩ _ _ hdecodes hfind (by decide)
      rw [if_neg (by decide)] at hbeyond
      rw [extractComment, extract_outcome]
      exact ⟨_, _, _, except_bind_error.mpr (Or.inr ⟨_, hloc, hbeyond⟩)⟩
    rw [hjournal]
    exact hwarned.iff.mpr hcomment

end Excerpt
