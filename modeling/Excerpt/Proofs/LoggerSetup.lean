import Excerpt.LogSetup
import Excerpt.Proofs.FileSuffix
import Excerpt.Proofs.SettingsRead
import Mathlib.Data.List.Induction

/-! Calls that set up one logger, one after another. Settings and directory may change between them in
any way. The first call whose settings can be read decides for good: it installs all the handlers that
these ask for, or, when their log file cannot be opened, fails and leaves the stream's handler
behind. -/
namespace Excerpt.Logger

/-! ### Levels -/

/-- A level is known by its name, whatever the case of its letters. -/
theorem levelOf_name {name word : String} {level : ℕ} (hname : (name, level) ∈ levels)
    (hword : CaseAlike word name) : levelOf (.str word) = level := by
  -- Upper case does not see whether a letter was small before.
  have hblind (c : Char) : upperLetter c.toLower = upperLetter c := toLower_blind (by decide) c
  have hupper (t : Text) : (foldCase t).map upperLetter = t.map upperLetter := by
    simp [foldCase, hblind]
  have hspelt : word.toList.map upperLetter = name.toList.map upperLetter := by
    rw [← hupper, ← hupper name.toList, show foldCase word.toList = foldCase name.toList from hword]
  have hne : word ≠ "" := by
    intro hempty
    subst hempty
    have hnil : name.toList = [] := by simpa [CaseAlike, foldCase] using hword.symm
    have hnamed : ∀ l ∈ levels, l.1.toList ≠ [] := by decide
    exact hnamed _ hname hnil
  have htruthy : (Json.str word).isTruthy = true := by simpa [Json.isTruthy] using hne
  simp only [levelOf, htruthy, if_true, Json.plain, hspelt]
  simp only [levels, List.mem_cons, Prod.mk.injEq, List.not_mem_nil, or_false] at hname
  rcases hname with ⟨rfl, rfl⟩ | ⟨rfl, rfl⟩ | ⟨rfl, rfl⟩ | ⟨rfl, rfl⟩ | ⟨rfl, rfl⟩ | ⟨rfl, rfl⟩ |
    ⟨rfl, rfl⟩ | ⟨rfl, rfl⟩ <;> decide

theorem levelOf_falsy {v : Json} (h : v.isTruthy = false) : levelOf v = warningLevel := by
  simp only [levelOf, h, Bool.false_eq_true, if_false]
  decide

/-- A text that is no level's name in upper case asks for no other level. -/
theorem levelOf_unknown {v : Json}
    (h : ∀ l ∈ levels, l.1.toList ≠ v.plain.toList.map upperLetter) : levelOf v = warningLevel := by
  by_cases htruthy : v.isTruthy = true
  swap
  · exact levelOf_falsy (by simpa using htruthy)
  have hnone : (levels.find? fun l => l.1 == String.ofList (v.plain.toList.map upperLetter)) = none := by
    rw [List.find?_eq_none]
    intro l hl hbeq
    rw [beq_iff_eq] at hbeq
    apply h l hl
    rw [hbeq, String.toList_ofList]
  simp only [levelOf, htruthy, if_true, hnone]
  rfl

/-! ### One call -/

/-- A log file that can be opened: it is there, or its name is free in a directory. -/
def Opens (tree : FileTree) (setting : Json) : Prop :=
  ∃ path p, setting = .str path ∧ Settings.hasNul (flatPath path) = false ∧
    (tree.locate (flatPath path) = .ok (.free p) ∨
      ∃ b, tree.locate (flatPath path) = .ok (.entry p (.file b)))

/-- The settings ask for a log file that cannot be opened. -/
def Refused (tree : FileTree) (s : Settings) : Prop :=
  s.logFile.isTruthy = true ∧ ¬ Opens tree s.logFile

/-- The handlers that settings ask for. -/
def wanted (s : Settings) : List LogHandler :=
  .stream (levelOf s.logLevel) ::
    if s.logFile.isTruthy then [.file (flatPath s.logFile.plain) debugLevel] else []

theorem openLogFile_outcome (path : String) (d : Desk) :
    (openLogFile path d).1 =
      if Settings.hasNul path then .error .nulInPath
      else
        match d.tree.locate path with
        | .error e => .error (.system e)
        | .ok (.entry _ .dir) | .ok .outside => .error (.system .isDirectory)
        | .ok (.entry _ (.file _)) => .ok ()
        | .ok (.free _) => .ok () := by
  have htree : Op.tree d = (.ok d.tree, d) := rfl
  by_cases hnul : Settings.hasNul path = true
  · simp only [openLogFile, hnul, if_true]
    rfl
  · simp only [openLogFile, hnul, Bool.false_eq_true, if_false]
    rw [op_bind, htree]
    dsimp only
    rcases d.tree.locate path with e | ⟨p, _ | _⟩ | p | _ <;> rfl

theorem openLogFile_ok_iff {path : String} {d : Desk} :
    (openLogFile (flatPath path) d).1 = .ok () ↔ Opens d.tree (.str path) := by
  rw [openLogFile_outcome, Opens]
  constructor
  · intro h
    split_ifs at h with hnul
    have hclean : Settings.hasNul (flatPath path) = false := by simpa using hnul
    rcases hlocate : d.tree.locate (flatPath path) with e | ⟨p, b | _⟩ | p | _ <;>
      simp only [hlocate] at h
    · cases h
    · exact ⟨path, p, rfl, hclean, Or.inr ⟨b, hlocate⟩⟩
    · cases h
    · exact ⟨path, p, rfl, hclean, Or.inl hlocate⟩
    · cases h
  · intro h
    obtain ⟨_, p, hpath, hclean, hlocate⟩ := h
    cases hpath
    rcases hlocate with hfree | ⟨b, hfile⟩
    · simp [hclean, hfree]
    · simp [hclean, hfile]

theorem fileHandler_installed {d : Desk} {s : Settings} (h : ¬ Refused d.tree s) :
    ∃ more, (fileHandler s.logFile d).1 = .ok more ∧
      wanted s = .stream (levelOf s.logLevel) :: more := by
  by_cases htruthy : s.logFile.isTruthy = true
  swap
  · refine ⟨[], ?_, by simp [wanted, htruthy]⟩
    simp only [fileHandler, htruthy]
    rfl
  have hopens : Opens d.tree s.logFile := by
    by_contra hno
    exact h ⟨htruthy, hno⟩
  obtain ⟨path, _, hpath, -⟩ := id hopens
  rw [hpath] at hopens htruthy
  refine ⟨[.file (flatPath path) debugLevel], ?_, by simp [wanted, hpath, htruthy, Json.plain]⟩
  have hfile := openLogFile_ok_iff.mpr hopens
  simp only [hpath, fileHandler, htruthy, Bool.not_true, Bool.false_eq_true, if_false]
  rw [op_bind]
  rcases hrun : openLogFile (flatPath path) d with ⟨e | u, d'⟩
  · rw [hrun] at hfile
    cases hfile
  · rfl

theorem fileHandler_refused {d : Desk} {s : Settings} (h : Refused d.tree s) :
    ∃ e, (fileHandler s.logFile d).1 = .error e := by
  obtain ⟨htruthy, hno⟩ := h
  cases hsetting : s.logFile with
  | str path =>
    rw [hsetting] at htruthy hno
    simp only [fileHandler, htruthy, Bool.not_true, Bool.false_eq_true, if_false]
    rw [op_bind]
    rcases hrun : openLogFile (flatPath path) d with ⟨e | u, d'⟩
    · exact ⟨e, rfl⟩
    · exact absurd (openLogFile_ok_iff.mp (by rw [hrun])) hno
  | _ =>
    -- A setting of any other kind names no path.
    rw [hsetting] at htruthy
    simp only [fileHandler, htruthy, Bool.not_true, Bool.false_eq_true, if_false]
    exact ⟨_, rfl⟩

/-- How a call ends and which handlers it leaves, on a logger that had those of `before`. -/
inductive SetupStep (before : List LogHandler) (tree : FileTree) :
    Except Fault Unit → List LogHandler → Prop
  | kept (h : before ≠ []) : SetupStep before tree (.ok ()) before
  | unread {e : Fault} (bare : before = []) (h : settingsIn tree = .error e) :
      SetupStep before tree (.error e) []
  | stopped {s : Settings} (e : Fault) (bare : before = []) (h : settingsIn tree = .ok s)
      (refused : Refused tree s) : SetupStep before tree (.error e) [.stream (levelOf s.logLevel)]
  | installed {s : Settings} (bare : before = []) (h : settingsIn tree = .ok s)
      (opens : ¬ Refused tree s) : SetupStep before tree (.ok ()) (wanted s)

theorem setup_bare {logger : Logger} (h : logger.handlers = []) (d : Desk) :
    setup logger d =
      match Settings.load Settings.defaultPath d with
      | (.error e, d) => (.error e, { logger with level := debugLevel }, d)
      | (.ok s, d) =>
        let stream := LogHandler.stream (levelOf s.logLevel)
        match fileHandler s.logFile d with
        | (.error e, d) => (.error e, { logger with level := debugLevel, handlers := [stream] }, d)
        | (.ok more, d) =>
          (.ok (), { logger with level := debugLevel, handlers := stream :: more }, d) := by
  simp only [setup, h]
  rfl

/-- These four are all that a call can do. -/
theorem setup_step (logger : Logger) (d : Desk) :
    SetupStep logger.handlers d.tree (setup logger d).1 (setup logger d).2.1.handlers := by
  by_cases hbare : logger.handlers = []
  swap
  · have hsome : logger.handlers.isEmpty = false := by simpa using hbare
    simp only [setup, hsome, Bool.not_false, if_true]
    exact .kept hbare
  -- Loading the settings leaves the directory alone, so the log file is looked for in the same one.
  obtain ⟨hload, htree⟩ := reads_load d
  rw [Except.map_id] at hload
  rw [setup_bare hbare]
  rcases hrun : Settings.load Settings.defaultPath d with ⟨e | s, d'⟩
  · rw [hrun] at hload
    simp only [hbare]
    exact .unread rfl hload.symm
  · rw [hrun] at hload htree
    change d'.tree = d.tree at htree
    by_cases hrefused : Refused d.tree s
    · obtain ⟨e, hfile⟩ := fileHandler_refused (htree ▸ hrefused : Refused d'.tree s)
      rcases hmore : fileHandler s.logFile d' with ⟨e' | more, d''⟩
      · simp only [hmore]
        exact .stopped _ hbare hload.symm hrefused
      · rw [hmore] at hfile
        cases hfile
    · obtain ⟨more, hfile, hwanted⟩ := fileHandler_installed (htree ▸ hrefused : ¬ Refused d'.tree s)
      rcases hmore : fileHandler s.logFile d' with ⟨e' | more', d''⟩
      · rw [hmore] at hfile
        cases hfile
      · rw [hmore] at hfile
        cases hfile
        simp only [hmore, ← hwanted]
        exact .installed hbare hload.symm hrefused

/-! ### Calls in a row -/

/-- The logger after calls in a row, each with its own desk. -/
def run (logger : Logger) (ds : List Desk) : Logger := ds.foldl (fun l d => (setup l d).2.1) logger

theorem run_append (logger : Logger) (ds ds' : List Desk) :
    run logger (ds ++ ds') = run (run logger ds) ds' := List.foldl_append

theorem run_concat (logger : Logger) (ds : List Desk) (d : Desk) :
    run logger (ds ++ [d]) = (setup (run logger ds) d).2.1 := run_append logger ds [d]

/-- After the calls `ds`, the call on the desk `d` returns. -/
def Returns (logger : Logger) (ds : List Desk) (d : Desk) : Prop :=
  (setup (run logger ds) d).1 = .ok ()

/-- It is the first that does. -/
def FirstReturn (logger : Logger) (ds : List Desk) (d : Desk) : Prop :=
  Returns logger ds d ∧ ∀ earlier x, earlier ++ [x] <+: ds → ¬ Returns logger earlier x

/-- One of the calls found no handlers, and a log file that it could not open. -/
def Stopped (logger : Logger) (ds : List Desk) : Prop :=
  ∃ earlier d s, earlier ++ [d] <+: ds ∧ (run logger earlier).handlers = [] ∧
    settingsIn d.tree = .ok s ∧ Refused d.tree s

theorem run_kept {logger : Logger} (h : logger.handlers ≠ []) (ds : List Desk) :
    (run logger ds).handlers = logger.handlers := by
  induction ds using List.reverseRecOn with
  | nil => rfl
  | append_singleton ds d ih =>
    rw [run_concat]
    have hstep := setup_step (run logger ds) d
    generalize (setup (run logger ds) d).1 = r, (setup (run logger ds) d).2.1.handlers = hs at hstep ⊢
    cases hstep with
    | kept => exact ih
    | unread bare | stopped _ bare | installed bare =>
      rw [ih] at bare
      exact absurd bare h

theorem returns_of_handlers {logger : Logger} {ds : List Desk} (h : (run logger ds).handlers ≠ [])
    (d : Desk) : Returns logger ds d := by
  rw [Returns]
  have hstep := setup_step (run logger ds) d
  generalize (setup (run logger ds) d).1 = r, (setup (run logger ds) d).2.1.handlers = hs at hstep ⊢
  cases hstep with
  | kept | installed => rfl
  | unread bare | stopped _ bare => exact absurd bare h

/-- A call that finds settings and no handlers is stopped at its log file or installs them all. -/
theorem run_bare {logger : Logger} {ds : List Desk} {d : Desk} {s : Settings}
    (hbare : (run logger ds).handlers = []) (hs : settingsIn d.tree = .ok s) :
    Refused d.tree s ∧ ¬ Returns logger ds d ∧
        (run logger (ds ++ [d])).handlers = [.stream (levelOf s.logLevel)] ∨
      ¬ Refused d.tree s ∧ Returns logger ds d ∧ (run logger (ds ++ [d])).handlers = wanted s := by
  rw [Returns, run_concat]
  have hstep := setup_step (run logger ds) d
  generalize (setup (run logger ds) d).1 = r, (setup (run logger ds) d).2.1.handlers = hs at hstep ⊢
  cases hstep with
  | kept h => exact absurd hbare h
  | unread _ h =>
    rw [hs] at h
    cases h
  | stopped e _ h refused =>
    rw [hs] at h
    cases h
    exact Or.inl ⟨refused, by simp, rfl⟩
  | installed _ h opens =>
    rw [hs] at h
    cases h
    exact Or.inr ⟨opens, rfl, rfl⟩

/-- A call that is stopped at its log file fails, and the stream's handler stays for good. -/
theorem run_stopped {logger : Logger} {ds : List Desk} {d : Desk} {s : Settings}
    (hbare : (run logger ds).handlers = []) (hs : settingsIn d.tree = .ok s)
    (hrefused : Refused d.tree s) (later : List Desk) :
    ¬ Returns logger ds d ∧
      (run logger (ds ++ d :: later)).handlers = [.stream (levelOf s.logLevel)] := by
  rcases run_bare hbare hs with ⟨-, hraises, hleft⟩ | ⟨hopens, -⟩
  swap
  · exact absurd hrefused hopens
  refine ⟨hraises, ?_⟩
  have hsome : (run logger (ds ++ [d])).handlers ≠ [] := by simp [hleft]
  calc (run logger (ds ++ d :: later)).handlers
    _ = (run (run logger (ds ++ [d])) later).handlers := by
      rw [← run_append, List.append_assoc, List.singleton_append]
    _ = (run logger (ds ++ [d])).handlers := run_kept hsome later
    _ = [.stream (levelOf s.logLevel)] := hleft

section
variable {logger : Logger} {ds : List Desk} {d : Desk}

theorem stopped_mono (h : Stopped logger ds) (ds' : List Desk) : Stopped logger (ds ++ ds') := by
  obtain ⟨earlier, d, s, hprefix, hrest⟩ := h
  exact ⟨earlier, d, s, hprefix.trans (List.prefix_append ds ds'), hrest⟩

/-- A call that was not stopped changes nothing, or installs what its settings ask for. -/
theorem run_step (h : ¬ Stopped logger (ds ++ [d])) :
    (run logger (ds ++ [d])).handlers = (run logger ds).handlers ∧
      (Returns logger ds d → (run logger ds).handlers ≠ []) ∨
    ∃ s, (run logger ds).handlers = [] ∧ Returns logger ds d ∧ settingsIn d.tree = .ok s ∧
      (run logger (ds ++ [d])).handlers = wanted s := by
  have hstep := setup_step (run logger ds) d
  rw [Returns, run_concat]
  generalize (setup (run logger ds) d).1 = r, (setup (run logger ds) d).2.1.handlers = hs at hstep ⊢
  cases hstep with
  | kept hsome => exact Or.inl ⟨rfl, fun _ => hsome⟩
  | unread bare => exact Or.inl ⟨bare.symm, by simp⟩
  | stopped _ bare hs refused => exact absurd ⟨ds, d, _, List.prefix_refl _, bare, hs, refused⟩ h
  | installed bare hs => exact Or.inr ⟨_, bare, rfl, hs, rfl⟩

/-- Either no call has returned and there is no handler, or the first that returned has installed all
of them. -/
theorem run_settled (hbare : logger.handlers = []) (h : ¬ Stopped logger ds) :
    ((run logger ds).handlers = [] ∧ ∀ earlier x, earlier ++ [x] <+: ds → ¬ Returns logger earlier x) ∨
    ∃ earlier d later s, ds = earlier ++ d :: later ∧ FirstReturn logger earlier d ∧
      settingsIn d.tree = .ok s ∧ (run logger ds).handlers = wanted s := by
  -- From behind: the last call is made on the logger that the others left.
  induction ds using List.reverseRecOn with
  | nil => exact Or.inl ⟨hbare, by simp⟩
  | append_singleton ds d ih =>
    have hbefore := ih fun hstopped => h (stopped_mono hstopped [d])
    rcases run_step h with ⟨hsame, hreturns⟩ | ⟨s, hnone, hreturns, hs, hall⟩
    · rw [hsame]
      rcases hbefore with ⟨hnone, hraised⟩ | ⟨earlier, x, later, s, hsplit, hfirst⟩
      · left
        refine ⟨hnone, ?_⟩
        intro earlier x hprefix
        rcases List.prefix_concat_iff.mp hprefix with hlast | hprefix
        · obtain ⟨rfl, hx⟩ := List.append_inj' hlast rfl
          obtain rfl : x = d := by simpa using hx
          intro hreturned
          exact hreturns hreturned hnone
        · exact hraised earlier x hprefix
      · exact Or.inr ⟨earlier, x, later ++ [d], s, by simp [hsplit], hfirst⟩
    · -- The logger was bare until now, so this is the first call that returns.
      rcases hbefore with ⟨-, hraised⟩ | ⟨_, _, _, s', _, _, _, hinstalled⟩
      · exact Or.inr ⟨ds, d, [], s, rfl, ⟨hreturns, hraised⟩, hs, hall⟩
      · rw [hinstalled] at hnone
        cases hnone

end

def loggedFields : List (String × Json) := [("log_file", .str "logs/x.log"), ("log_level", .str "info")]

/-- Settings that name a log file, and more entries beside them. -/
def loggedTree (more : List (Path × Entry)) : FileTree :=
  ⟨(Settings.settingsFile (Json.obj loggedFields).text).entries ++ more⟩

theorem settingsIn_logged (more : List (Path × Entry)) :
    settingsIn (loggedTree more) = .ok (Settings.ofFields loggedFields).1 := by
  have hexact : (Json.obj loggedFields).Exact := by
    refine .obj (by decide) ?_
    simp only [loggedFields, List.forall_mem_cons]
    exact ⟨.str _, .str _, by simp⟩
  have hentry : Settings.entryIn (loggedTree more) =
      some (.file (utf8Bytes (Json.obj loggedFields).text)) := rfl
  apply Settings.settingsIn_object
  exact ⟨_, hentry, Settings.isObject_utf8Bytes.mpr (Json.read_text hexact rfl)⟩

theorem wanted_logged : wanted (Settings.ofFields loggedFields).1 =
    [.stream 20, .file "logs/x.log" debugLevel] := by
  decide

theorem flatPath_logged : flatPath "logs/x.log" = "logs/x.log" := by decide

theorem refused_logged : Refused (loggedTree []) (Settings.ofFields loggedFields).1 := by
  have hlocate : (loggedTree []).locate "logs/x.log" = .error .notFound := rfl
  refine ⟨rfl, ?_⟩
  intro h
  obtain ⟨path, p, hpath, -, hopens⟩ := h
  cases hpath
  rw [flatPath_logged, hlocate] at hopens
  simp at hopens

theorem opens_logged :
    ¬ Refused (loggedTree [(["logs"], .dir)]) (Settings.ofFields loggedFields).1 := by
  have hlocate : (loggedTree [(["logs"], .dir)]).locate "logs/x.log" = .ok (.free ["logs", "x.log"]) :=
    rfl
  intro hrefused
  apply hrefused.2
  refine ⟨"logs/x.log", ["logs", "x.log"], rfl, by rw [flatPath_logged]; decide, Or.inl ?_⟩
  rw [flatPath_logged, hlocate]

end Excerpt.Logger
