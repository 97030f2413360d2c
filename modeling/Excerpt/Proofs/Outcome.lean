import Excerpt.Extract
import Excerpt.Proofs.Feed

/-! What an extraction answers depends on the directory alone, not on the handles that are open or
on the journal, and the directory stays as it is. Each operation is given its answer as a plain
function of the directory. -/
namespace Excerpt

/-- The outcome of an operation, seen through `view`, is `r` of the directory, which it leaves as
it is. -/
def Reads {α β : Type} (view : α → β) (op : Op α) (r : FileTree → Except Fault β) : Prop :=
  ∀ d, (op d).1.map view = r d.tree ∧ (op d).2.tree = d.tree

section
variable {α β γ δ : Type}

theorem reads_outcome {op : Op α} {r : FileTree → Except Fault α} (h : Reads id op r) (d : Desk) :
    (op d).1 = r d.tree := by
  have hd := (h d).1
  rwa [Except.map_id] at hd

/-- Steps in a row have a result just when each of them has. -/
theorem except_bind_ok {x : Except Fault α} {f : α → Except Fault β} {b : β} :
    x >>= f = .ok b ↔ ∃ a, x = .ok a ∧ f a = .ok b := by
  rcases x with e | a
  · constructor
    · intro h
      cases h
    · rintro ⟨a, ha, _⟩
      cases ha
  · constructor
    · exact fun h => ⟨a, rfl, h⟩
    · rintro ⟨a', ha, h⟩
      cases ha
      exact h

theorem reads_pure (view : α → β) (a : α) :
    Reads view (pure a) fun _ => .ok (view a) := fun _ => ⟨rfl, rfl⟩

theorem reads_throw (view : α → β) (e : Fault) :
    Reads view (throw e) fun _ => .error e := fun _ => ⟨rfl, rfl⟩

theorem op_bind (x : Op α) (f : α → Op β) (d : Desk) :
    (x >>= f) d =
      match x d with
      | (.ok a, d') => f a d'
      | (.error e, d') => (.error e, d') := by
  change (ExceptT.bind x f) d = _
  simp only [ExceptT.bind, ExceptT.mk, ExceptT.bindCont, bind, StateT.bind]
  rcases x d with ⟨e | a, d'⟩ <;> rfl

theorem reads_bind {view : α → γ} {view' : β → δ} {x : Op α} {f : α → Op β}
    {r : FileTree → Except Fault γ} (r' : γ → FileTree → Except Fault δ)
    (hx : Reads view x r) (hf : ∀ a, Reads view' (f a) (r' (view a))) :
    Reads view' (x >>= f) fun tree => r tree >>= fun c => r' c tree := by
  intro d
  obtain ⟨h1, h2⟩ := hx d
  rw [op_bind]
  beta_reduce
  rcases hd : x d with ⟨e | a, d'⟩
  · rw [hd] at h1 h2
    rw [← h1]
    exact ⟨rfl, h2⟩
  · -- The second operation starts on another desk, but with the same directory.
    rw [hd] at h1 h2
    obtain ⟨h3, h4⟩ := hf a d'
    rw [← h1]
    refine ⟨?_, h4.trans h2⟩
    rw [h3]
    exact congrArg (r' (view a)) h2

theorem reads_ofExcept (x : Except Fault α) : Reads id (Op.ofExcept x) fun _ => x := by
  rcases x with e | a
  · exact reads_throw id e
  · exact reads_pure id a

theorem reads_note (r : Record) : Reads id (Op.note r) fun _ => .ok () := fun _ => ⟨rfl, rfl⟩

theorem reads_notes (rs : List Record) : Reads id (rs.forM Op.note) fun _ => .ok () := by
  induction rs with
  | nil => exact reads_pure id ()
  | cons r rs ih =>
    exact reads_bind (fun _ _ => .ok ()) (reads_note r) fun _ => ih

/-- Closing a handle afterwards changes no outcome. -/
theorem reads_closing {view : α → β} {body : Op α} {r : FileTree → Except Fault β} (h : Handle)
    (hb : Reads view body r) : Reads view (Op.closing body (Source.close h)) r := by
  intro d
  obtain ⟨h1, h2⟩ := hb d
  rw [Op.closing]
  rcases hd : body d with ⟨x, d'⟩
  rw [hd] at h1 h2
  exact ⟨h1, h2⟩

end

/-! ### Opening a file -/

/-- The settings in force in a directory. -/
def settingsIn (tree : FileTree) : Except Fault Settings :=
  (Settings.find tree Settings.defaultPath).map Prod.fst

theorem reads_loadAt (path : String) :
    Reads id (Settings.load path) fun tree => (Settings.find tree path).map Prod.fst := by
  have hpair (p : Settings × List Record) :
      Reads id (do p.2.forM Op.note; pure p.1 : Op Settings) fun _ => .ok p.1 :=
    reads_bind (fun _ _ => .ok p.1) (reads_notes p.2) fun _ => reads_pure id p.1
  intro d
  have h := reads_bind (fun p _ => .ok p.1) (reads_ofExcept (Settings.find d.tree path)) hpair d
  refine ⟨h.1.trans ?_, h.2⟩
  beta_reduce
  rcases Settings.find d.tree path with e | p <;> rfl

theorem reads_load : Reads id (Settings.load Settings.defaultPath) settingsIn :=
  reads_loadAt Settings.defaultPath

/-- Without a directory for the settings file, the defaults are in force. -/
theorem settingsIn_default {tree : FileTree} (h : tree.get? [".methodsource"] = none) :
    settingsIn tree = .ok {} := by
  have hcomponents : pathComponents Settings.defaultPath = [".methodsource", "config.json"] := by
    decide
  have hwalk : tree.walk [] [".methodsource", "config.json"] = .error .notFound := by
    have htop : tree.get? [] = some .dir := rfl
    have hsize : ¬ ".methodsource".utf8ByteSize > maxName := by decide
    simp [FileTree.walk, h, htop, hsize]
  have hlocate : tree.locate Settings.defaultPath = .error .notFound := by
    have hsize : ¬ Settings.defaultPath.utf8ByteSize > maxPath := by decide
    have habs : isAbsolute Settings.defaultPath = false := by decide
    rw [FileTree.locate, if_neg (by decide), if_neg hsize, habs, hcomponents, hwalk]
    rfl
  have hnul : Settings.hasNul Settings.defaultPath = false := by decide
  rw [settingsIn, Settings.find, hnul, hlocate]
  rfl

/-- The feed of a file by a setting for its encoding. -/
def feedOf (file : String) (encoding : Json) (tree : FileTree) : Except Fault Feed :=
  match encodingMisfit encoding with
  | some e => .error e
  | none =>
    if Settings.hasNul file then .error .nulInPath
    else
      match tree.readFile file with
      | .error e => .error (.unreadable file (.system e))
      | .ok bytes => (charsetOf encoding).map fun cs => Feed.ofBytes cs bytes

/-- Opening, step by step: what is refused before the file is looked for, then the file, then the
name of the character set. -/
theorem openText_eq (file : String) (encoding : Json) (d : Desk) :
    Source.openText file encoding d =
      match encodingMisfit encoding with
      | some e => (.error e, d)
      | none =>
        if Settings.hasNul file then (.error .nulInPath, d)
        else
          match d.tree.readFile file with
          | .error e =>
            (.error (.unreadable file (.system e)),
              { d with journal := d.journal ++ [.openFailed file e] })
          | .ok bytes =>
            match charsetOf encoding with
            | .error e => (.error e, d)
            | .ok cs =>
              (.ok ⟨d.nextHandle, Feed.ofBytes cs bytes⟩,
                { d.opened with journal := d.journal ++ [.opened file] }) := by
  unfold Source.openText
  rcases encodingMisfit encoding with _ | e
  swap
  · rfl
  by_cases hn : Settings.hasNul file = true
  · simp only [hn, if_true]
    rfl
  simp only [hn]
  have htree : Op.tree d = (.ok d.tree, d) := rfl
  change (Op.tree >>= _) d = _
  rw [op_bind, htree]
  dsimp only
  rcases d.tree.readFile file with e | bytes
  · rfl
  rcases charsetOf encoding with e | cs <;> rfl

theorem reads_openText (file : String) (encoding : Json) :
    Reads Handle.feed (Source.openText file encoding) (feedOf file encoding) := by
  intro d
  rw [openText_eq, feedOf]
  rcases encodingMisfit encoding with _ | e
  swap
  · exact ⟨rfl, rfl⟩
  by_cases hn : Settings.hasNul file = true
  · simp only [hn, if_true]
    exact ⟨rfl, trivial⟩
  simp only [hn]
  rcases d.tree.readFile file with e | bytes
  · exact ⟨rfl, rfl⟩
  rcases charsetOf encoding with e | cs <;> exact ⟨rfl, rfl⟩

/-! ### Going to a line -/

/-- The lines above a location and the feed from its line on, in the feed of its file. -/
def approached (loc : Location) (feed : Feed) : Except Fault (List Text × Feed) :=
  match linesAbove (loc.line - 1) 0 feed with
  | (above, .reached feed) => .ok (above, feed)
  | (_, .short read) => .error (.endOfInput loc.file loc.line read)
  | (_, .stuck f) => .error (readFault loc.file f)

theorem reads_approach (h : Handle) (loc : Location) :
    Reads (fun p => (p.1, p.2.feed)) (Source.approach h loc) fun _ => approached loc h.feed := by
  intro d
  rw [Source.approach, approached]
  rcases linesAbove (loc.line - 1) 0 h.feed with ⟨above, feed | read | f⟩ <;> exact ⟨rfl, rfl⟩

/-- What a location's handle stands before, by the settings in force. -/
def placed (loc : Location) (tree : FileTree) : Except Fault Feed := do
  let settings ← settingsIn tree
  let feed ← feedOf loc.file settings.encoding tree
  let (_, feed) ← approached loc feed
  return feed

theorem reads_openAt (loc : Location) : Reads Handle.feed (Source.openAt loc) (placed loc) := by
  have hopen : Reads Handle.feed (Source.openAt loc) fun tree =>
      settingsIn tree >>= fun settings =>
        feedOf loc.file settings.encoding tree >>= fun feed =>
          (approached loc feed).map Prod.snd := by
    refine reads_bind (fun settings tree =>
      feedOf loc.file (Settings.encoding settings) tree >>= fun feed =>
        (approached loc feed).map Prod.snd) reads_load fun settings => ?_
    refine reads_bind (fun feed _ => (approached loc feed).map Prod.snd)
      (reads_openText loc.file settings.encoding) fun h => ?_
    -- A walk that fails closes the handle, and that changes neither outcome nor directory.
    intro d
    obtain ⟨h1, h2⟩ := reads_approach h loc d
    beta_reduce at h1 ⊢
    rcases ha : Source.approach h loc d with ⟨e | ⟨above, h'⟩, d'⟩
    · rw [ha] at h1 h2
      rw [← h1]
      exact ⟨rfl, h2⟩
    · rw [ha] at h1 h2
      rw [← h1]
      exact ⟨rfl, h2⟩
  intro d
  obtain ⟨h1, h2⟩ := hopen d
  refine ⟨h1.trans ?_, h2⟩
  beta_reduce
  rw [placed]
  rcases settingsIn d.tree with e | settings
  · rfl
  rcases feedOf loc.file settings.encoding d.tree with e | feed
  · rfl
  rcases approached loc feed with e | p <;> rfl

theorem reads_withPlaced {α β : Type} {view : α → β} {loc : Location} {body : Handle → Op α}
    (r : Feed → FileTree → Except Fault β) (hb : ∀ h, Reads view (body h) (r h.feed)) :
    Reads view (Source.withPlaced loc body) fun tree => placed loc tree >>= fun feed => r feed tree :=
  reads_bind r (reads_openAt loc) fun h => reads_closing h (hb h)

/-! ### Extraction -/

/-- The outcome of gathering a unit from a feed. -/
def unitFrom (lang : Language) (loc : Location) (feed : Feed) : Except Fault Text :=
  (gather (Judge.ofLanguage lang) loc ⟨⟩ feed).result.outcome loc

theorem reads_readUnit (lang : Language) (loc : Location) (h : Handle) :
    Reads id (readUnit lang loc h) fun _ => unitFrom lang loc h.feed :=
  reads_bind (fun _ _ => unitFrom lang loc h.feed) (reads_notes _) fun _ => reads_ofExcept _

/-- Reading a unit of `lang` at a location. -/
theorem reads_placedUnit (lang : Language) (loc : Location) :
    Reads id (Source.withPlaced loc (readUnit lang loc)) fun tree =>
      placed loc tree >>= unitFrom lang loc :=
  reads_withPlaced (fun feed _ => unitFrom lang loc feed) (reads_readUnit lang loc)

/-- The language of a file by the settings in force. -/
def languageIn (file : String) (tree : FileTree) : Except Fault Language := do
  let settings ← settingsIn tree
  Language.ofFile settings.suffixes file

theorem reads_find (file : String) : Reads id (Language.find file) (languageIn file) :=
  reads_bind (fun settings _ => Language.ofFile (Settings.suffixes settings) file) reads_load
    fun _ => reads_ofExcept _

theorem reads_sourceAt (loc : Location) (name : Option String) :
    Reads id (sourceAt (some loc) name) fun tree =>
      languageIn loc.file tree >>= fun lang => placed loc tree >>= unitFrom lang loc :=
  reads_bind (fun lang tree => placed loc tree >>= unitFrom lang loc) (reads_find loc.file)
    fun lang => reads_placedUnit lang loc

/-- Where there is a unit, there were a language for the file and a place for the handle. -/
theorem sourceAt_ok {loc : Location} {name : Option String} {d : Desk} {s : Text}
    (h : (sourceAt (some loc) name d).1 = .ok s) :
    ∃ lang feed, languageIn loc.file d.tree = .ok lang ∧ placed loc d.tree = .ok feed ∧
      unitFrom lang loc feed = .ok s := by
  rw [reads_outcome (reads_sourceAt loc name) d] at h
  obtain ⟨lang, hl, h⟩ := except_bind_ok.mp h
  obtain ⟨feed, hp, h⟩ := except_bind_ok.mp h
  exact ⟨lang, feed, hl, hp, h⟩

/-- The comment above a location in the feed of its file. -/
def commentFrom (d : Dialect) (loc : Location) (feed : Feed) : Except Fault Text :=
  (approached loc feed).map fun p => commentOf d p.1

theorem reads_readComment (d : Dialect) (loc : Location) (h : Handle) :
    Reads id (readComment d loc h) fun _ => commentFrom d loc h.feed := by
  have hbind := reads_bind (fun p _ => .ok (commentOf d p.1)) (reads_approach h loc)
    fun p => reads_pure id (commentOf d p.1)
  intro desk
  obtain ⟨h1, h2⟩ := hbind desk
  refine ⟨h1.trans ?_, h2⟩
  beta_reduce
  rw [commentFrom]
  rcases approached loc h.feed with e | p <;> rfl

theorem reads_collectComment (d : Dialect) (encoding : Json) (loc : Location) :
    Reads id (collectComment d encoding loc) fun tree =>
      feedOf loc.file encoding tree >>= commentFrom d loc := by
  have hnoted (h : Handle) := reads_bind (fun comment _ => .ok comment)
    (reads_closing h (reads_readComment d loc h)) fun comment =>
      reads_bind (fun _ _ => .ok comment)
        (reads_note (.commentLines loc (displayLines comment).length)) fun _ => reads_pure id comment
  have hall := reads_bind (fun feed _ => commentFrom d loc feed >>= .ok)
    (reads_openText loc.file encoding) hnoted
  intro desk
  obtain ⟨h1, h2⟩ := hall desk
  refine ⟨h1.trans ?_, h2⟩
  beta_reduce
  rcases feedOf loc.file encoding desk.tree with e | feed
  · rfl
  · change (commentFrom d loc feed >>= .ok) = commentFrom d loc feed
    rcases commentFrom d loc feed with e | comment <;> rfl

theorem reads_commentAbove (lang : Option Language) (loc : Location) :
    Reads id (commentAbove lang loc) fun tree =>
      settingsIn tree >>= fun settings =>
        (lang.elim (Language.ofFile settings.suffixes loc.file) .ok) >>= fun lang =>
          feedOf loc.file settings.encoding tree >>= commentFrom lang.toDialect loc := by
  refine reads_bind (fun settings tree =>
    (lang.elim (Language.ofFile (Settings.suffixes settings) loc.file) .ok) >>= fun lang =>
      feedOf loc.file settings.encoding tree >>= commentFrom (Language.toDialect lang) loc)
    reads_load fun settings => ?_
  have hcollect (lang : Language) := reads_collectComment lang.toDialect settings.encoding loc
  have hbind {x : Op Language} {r : Except Fault Language} (hx : Reads id x fun _ => r) :=
    reads_bind (fun lang tree =>
      feedOf loc.file settings.encoding tree >>= commentFrom (Language.toDialect lang) loc)
      hx hcollect
  cases lang with
  | some lang => exact hbind (reads_pure id lang)
  | none => exact hbind (reads_ofExcept _)

/-! ### Files that decode -/

theorem linesAbove_reached {n read : ℕ} {ls : List Text} {ending : Ending} (h : n ≤ ls.length) :
    linesAbove n read ⟨ls, ending⟩ = (ls.take n, .reached ⟨ls.drop n, ending⟩) := by
  rw [linesAbove]
  induction n generalizing ls read with
  | zero => rfl
  | succ n ih =>
    cases ls with
    | nil => simp at h
    | cons l ls =>
      rw [linesAbove.go, ih (Nat.le_of_succ_le_succ h)]
      rfl

theorem linesAbove_beyond {n read : ℕ} {ls : List Text} {ending : Ending} (h : ls.length < n) :
    linesAbove n read ⟨ls, ending⟩ =
      (ls, match ending with
        | .done => .short (read + ls.length)
        | .stuck f _ => .stuck f) := by
  rw [linesAbove]
  induction n generalizing ls read with
  | zero => omega
  | succ n ih =>
    cases ls with
    | nil => cases ending <;> simp [linesAbove.go]
    | cons l ls =>
      rw [linesAbove.go, ih (Nat.lt_of_succ_lt_succ h)]
      cases ending with
      | done => simp only [List.length_cons, Nat.add_assoc, Nat.add_comm 1]
      | stuck f rest => rfl

theorem approached_ok {loc : Location} {feed feed' : Feed} {above : List Text} :
    approached loc feed = .ok (above, feed') ↔
      loc.line - 1 ≤ feed.lines.length ∧ above = feed.lines.take (loc.line - 1) ∧
        feed' = ⟨feed.lines.drop (loc.line - 1), feed.ending⟩ := by
  rcases feed with ⟨ls, ending⟩
  rw [approached]
  rcases Nat.lt_or_ge ls.length (loc.line - 1) with hn | hn
  · rw [linesAbove_beyond hn]
    have hno : ¬ loc.line - 1 ≤ ls.length := by omega
    cases ending <;> simp [hno]
  · rw [linesAbove_reached hn]
    simp only [Except.ok.injEq, Prod.mk.injEq]
    constructor
    · rintro ⟨rfl, rfl⟩
      exact ⟨hn, rfl, rfl⟩
    · rintro ⟨_, rfl, rfl⟩
      exact ⟨rfl, rfl⟩

/-- The file decodes as a whole, by the settings in force, and `t` is its text. -/
def Decodes (tree : FileTree) (file : String) (t : Text) : Prop :=
  ∃ settings bytes cs, settingsIn tree = .ok settings ∧ Settings.hasNul file = false ∧
    tree.readFile file = .ok bytes ∧ charsetOf settings.encoding = .ok cs ∧ cs.decode bytes = .ok t

theorem encodingMisfit_of_charset {encoding : Json} {cs : Charset} (h : charsetOf encoding = .ok cs) :
    encodingMisfit encoding = none := by
  cases encoding with
  | null => rfl
  | str name =>
    rw [charsetOf] at h
    rw [encodingMisfit]
    split_ifs at h ⊢
    rfl
  | _ => cases h

/-- The settings of a file that decodes, and its feed by them. -/
theorem feedOf_decodes {tree : FileTree} {file : String} {t : Text} (h : Decodes tree file t) :
    ∃ settings, settingsIn tree = .ok settings ∧
      feedOf file settings.encoding tree = .ok ⟨lines t, .done⟩ := by
  obtain ⟨settings, bytes, cs, hs, hn, hr, hc, hd⟩ := h
  refine ⟨settings, hs, ?_⟩
  simp only [feedOf, encodingMisfit_of_charset hc, hn, hr, hc, Except.map, feed_of_decodable hd,
    Bool.false_eq_true, if_false]

/-- The lines of a text from the `n`th on, counted from one. -/
def linesFrom (t : Text) (n : ℕ) : List Text := (lines t).drop (n - 1)

theorem approached_lines {loc : Location} {t : Text} (hn : loc.line ≤ (lines t).length + 1) :
    approached loc ⟨lines t, .done⟩ =
      .ok ((lines t).take (loc.line - 1), ⟨linesFrom t loc.line, .done⟩) := by
  refine approached_ok.mpr ⟨?_, rfl, rfl⟩
  change loc.line - 1 ≤ (lines t).length
  omega

theorem placed_decodes {tree : FileTree} {loc : Location} {t : Text}
    (h : Decodes tree loc.file t) (hn : loc.line ≤ (lines t).length + 1) :
    placed loc tree = .ok ⟨linesFrom t loc.line, .done⟩ := by
  obtain ⟨settings, hs, hf⟩ := feedOf_decodes h
  rw [placed, hs]
  simp only [bind, Except.bind, hf, approached_lines hn]
  rfl

theorem feedOf_ok {tree : FileTree} {file : String} {encoding : Json} {feed : Feed}
    (h : feedOf file encoding tree = .ok feed) :
    ∃ bytes cs, tree.readFile file = .ok bytes ∧ charsetOf encoding = .ok cs ∧
      Feed.ofBytes cs bytes = feed := by
  rw [feedOf] at h
  rcases hm : encodingMisfit encoding with _ | e
  swap
  · simp [hm] at h
  rcases hr : tree.readFile file with e | bytes
  · simp only [hm, hr] at h
    split_ifs at h
  rcases hc : charsetOf encoding with e | cs
  · simp only [hm, hr, hc] at h
    split_ifs at h
    cases h
  refine ⟨bytes, cs, rfl, rfl, ?_⟩
  simp only [hm, hr, hc] at h
  split_ifs at h
  simpa [Except.map] using h

/-- Where a handle has been placed, the file was there and its encoding known. -/
theorem placed_ok {tree : FileTree} {loc : Location} {feed : Feed} (h : placed loc tree = .ok feed) :
    ∃ settings bytes cs, settingsIn tree = .ok settings ∧ tree.readFile loc.file = .ok bytes ∧
      charsetOf settings.encoding = .ok cs ∧
      loc.line - 1 ≤ (Feed.ofBytes cs bytes).lines.length ∧
      feed = ⟨(Feed.ofBytes cs bytes).lines.drop (loc.line - 1), (Feed.ofBytes cs bytes).ending⟩ := by
  rw [placed] at h
  obtain ⟨settings, hs, h⟩ := except_bind_ok.mp h
  obtain ⟨feed₀, hf, h⟩ := except_bind_ok.mp h
  obtain ⟨⟨above, feed₁⟩, ha, h⟩ := except_bind_ok.mp h
  obtain rfl : feed₁ = feed := by simpa [pure, Except.pure] using h
  obtain ⟨hn, -, rfl⟩ := approached_ok.mp ha
  obtain ⟨bytes, cs, hr, hc, rfl⟩ := feedOf_ok hf
  exact ⟨settings, bytes, cs, hs, hr, hc, hn, rfl⟩

/-- A directory that holds one file of UTF-8 text and no settings. -/
def oneFile (t : Text) : FileTree := ⟨[(["a"], .file (utf8Bytes t))]⟩

theorem settingsIn_oneFile (t : Text) : settingsIn (oneFile t) = .ok {} := settingsIn_default rfl

theorem readFile_oneFile (t : Text) : (oneFile t).readFile "a" = .ok (utf8Bytes t) := rfl

theorem decodes_oneFile (t : Text) : Decodes (oneFile t) "a" t :=
  ⟨{}, utf8Bytes t, .utf8, settingsIn_oneFile t, by decide, readFile_oneFile t, rfl,
    decode_utf8Bytes t⟩

theorem languageIn_oneFile (t : Text) : languageIn "a" (oneFile t) = .ok .python := by
  rw [languageIn, settingsIn_oneFile]
  rfl

theorem find_oneFile (t : Text) : (Language.find "a" (Desk.ofTree (oneFile t))).1 = .ok .python := by
  rw [reads_outcome (reads_find "a") _]
  exact languageIn_oneFile t

/-- In that directory a unit is read as Python. -/
theorem sourceAt_oneFile {loc : Location} {t s : Text} (name : Option String) (hfile : loc.file = "a")
    (hn : loc.line ≤ (lines t).length + 1)
    (h : unitFrom .python loc ⟨linesFrom t loc.line, .done⟩ = .ok s) :
    (sourceAt (some loc) name (Desk.ofTree (oneFile t))).1 = .ok s := by
  have hplaced : placed loc (oneFile t) = .ok ⟨linesFrom t loc.line, .done⟩ :=
    placed_decodes (hfile ▸ decodes_oneFile t) hn
  rw [reads_outcome (reads_sourceAt loc name) _]
  change (languageIn loc.file (oneFile t) >>= fun lang =>
    placed loc (oneFile t) >>= unitFrom lang loc) = _
  rw [hfile, languageIn_oneFile, hplaced]
  exact h

end Excerpt
