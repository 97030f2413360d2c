import Excerpt.Proofs.JsonLineEnds
import Excerpt.Proofs.Outcome

/-! Loading the settings, whatever stands at their path. A file that holds an object gives its values,
anything else the defaults and a warning. Only a text that nests too deep for its reader stops the
load. -/
namespace Excerpt.Settings

/-! ### What stands at the path -/

/-- The entry at the path of the settings file, which lies in a directory. -/
def entryIn (tree : FileTree) : Option Entry :=
  match tree.get? [".methodsource"] with
  | some .dir => tree.get? [".methodsource", "config.json"]
  | _ => none

theorem walk_default (tree : FileTree) :
    tree.walk [] [".methodsource", "config.json"] =
      match tree.get? [".methodsource"] with
      | none => .error .notFound
      | some (.file _) => .error .notDirectory
      | some .dir =>
        match tree.get? [".methodsource", "config.json"] with
        | some e => .ok (.entry [".methodsource", "config.json"] e)
        | none => .ok (.free [".methodsource", "config.json"]) := by
  have htop : tree.get? [] = some .dir := rfl
  have hsize : ¬ ".methodsource".utf8ByteSize > maxName := by decide
  have hsize' : ¬ "config.json".utf8ByteSize > maxName := by decide
  rcases h : tree.get? [".methodsource"] with _ | _ | _
  · simp [FileTree.walk, h, htop, hsize]
  · simp [FileTree.walk, h, htop, hsize]
  · simp only [FileTree.walk, h, htop, hsize, hsize', List.reverse_nil, List.reverse_cons,
      List.nil_append, List.cons_append, if_false]
    rfl

theorem locate_default (tree : FileTree) :
    tree.locate defaultPath = tree.walk [] [".methodsource", "config.json"] := by
  have hcomponents : pathComponents defaultPath = [".methodsource", "config.json"] := by
    decide
  have hsize : ¬ defaultPath.utf8ByteSize > maxPath := by decide
  have habs : isAbsolute defaultPath = false := by decide
  have hfile : (defaultPath.toList.getLast? == some '/' ||
      defaultPath.toList.reverse.take 2 == ['.', '/']) = false := by decide
  rw [FileTree.locate, if_neg (by decide), if_neg hsize, habs, hcomponents]
  simp only [hfile, Bool.false_eq_true, if_false]
  rcases tree.walk [] [".methodsource", "config.json"] with e | ⟨p, _ | _⟩ | p | _ <;> rfl

theorem find_default (tree : FileTree) :
    ∃ why, find tree defaultPath =
      match entryIn tree with
      | none => .ok ({}, [])
      | some .dir => .ok ({}, [.settingsUnread why])
      | some (.file b) => ofBytes b := by
  have hnul : hasNul defaultPath = false := by decide
  have hlocate := (locate_default tree).trans (walk_default tree)
  simp only [find, FileTree.readFile, hnul, Bool.false_eq_true, if_false, entryIn]
  rcases hdir : tree.get? [".methodsource"] with _ | _ | _
  · simp [hlocate, hdir]
  · simp [hlocate, hdir]
  · rcases hfile : tree.get? [".methodsource", "config.json"] with _ | b | _
    · simp [hlocate, hdir, hfile]
    · simp [hlocate, hdir, hfile]
    · simp only [hlocate, hdir, hfile]
      exact ⟨_, rfl⟩

/-! ### What a file holds -/

/-- The UTF-8 text of an object with these fields. -/
def IsObject (b : Bytes) (fields : List (String × Json)) : Prop :=
  ∃ t, b = utf8Bytes t ∧ Json.read t = .ok (.obj fields)

/-- The UTF-8 text of something whose nesting stops the reader. -/
def IsDeep (b : Bytes) (problem : Json.Problem) : Prop :=
  problem.isDepth = true ∧ ∃ t p, b = utf8Bytes t ∧ Json.read t = .error ⟨problem, p⟩

theorem decode_utf8_iff {b : Bytes} {t : Text} : Charset.utf8.decode b = .ok t ↔ b = utf8Bytes t := by
  constructor
  · intro h
    rcases hdecoded : decodeUtf8 true b with s | ⟨u, k⟩
    · simp [Charset.decode, Decoder.feed, Decoder.run, hdecoded] at h
    · obtain ⟨hb, hk⟩ := decodeUtf8_exact hdecoded
      obtain rfl : u = t := by
        simpa [Charset.decode, Decoder.feed, Decoder.run, hdecoded] using h
      rw [hb, hk rfl, List.append_nil]
  · intro h
    rw [h]
    exact decode_utf8Bytes t

theorem utf8Bytes_injective {t u : Text} (h : utf8Bytes t = utf8Bytes u) : t = u := by
  have hdecode := decode_utf8Bytes t
  rw [h, decode_utf8Bytes] at hdecode
  exact (Except.ok.inj hdecode).symm

theorem isObject_utf8Bytes {t : Text} {fields : List (String × Json)} :
    IsObject (utf8Bytes t) fields ↔ Json.read t = .ok (.obj fields) := by
  constructor
  · intro h
    obtain ⟨u, hu, hread⟩ := h
    rwa [utf8Bytes_injective hu]
  · intro hread
    exact ⟨t, rfl, hread⟩

theorem isDeep_utf8Bytes {t : Text} {problem : Json.Problem} :
    IsDeep (utf8Bytes t) problem ↔
      problem.isDepth = true ∧ ∃ p, Json.read t = .error ⟨problem, p⟩ := by
  rw [IsDeep]
  apply and_congr_right
  intro _
  constructor
  · intro h
    obtain ⟨u, p, hu, hread⟩ := h
    rw [← utf8Bytes_injective hu] at hread
    exact ⟨p, hread⟩
  · intro h
    obtain ⟨p, hread⟩ := h
    exact ⟨t, p, rfl, hread⟩

/-- The three ways of reading a file. -/
inductive BytesRead (b : Bytes) : Except Fault (Settings × List Record) → Prop
  | object {fields : List (String × Json)} (h : IsObject b fields) : BytesRead b (.ok (ofFields fields))
  | deep {problem : Json.Problem} (h : IsDeep b problem) : BytesRead b (.error (.deepSettings problem))
  | unread (why : String) (h : ∀ fields, ¬ IsObject b fields) (hdeep : ∀ problem, ¬ IsDeep b problem) :
      BytesRead b (.ok ({}, [.settingsUnread why]))

theorem bytesRead_utf8Bytes (t : Text) : BytesRead (utf8Bytes t) (ofBytes (utf8Bytes t)) := by
  -- What is read is the text with plain line ends, of the same value or with the same problem.
  simp only [ofBytes, decode_utf8Bytes]
  rcases hcopy : Json.read (plainLines t) with f | v
  · obtain ⟨g, hg, hproblem⟩ := Json.read_of_plainLines_error hcopy
    dsimp only
    rw [← hproblem]
    split_ifs with hdeep
    · exact .deep (isDeep_utf8Bytes.mpr ⟨hdeep, g.position, hg⟩)
    · apply BytesRead.unread
      · intro fields
        rw [isObject_utf8Bytes, hg]
        simp
      · intro problem
        rw [isDeep_utf8Bytes, hg]
        intro h
        obtain ⟨hdeep', p, hp⟩ := h
        cases hp
        exact hdeep hdeep'
  · have hread := Json.read_of_plainLines_ok hcopy
    have hshallow (problem : Json.Problem) : ¬ IsDeep (utf8Bytes t) problem := by
      rw [isDeep_utf8Bytes, hread]
      simp
    cases v with
    | obj fields => exact .object (isObject_utf8Bytes.mpr hread)
    | _ =>
      refine .unread _ (fun fields => ?_) hshallow
      rw [isObject_utf8Bytes, hread]
      simp

theorem bytesRead (b : Bytes) : BytesRead b (ofBytes b) := by
  rcases hdecode : Charset.utf8.decode b with f | t
  · -- Bytes that do not decode are the text of nothing.
    have hno (t : Text) : b ≠ utf8Bytes t := by
      intro hb
      rw [decode_utf8_iff.mpr hb] at hdecode
      cases hdecode
    simp only [ofBytes, hdecode]
    apply BytesRead.unread
    · intro fields h
      obtain ⟨t, hb, -⟩ := h
      exact hno t hb
    · intro problem h
      obtain ⟨-, t, p, hb, -⟩ := h
      exact hno t hb
  · rw [decode_utf8_iff.mp hdecode]
    exact bytesRead_utf8Bytes t

/-! ### Values and warnings -/

/-- The keys that take any value, with what they have without one. -/
def defaults : List (String × Json) :=
  [("encoding", .null), ("log_level", .str "WARNING"), ("log_file", .str "")]

theorem ofFields_value {key : String} {default : Json} (h : (key, default) ∈ defaults)
    (fields : List (String × Json)) :
    (ofFields fields).1.toJson.get? key = some ((Json.field? key fields).getD default) := by
  have hfirst : (ofFields fields).1.encoding = (Json.field? "encoding" fields).getD .null ∧
      (ofFields fields).1.logLevel = (Json.field? "log_level" fields).getD (.str "WARNING") ∧
      (ofFields fields).1.logFile = (Json.field? "log_file" fields).getD (.str "") := by
    rw [ofFields]
    split <;> exact ⟨rfl, rfl, rfl⟩
  simp only [defaults, List.mem_cons, Prod.mk.injEq, List.not_mem_nil, or_false] at h
  rcases h with ⟨rfl, rfl⟩ | ⟨rfl, rfl⟩ | ⟨rfl, rfl⟩
  · rw [← hfirst.1]
    rfl
  · rw [← hfirst.2.1]
    rfl
  · rw [← hfirst.2.2]
    rfl

/-- Suffixes that are there and no object draw the one warning about a file that was read. -/
theorem ofFields_warned (fields : List (String × Json)) :
    (∃ r ∈ (ofFields fields).2, r.severity = .warning) ↔
      ∃ v, Json.field? "suffixes" fields = some v ∧ ∀ l, v ≠ .obj l := by
  rw [ofFields]
  split
  · next hnone => simp [hnone]
  · next suffixes hsome => simp [hsome]
  · next v hno hsome =>
    exact iff_of_true ⟨.suffixesIgnored, by simp, rfl⟩ ⟨v, hsome, hno⟩

/-! ### Loading -/

theorem notes_eq (rs : List Record) (d : Desk) :
    rs.forM Op.note d = (.ok (), { d with journal := d.journal ++ rs }) := by
  induction rs generalizing d with
  | nil =>
    rw [List.append_nil]
    rfl
  | cons r rs ih =>
    change (Op.note r >>= fun _ => rs.forM Op.note) d = _
    have hnote : Op.note r d = (.ok (), { d with journal := d.journal ++ [r] }) := rfl
    rw [op_bind, hnote]
    dsimp only
    rw [ih, List.append_assoc, List.singleton_append]

theorem load_eq (path : String) (d : Desk) :
    load path d =
      match find d.tree path with
      | .error e => (.error e, d)
      | .ok (s, records) => (.ok s, { d with journal := d.journal ++ records }) := by
  have htree : Op.tree d = (.ok d.tree, d) := rfl
  change (Op.tree >>= fun tree => Op.ofExcept (find tree path) >>= fun p =>
    p.2.forM Op.note >>= fun _ => pure p.1) d = _
  rw [op_bind, htree]
  dsimp only
  rw [op_bind]
  rcases find d.tree path with e | ⟨s, records⟩
  · rfl
  · change (records.forM Op.note >>= fun _ => pure s : Op Settings) d = _
    rw [op_bind, notes_eq]
    rfl

/-- The settings file holds an object with these fields. -/
def FileObject (tree : FileTree) (fields : List (String × Json)) : Prop :=
  ∃ b, entryIn tree = some (.file b) ∧ IsObject b fields

/-- The settings file holds a text that nests too deep. -/
def FileDeep (tree : FileTree) (problem : Json.Problem) : Prop :=
  ∃ b, entryIn tree = some (.file b) ∧ IsDeep b problem

section
variable {tree : FileTree} {b : Bytes} {fields : List (String × Json)} {problem : Json.Problem}

theorem fileObject_file (h : entryIn tree = some (.file b)) :
    FileObject tree fields ↔ IsObject b fields := by
  simp [FileObject, h]

theorem fileDeep_file (h : entryIn tree = some (.file b)) :
    FileDeep tree problem ↔ IsDeep b problem := by
  simp [FileDeep, h]

theorem fileObject_unique {fields' : List (String × Json)} (h : FileObject tree fields)
    (h' : FileObject tree fields') : fields' = fields := by
  obtain ⟨b, hentry, t, rfl, hread⟩ := h
  rw [fileObject_file hentry, isObject_utf8Bytes, hread] at h'
  cases h'
  rfl

theorem fileDeep_unique {problem' : Json.Problem} (h : FileDeep tree problem)
    (h' : FileDeep tree problem') : problem' = problem := by
  obtain ⟨b, hentry, -, t, p, rfl, hread⟩ := h
  rw [fileDeep_file hentry, isDeep_utf8Bytes, hread] at h'
  obtain ⟨-, p', hp'⟩ := h'
  cases hp'
  rfl

theorem not_fileDeep (h : FileObject tree fields) : ¬ FileDeep tree problem := by
  obtain ⟨b, hentry, t, rfl, hread⟩ := h
  rw [fileDeep_file hentry, isDeep_utf8Bytes, hread]
  simp

end

/-- What a load can come to, by what stands at the path. -/
inductive Loaded (d : Desk) : Except Fault Settings × Desk → Prop
  | missing (h : entryIn d.tree = none) : Loaded d (.ok {}, d)
  | object {fields : List (String × Json)} (h : FileObject d.tree fields) :
      Loaded d (.ok (ofFields fields).1, { d with journal := d.journal ++ (ofFields fields).2 })
  | broken (why : String) (hentry : entryIn d.tree ≠ none) (hno : ∀ fields, ¬ FileObject d.tree fields)
      (hshallow : ∀ problem, ¬ FileDeep d.tree problem) :
      Loaded d (.ok {}, { d with journal := d.journal ++ [.settingsUnread why] })
  | deep {problem : Json.Problem} (h : FileDeep d.tree problem) :
      Loaded d (.error (.deepSettings problem), d)

theorem loaded (d : Desk) : Loaded d (load defaultPath d) := by
  obtain ⟨why, hfind⟩ := find_default d.tree
  rw [load_eq, hfind]
  -- Nothing, a file or a directory.
  rcases hentry : entryIn d.tree with _ | b | _
  · simpa using Loaded.missing hentry
  · have hread := bytesRead b
    dsimp only
    generalize ofBytes b = x at hread ⊢
    cases hread with
    | object h => exact .object ((fileObject_file hentry).mpr h)
    | deep h => exact .deep ((fileDeep_file hentry).mpr h)
    | unread why h hdeep =>
      apply Loaded.broken why (by simp [hentry])
      · intro fields
        rw [fileObject_file hentry]
        exact h fields
      · intro problem
        rw [fileDeep_file hentry]
        exact hdeep problem
  · apply Loaded.broken why (by simp [hentry])
    · simp [FileObject, hentry]
    · simp [FileDeep, hentry]

/-- The settings in force where the file holds an object. -/
theorem settingsIn_object {tree : FileTree} {fields : List (String × Json)}
    (h : FileObject tree fields) : settingsIn tree = .ok (ofFields fields).1 := by
  have houtcome : (load defaultPath (.ofTree tree)).1 = settingsIn tree :=
    reads_outcome reads_load (.ofTree tree)
  rw [← houtcome]
  have hload := loaded (.ofTree tree)
  generalize load defaultPath (.ofTree tree) = r at hload ⊢
  cases hload with
  | missing hentry =>
    obtain ⟨b, hfile, -⟩ := h
    cases hentry.symm.trans hfile
  | object h' => rw [fileObject_unique h h']
  | broken _ _ hno => exact absurd h (hno fields)
  | deep hdeep => exact absurd hdeep (not_fileDeep h)

/-- Settings with exactly the known keys: the suffixes are an object, the file's if it has one, and
every other key has the file's value where the file holds an object with that key, else its default. -/
structure Overlays (tree : FileTree) (s : Settings) : Prop where
  keys : ∃ out, s.toJson = .obj out ∧
    out.map Prod.fst = ["encoding", "log_level", "log_file", "suffixes"]
  suffixes : ∃ l, s.toJson.get? "suffixes" = some (.obj l) ∧
    ∀ fields l', FileObject tree fields → Json.field? "suffixes" fields = some (.obj l') → l = l'
  given : ∀ key default fields v, (key, default) ∈ defaults → FileObject tree fields →
    Json.field? key fields = some v → s.toJson.get? key = some v
  absent : ∀ key default, (key, default) ∈ defaults →
    (∀ fields, FileObject tree fields → Json.field? key fields = none) →
    s.toJson.get? key = some default

theorem overlays_ofFields {tree : FileTree} {fields : List (String × Json)}
    (hobject : ∀ fields', FileObject tree fields' → fields' = fields)
    (hnone : ¬ FileObject tree fields → fields = []) : Overlays tree (ofFields fields).1 where
  keys := ⟨_, rfl, rfl⟩
  suffixes := by
    refine ⟨(ofFields fields).1.suffixes, rfl, ?_⟩
    intro fields' l' h hl
    rw [hobject fields' h] at hl
    simp only [ofFields, hl]
  given := by
    intro key default fields' v hkey h hv
    rw [hobject fields' h] at hv
    rw [ofFields_value hkey, hv]
    rfl
  absent := by
    intro key default hkey habsent
    have hfield : Json.field? key fields = none := by
      by_cases h : FileObject tree fields
      · exact habsent fields h
      · -- A file without an object counts as one with no fields.
        rw [hnone h]
        rfl
    rw [ofFields_value hkey, hfield]
    rfl

theorem overlays_defaults {tree : FileTree} (h : ∀ fields, ¬ FileObject tree fields) :
    Overlays tree {} := by
  have hnone : Overlays tree (ofFields []).1 :=
    overlays_ofFields (fun fields' h' => absurd h' (h fields')) fun _ => rfl
  exact hnone

theorem load_deep_iff {d : Desk} {problem : Json.Problem} :
    FileDeep d.tree problem ↔ load defaultPath d = (.error (.deepSettings problem), d) := by
  have hload := loaded d
  generalize load defaultPath d = r at hload ⊢
  cases hload with
  | missing h => exact iff_of_false (by simp [FileDeep, h]) nofun
  | object h => exact iff_of_false (not_fileDeep h) nofun
  | broken why _ _ hshallow => exact iff_of_false (hshallow problem) nofun
  | deep h =>
    constructor
    · intro h'
      rw [fileDeep_unique h h']
    · intro heq
      cases heq
      exact h

/-- Every load gives the known keys, each with the file's value or its default, and warns just when
something stands at the path that is no object, or one with suffixes that are none; but a text with
more brackets than may nest can stop it. -/
theorem settings_or_defaults (d : Desk) :
    (∀ problem, FileDeep d.tree problem ↔ load defaultPath d = (.error (.deepSettings problem), d)) ∧
    (∀ problem, FileDeep d.tree problem →
      ∃ t, entryIn d.tree = some (.file (utf8Bytes t)) ∧ Json.maxDepth < Json.openings t) ∧
    ((∀ problem, ¬ FileDeep d.tree problem) → ∃ s records,
      load defaultPath d = (.ok s, { d with journal := d.journal ++ records }) ∧ Overlays d.tree s ∧
      ((∃ r ∈ records, r.severity = .warning) ↔
        entryIn d.tree ≠ none ∧ (∀ fields, ¬ FileObject d.tree fields) ∨
        ∃ fields v, FileObject d.tree fields ∧ Json.field? "suffixes" fields = some v ∧
          ∀ l, v ≠ .obj l)) := by
  refine ⟨fun _ => load_deep_iff, ?_, ?_⟩
  · intro problem h
    obtain ⟨b, hentry, hdeep, t, p, rfl, hread⟩ := h
    exact ⟨t, hentry, Json.maxDepth_lt_openings hread hdeep⟩
  · intro hshallow
    have hload := loaded d
    generalize load defaultPath d = r at hload ⊢
    cases hload with
    | missing h =>
      have hno (fields : List (String × Json)) : ¬ FileObject d.tree fields := by
        simp [FileObject, h]
      refine ⟨{}, [], by simp, overlays_defaults hno, ?_⟩
      simp [h, hno]
    | @object fields h =>
      refine ⟨_, _, rfl, overlays_ofFields (fun _ => fileObject_unique h) (absurd h), ?_⟩
      rw [ofFields_warned]
      constructor
      · intro hwarned
        obtain ⟨v, hv, hno⟩ := hwarned
        exact Or.inr ⟨fields, v, h, hv, hno⟩
      · intro hwhy
        rcases hwhy with ⟨-, hnone⟩ | ⟨fields', v, h', hv, hno⟩
        · exact absurd h (hnone fields)
        · rw [fileObject_unique h h'] at hv
          exact ⟨v, hv, hno⟩
    | broken why hentry hno =>
      exact ⟨{}, _, rfl, overlays_defaults hno,
        iff_of_true ⟨.settingsUnread why, by simp, rfl⟩ (Or.inl ⟨hentry, hno⟩)⟩
    | deep h => exact absurd h (hshallow _)

/-- A directory that holds a settings file with this text. -/
def settingsFile (t : Text) : FileTree :=
  ⟨[([".methodsource"], .dir), ([".methodsource", "config.json"], .file (utf8Bytes t))]⟩

theorem entryIn_settingsFile (t : Text) : entryIn (settingsFile t) = some (.file (utf8Bytes t)) := rfl

/-- A file with returns before its line feeds, and with suffixes that are no object. -/
def pairedText : Text :=
  "\x7b\r\n  \"log_level\": \"info\",\r\n  \"suffixes\": \"none\"\r\n\x7d".toList

def pairedFields : List (String × Json) := [("log_level", .str "info"), ("suffixes", .str "none")]

theorem read_pairedText : Json.read pairedText = .ok (.obj pairedFields) := by
  have hexact : (Json.obj pairedFields).Exact := by
    refine .obj (by decide) ?_
    simp only [pairedFields, List.forall_mem_cons]
    exact ⟨.str _, .str _, by simp⟩
  have hplain : plainLines pairedText = (Json.obj pairedFields).text := by decide
  have hread := Json.read_text hexact rfl
  rw [← hplain] at hread
  exact Json.read_of_plainLines_ok hread

/-- Of such a file the level is kept, the encoding is the default, and a warning tells of the
suffixes. -/
theorem paired_settings :
    ∃ s records, load defaultPath (.ofTree (settingsFile pairedText)) =
        (.ok s, { Desk.ofTree (settingsFile pairedText) with journal := records }) ∧
      s.toJson.get? "log_level" = some (.str "info") ∧ s.toJson.get? "encoding" = some .null ∧
      ∃ r ∈ records, r.severity = .warning := by
  have hobject : FileObject (settingsFile pairedText) pairedFields :=
    ⟨_, entryIn_settingsFile pairedText, isObject_utf8Bytes.mpr read_pairedText⟩
  have hshallow (problem : Json.Problem) : ¬ FileDeep (settingsFile pairedText) problem :=
    not_fileDeep hobject
  obtain ⟨s, records, hload, hoverlays, hwarned⟩ :=
    (settings_or_defaults (.ofTree (settingsFile pairedText))).2.2 hshallow
  refine ⟨s, records, hload, ?_, ?_, ?_⟩
  · exact hoverlays.given "log_level" (.str "WARNING") _ _ (by simp [defaults]) hobject rfl
  · apply hoverlays.absent "encoding" .null (by simp [defaults])
    intro fields h
    rw [fileObject_unique hobject h]
    rfl
  · exact hwarned.mpr (Or.inr ⟨pairedFields, .str "none", hobject, rfl, by simp⟩)

/-- Brackets that nest too deep stop the load of a file that is there and in UTF-8, without a
warning. -/
theorem deep_settings_stop :
    load defaultPath (.ofTree (settingsFile (List.replicate 2000 '[' ++ List.replicate 2000 ']'))) =
      (.error (.deepSettings .deepArray),
        .ofTree (settingsFile (List.replicate 2000 '[' ++ List.replicate 2000 ']'))) := by
  obtain ⟨p, hread⟩ := Json.read_brackets (by decide : Json.maxDepth < 2000) (List.replicate 2000 ']')
  exact load_deep_iff.mp ⟨_, entryIn_settingsFile _, isDeep_utf8Bytes.mpr ⟨rfl, p, hread⟩⟩

end Excerpt.Settings
