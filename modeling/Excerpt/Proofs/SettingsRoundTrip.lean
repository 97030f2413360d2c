import Excerpt.Proofs.JsonText
import Excerpt.Proofs.Outcome
import Excerpt.Proofs.Paths

/-! Settings that were saved are found again: a value that could be written is read back whole, and
of its fields those with a meaning are laid over the defaults. -/
namespace Excerpt.Settings

/-- The defaults, overlaid with the fields that have a meaning; suffixes that are no object count as
none. -/
def overlaid (fields : List (String × Json)) : Settings where
  encoding := (fields.lookup "encoding").getD .null
  logLevel := (fields.lookup "log_level").getD (.str "WARNING")
  logFile := (fields.lookup "log_file").getD (.str "")
  suffixes :=
    match fields.lookup "suffixes" with
    | some (.obj suffixes) => suffixes
    | _ => []

/-! ### The bytes of a value -/

theorem toUTF8_ofList (t : Text) : (String.ofList t).toUTF8.data.toList = utf8Bytes t := by
  rw [String.toUTF8, String.toByteArray_ofList, List.utf8Encode, List.toList_data_toByteArray]
  rfl

theorem plainLines_plain {t : Text} (h : ∀ c ∈ t, Json.IsPlain c) : plainLines t = t := by
  induction t with
  | nil => rfl
  | cons c t ih =>
    rw [List.forall_mem_cons] at h
    have hc : c ≠ '\r' := by
      rintro rfl
      exact absurd h.1 (by decide)
    rw [plainLines, ih h.2]
    · simp [hc]
    · simpa using hc

theorem field?_eq_lookup {fields : List (String × Json)} (h : (fields.map Prod.fst).Nodup)
    (key : String) : Json.field? key fields = fields.lookup key := by
  induction fields with
  | nil => rfl
  | cons f fields ih =>
    obtain ⟨k, v⟩ := f
    rw [List.map_cons, List.nodup_cons] at h
    rw [Json.field?, ih h.2, List.lookup_cons]
    by_cases hkey : key = k
    · -- The first field of that name is also the last.
      have hnone : fields.lookup key = none := by
        rw [List.lookup_eq_none_iff]
        intro f hf
        rw [bne_iff_ne, hkey]
        intro hsame
        exact h.1 (List.mem_map.mpr ⟨f, hf, hsame.symm⟩)
      rw [hnone]
      simp [hkey]
    · have hbeq : (key == k) = false := by simpa using hkey
      have hbeq' : (k == key) = false := by simpa using Ne.symm hkey
      simp only [hbeq, hbeq', Bool.false_eq_true, if_false]
      cases fields.lookup key <;> rfl

theorem ofFields_overlaid {fields : List (String × Json)} (h : (fields.map Prod.fst).Nodup) :
    (ofFields fields).1 = overlaid fields := by
  simp only [ofFields, overlaid, field?_eq_lookup h]
  rcases fields.lookup "suffixes" with _ | v
  · rfl
  · cases v <;> rfl

theorem ofBytes_written {fields : List (String × Json)} {t : Text}
    (hexact : (Json.obj fields).Exact) (h : (Json.obj fields).written = .ok t) :
    ∃ warnings, ofBytes (utf8Bytes t) = .ok (overlaid fields, warnings) := by
  obtain ⟨hnone, rfl⟩ := Json.written_eq_ok_iff.mp h
  have hplain : plainLines (Json.obj fields).text = (Json.obj fields).text :=
    plainLines_plain (Json.isPlain_textAt 0 hexact)
  have hread := Json.read_text hexact hnone
  cases hexact with
  | obj distinct _ =>
    refine ⟨(ofFields fields).2, ?_⟩
    simp only [ofBytes, decode_utf8Bytes, hplain, hread, ← ofFields_overlaid distinct]

/-! ### The settings as a value -/

/-- A value that reads back when it is a field of the settings. -/
def FitsField (v : Json) : Prop := v.Exact ∧ Json.obstacleAt 1 v = none

theorem fitsField_obj_iff {fields : List (String × Json)} :
    (Json.obj fields).Exact ∧ Json.obstacleAt 0 (.obj fields) = none ↔
      (fields.map Prod.fst).Nodup ∧ ∀ f ∈ fields, FitsField f.2 := by
  rw [Json.obstacleAt_obj, Json.fieldsObstacle_eq_none_iff]
  constructor
  · rintro ⟨hexact, -, hnone⟩
    cases hexact with
    | obj distinct values => exact ⟨distinct, fun f hf => ⟨values f hf, hnone f hf⟩⟩
  · rintro ⟨distinct, hfits⟩
    exact ⟨.obj distinct fun f hf => (hfits f hf).1, by decide, fun f hf => (hfits f hf).2⟩

section
variable {fields : List (String × Json)} (hfits : ∀ f ∈ fields, FitsField f.2)
include hfits

theorem fitsField_getD (key : String) {v : Json} (hv : FitsField v) :
    FitsField ((fields.lookup key).getD v) := by
  cases h : fields.lookup key with
  | none => exact hv
  | some w =>
    obtain ⟨l₁, l₂, rfl, -⟩ := List.lookup_eq_some_iff.mp h
    exact hfits (key, w) (by simp)

theorem fitsField_suffixes : FitsField (.obj (overlaid fields).suffixes) := by
  have hempty : FitsField (.obj []) := ⟨.obj (by simp) (by simp), rfl⟩
  have hvalue := fitsField_getD hfits "suffixes" hempty
  cases h : fields.lookup "suffixes" with
  | none => simpa [overlaid, h] using hempty
  | some v =>
    rw [h, Option.getD_some] at hvalue
    cases v with
    | obj suffixes => simpa [overlaid, h] using hvalue
    | _ => simpa [overlaid, h] using hempty

/-- The settings that a value gives can be saved in turn. -/
theorem fitsField_toJson :
    (overlaid fields).toJson.Exact ∧ Json.obstacleAt 0 (overlaid fields).toJson = none := by
  rw [toJson, fitsField_obj_iff]
  refine ⟨by simp, ?_⟩
  simp only [List.forall_mem_cons]
  exact ⟨fitsField_getD hfits _ ⟨.null, rfl⟩, fitsField_getD hfits _ ⟨.str _, rfl⟩,
    fitsField_getD hfits _ ⟨.str _, rfl⟩, fitsField_suffixes hfits, by simp⟩

end

theorem overlaid_of_toJson {s : Settings} {fields : List (String × Json)}
    (h : s.toJson = .obj fields) : overlaid fields = s := by
  cases h
  rfl

/-! ### Saving and loading -/

section
variable {v : Json} {path : String} {d d' : Desk} {b : Bytes} {t : Text}

theorem save_eq (v : Json) (path : String) (d : Desk) : save v path d =
    match store d.tree path v with
    | (tree, some e) => (.error e, { d with tree })
    | (tree, none) => (.ok (), { d with tree, journal := d.journal ++ [.settingsSaved path] }) := by
  have htree : Op.tree d = (.ok d.tree, d) := rfl
  rw [save, op_bind, htree]
  rcases h : store d.tree path v with ⟨tree, _ | e⟩
  · simp only [h]
    rfl
  · simp only [h]
    rfl

/-- All that a call can come to: either it leaves the directory with no more than the directories that
were to be made, or the text stands at the path. -/
inductive Stored (tree : FileTree) (path : String) (v : Json) : FileTree × Option Fault → Prop
  | refused (e : Fault) : Stored tree path v (tree, some e)
  | stopped (e : Fault) :
      Stored tree path v ((tree.makeDirs (pathRoot path) (parentOf path)).1, some e)
  | written {made tree' : FileTree} {t : Text} (hnul : hasNul path = false)
      (hmade : tree.makeDirs (pathRoot path) (parentOf path) = (made, none))
      (ht : v.written = .ok t) (hwrite : made.writeFile path (utf8Bytes t) = .ok tree') :
      Stored tree path v (tree', none)

theorem stored (tree : FileTree) (path : String) (v : Json) :
    Stored tree path v (store tree path v) := by
  have hstopped (e : Fault) :
      Stored tree path v ((tree.makeDirs (pathRoot path) (parentOf path)).1, some e) := .stopped e
  rw [store]
  by_cases hparent : (parentOf path).any hasNul = true
  · rw [if_pos hparent]
    exact .refused _
  rw [if_neg hparent]
  rcases hmade : tree.makeDirs (pathRoot path) (parentOf path) with ⟨made, _ | e⟩
  swap
  · simpa [hmade] using hstopped (.system e)
  rw [hmade] at hstopped
  rcases ht : v.written with problem | t
  · exact hstopped _
  by_cases hnul : hasNul path = true
  · simpa only [hnul, if_true] using hstopped .nulInPath
  rw [Bool.not_eq_true] at hnul
  simp only [hnul, toUTF8_ofList, Bool.false_eq_true, if_false]
  rcases hwrite : made.writeFile path (utf8Bytes t) with e | tree'
  · exact hstopped (.system e)
  · exact .written hnul hmade ht hwrite

theorem store_ok {tree tree' : FileTree} (h : store tree path v = (tree', none)) :
    hasNul path = false ∧ ∃ (made : FileTree) (t : Text), v.written = .ok t ∧
      made.writeFile path (utf8Bytes t) = .ok tree' := by
  have hstored := stored tree path v
  rw [h] at hstored
  cases hstored with
  | @written made _ t hnul _ ht hwrite => exact ⟨hnul, made, t, ht, hwrite⟩

theorem save_ok (h : save v path d = (.ok (), d')) : store d.tree path v = (d'.tree, none) := by
  rw [save_eq] at h
  rcases hstore : store d.tree path v with ⟨tree, _ | e⟩
  · rw [hstore] at h
    cases h
    rfl
  · rw [hstore] at h
    cases h

theorem save_holds (hnul : hasNul path = false) (hheld : d.tree.Holds path b)
    (hwritten : v.written = .ok t) : ∃ d', save v path d = (.ok (), d') := by
  obtain ⟨tree, htree⟩ := hheld.writeFile (utf8Bytes t)
  rw [save_eq]
  simp only [store, parentOf_noNul hnul, hnul, hheld.parent, hwritten, toUTF8_ofList, htree,
    Bool.false_eq_true, if_false]
  exact ⟨_, rfl⟩

end

theorem load_holds {path : String} {d : Desk} {b : Bytes} {s : Settings} {warnings : List Record}
    (hnul : hasNul path = false) (hheld : d.tree.Holds path b)
    (hb : ofBytes b = .ok (s, warnings)) :
    ∃ d', load path d = (.ok s, d') ∧ d'.tree = d.tree := by
  have hfind : find d.tree path = .ok (s, warnings) := by
    obtain ⟨q, hq⟩ := hheld.located
    simp [find, hnul, hq, hheld.readFile, hb]
  have houtcome := reads_outcome (reads_loadAt path) d
  rw [hfind] at houtcome
  exact ⟨(load path d).2, Prod.ext houtcome rfl, (reads_loadAt path d).2⟩

/-- What was saved at a tidy path is found there, laid over the defaults. -/
theorem load_saved {fields : List (String × Json)} {p : String} {d d' : Desk}
    (hexact : (Json.obj fields).Exact) (h : save (.obj fields) (tidyPath p) d = (.ok (), d')) :
    ∃ d₁ b, load (tidyPath p) d' = (.ok (overlaid fields), d₁) ∧ d₁.tree.Holds (tidyPath p) b := by
  obtain ⟨hnul, made, t, hwritten, hwrite⟩ := store_ok (save_ok h)
  obtain ⟨warnings, hbytes⟩ := ofBytes_written hexact hwritten
  have hheld := FileTree.holds_of_writeFile hwrite
  obtain ⟨d₁, hload, htree⟩ := load_holds hnul hheld hbytes
  exact ⟨d₁, utf8Bytes t, hload, htree ▸ hheld⟩

/-- The path that settings are read from by default is a tidy one. -/
example : tidyPath defaultPath = defaultPath := by decide

/-- A character beyond the basic plane, escapes, containers in one another, a name without a
meaning, and suffixes that are no object. -/
def sampleFields : List (String × Json) :=
  [("encoding", .str "é😀\r\"\\"),
   ("log_level", .arr [.int (-120), .obj [("😀", .null), ("\n", .bool true)], .arr []]),
   ("theme", .obj []),
   ("suffixes", .arr [.int 0])]

theorem sampleFields_store : ∃ tree,
    store .empty (tidyPath "a//./b.json") (.obj sampleFields) = (tree, none) := by
  have hpath : tidyPath "a//./b.json" = "a/b.json" := by decide
  have hmade : FileTree.empty.makeDirs (pathRoot "a/b.json") (parentOf "a/b.json") =
      (⟨[(["a"], .dir)]⟩, none) := rfl
  have hwrite (b : Bytes) : FileTree.writeFile ⟨[(["a"], .dir)]⟩ "a/b.json" b =
      .ok ⟨[(["a", "b.json"], .file b), (["a"], .dir)]⟩ := rfl
  have hwritten := Json.written_eq_ok_iff.mpr
    ⟨(rfl : Json.obstacleAt 0 (.obj sampleFields) = none), rfl⟩
  have hnul : hasNul "a/b.json" = false := by decide
  simp only [store, hpath, parentOf_noNul hnul, hnul, hmade, hwritten, hwrite, Bool.false_eq_true,
    if_false]
  exact ⟨_, rfl⟩

theorem sampleFields_exact : (Json.obj sampleFields).Exact := by
  have hinner : (Json.obj [("😀", .null), ("\n", .bool true)]).Exact := by
    refine .obj (by decide) ?_
    simp only [List.forall_mem_cons]
    exact ⟨.null, .bool true, by simp⟩
  have hlevel :
      (Json.arr [.int (-120), .obj [("😀", .null), ("\n", .bool true)], .arr []]).Exact := by
    refine .arr ?_
    simp only [List.forall_mem_cons]
    exact ⟨.int _, hinner, .arr (by simp), by simp⟩
  refine .obj (by decide) ?_
  simp only [sampleFields, List.forall_mem_cons]
  exact ⟨.str _, hlevel, .obj (by simp) (by simp), .arr (by simpa using .int 0), by simp⟩

end Excerpt.Settings
