import Excerpt.Proofs.Directories
import Excerpt.Proofs.FileSuffix
import Excerpt.Proofs.SettingsRoundTrip

/-! What saving does to a directory. It changes one file, the one its path leads to, and makes no more
than the directories on the way; when it fails, all files are as before. -/
namespace Excerpt.Settings

/-! ### The way to a path -/

theorem pathComponents_tidyPath (p : String) : pathComponents (tidyPath p) = pathComponents p := by
  have hbody : pathComponents ("/".intercalate (pathComponents p)) = pathComponents p :=
    pathComponents_intercalate fun c hc => isName_of_mem_pathComponents hc
  have hslash (b : String) : pathComponents ("/" ++ b) = pathComponents b := by
    have hfront : pathComponents "" = [] := rfl
    rw [← String.empty_append (s := "/"), pathComponents_slash, hfront, List.nil_append]
  have hslashes (b : String) : pathComponents ("//" ++ b) = pathComponents b := by
    have htwo : "//" ++ b = "/" ++ ("/" ++ b) := by simp [← String.append_assoc]
    rw [htwo, hslash, hslash]
  rw [tidyPath]
  split_ifs with habs hempty
  · simp only [pathRoot]
    split
    · simpa using hbody
    · rw [hslashes, hbody]
    · rw [hslash, hbody]
  · rw [eq_of_beq hempty] at hbody
    exact hbody
  · exact hbody

/-- Before the text is written, directories above the path are all that is new. -/
theorem adds_parents (path : String) (t : FileTree) :
    FileTree.Adds (pathComponents path).dropLast t (t.makeDirs (pathRoot path) (parentOf path)).1 := by
  by_cases habs : isAbsolute path = true
  · rw [FileTree.makeDirs_absolute (isAbsolute_pathRoot habs)]
    exact .refl _ t
  · have hparent : (parentOf path).reverse = (pathComponents path).dropLast := by
      simp [parentOf]
    have hnames : ∀ c ∈ parentOf path, IsName c := by
      intro c hc
      have hmem : c ∈ (pathComponents path).reverse := List.mem_of_mem_drop hc
      exact isName_of_mem_pathComponents (List.mem_reverse.mp hmem)
    rw [Bool.not_eq_true] at habs
    rw [pathRoot_relative habs, ← hparent]
    exact FileTree.adds_makeDirs hnames t

/-! ### Writing -/

section
variable {tree tree' : FileTree} {p : String} {v : Json}

theorem store_error {path : String} {e : Fault} (h : store tree path v = (tree', some e)) :
    FileTree.Adds (pathComponents path).dropLast tree tree' := by
  have hstored := stored tree path v
  rw [h] at hstored
  cases hstored with
  | refused e => exact .refl _ tree
  | stopped e => exact adds_parents path tree

/-- The file that was written is the one the path leads to, and beside it only directories on the way
are new. -/
theorem store_written (h : store tree (tidyPath p) v = (tree', none)) :
    v.written = .ok v.text ∧ ∃ q,
      tree'.locate (tidyPath p) = .ok (.entry q (.file (utf8Bytes v.text))) ∧
      ∀ r, r ≠ q → tree'.get? r = tree.get? r ∨
        tree.get? r = none ∧ tree'.LeadsTo (pathComponents p).dropLast r := by
  have hstored := stored tree (tidyPath p) v
  rw [h] at hstored
  cases hstored with
  | @written made _ t hnul hmade ht hwrite =>
    obtain ⟨-, rfl⟩ := Json.written_eq_ok_iff.mp ht
    obtain ⟨cs, hne, hnames, hpath⟩ := tidyPath_components hwrite
    obtain ⟨spot, q, hspot, hs, rfl⟩ := FileTree.writeFile_ok hwrite
    have hadds := adds_parents (tidyPath p) tree
    rw [hmade, pathComponents_tidyPath] at hadds
    have hsize := FileTree.locate_size hspot
    rw [hpath] at hspot hsize
    rw [locate_intercalate hne hnames made hsize] at hspot
    refine ⟨ht, q, ?_, fun r hr => ?_⟩
    · rw [hpath, locate_intercalate hne hnames _ hsize]
      exact FileTree.walk_insert hspot hs _
    · have hsame := FileTree.get?_insert_ne made hr (.file (utf8Bytes v.text))
      rw [hsame]
      refine (hadds r).imp_right fun ⟨hnone, hleads⟩ => ⟨hnone, hleads.keeps fun p hp => ?_⟩
      -- No directory stood where the file is.
      have hpq : p ≠ q := by
        rintro rfl
        exact FileTree.walk_takes hspot hs hp
      rw [FileTree.get?_insert_ne made hpq, hp]

/-! ### When a path can be written -/

/-- Nothing keeps a file from being written at a path: it is no path that the system refuses, no file
stands on its way, and no directory stands at it. -/
structure Open (t : FileTree) (path : String) : Prop where
  noNul : hasNul path = false
  size : path.utf8ByteSize ≤ maxPath
  clear : t.Clear [] (pathComponents path)
  noDir : t.get? (pathComponents path) ≠ some .dir

/-- A file that was written forward was written where nothing was in the way. -/
theorem open_of_written {made : FileTree} {b : Bytes} (hforward : ".." ∉ pathComponents p)
    (hnul : hasNul (tidyPath p) = false) (hadds : FileTree.Adds (pathComponents p).dropLast tree made)
    (hwrite : made.writeFile (tidyPath p) b = .ok tree') : Open tree (tidyPath p) := by
  obtain ⟨cs, hne, hnames, hpath⟩ := tidyPath_components hwrite
  have hcs : pathComponents p = cs := by
    rw [← pathComponents_tidyPath, hpath, pathComponents_intercalate hnames]
  obtain ⟨spot, q, hspot, hs, -⟩ := FileTree.writeFile_ok hwrite
  have hsize := FileTree.locate_size hspot
  rw [hpath] at hspot hsize
  rw [locate_intercalate hne hnames made hsize] at hspot
  rw [hcs] at hforward
  obtain ⟨hshort, hdirs, hend⟩ := FileTree.walk_forward hforward hspot
  refine ⟨hnul, hpath ▸ hsize, ?_, ?_⟩ <;> rw [pathComponents_tidyPath, hcs]
  · refine ⟨hshort, fun n hn b hfile => ?_⟩
    -- A file stays when directories are made, and the walk found directories only.
    have hdir := hdirs n hn
    rw [hadds.kept hfile] at hdir
    cases hdir
  · intro hdir
    have hq : q = cs := by
      rcases hend with rfl | ⟨e, rfl⟩ <;> cases hs <;> rfl
    subst hq
    exact FileTree.walk_takes hspot hs (hadds.kept hdir)

/-- Where nothing is in the way, the directories above are made and the file can be written. -/
theorem written_of_open (habs : isAbsolute p = false) (hforward : ".." ∉ pathComponents p)
    (h : Open tree (tidyPath p)) (b : Bytes) :
    ∃ made tree', tree.makeDirs (pathRoot (tidyPath p)) (parentOf (tidyPath p)) = (made, none) ∧
      made.writeFile (tidyPath p) b = .ok tree' := by
  have hnames : ∀ c ∈ pathComponents p, IsName c := fun c hc => isName_of_mem_pathComponents hc
  have hne : pathComponents p ≠ [] := by
    intro hnil
    apply h.noDir
    rw [pathComponents_tidyPath, hnil]
    rfl
  have hsize := h.size
  have hclear := h.clear
  have hnoDir := h.noDir
  rw [pathComponents_tidyPath] at hclear hnoDir
  rw [tidyPath_relative habs hne] at hsize ⊢
  rw [pathRoot_relative (isAbsolute_intercalate hne hnames), parentOf_intercalate hnames]
  obtain ⟨front, c, hcs⟩ := (List.eq_nil_or_concat' (pathComponents p)).resolve_left hne
  rw [hcs] at hnames hforward hsize hclear hnoDir ⊢
  rw [List.dropLast_concat]
  exact FileTree.writeFile_clear hnames hforward hsize hclear hnoDir b

/-- Where a path leads forward, a value is stored exactly if it has a text and the path is open. -/
theorem store_iff (habs : isAbsolute p = false) (hforward : ".." ∉ pathComponents p) :
    (∃ tree', store tree (tidyPath p) v = (tree', none)) ↔
      Json.obstacleAt 0 v = none ∧ Open tree (tidyPath p) := by
  constructor
  · intro h
    obtain ⟨tree', hstore⟩ := h
    have hstored := stored tree (tidyPath p) v
    rw [hstore] at hstored
    cases hstored with
    | @written made _ t hnul hmade ht hwrite =>
      have hadds := adds_parents (tidyPath p) tree
      rw [hmade, pathComponents_tidyPath] at hadds
      exact ⟨(Json.written_eq_ok_iff.mp ht).1, open_of_written hforward hnul hadds hwrite⟩
  · intro h
    obtain ⟨hnone, hopen⟩ := h
    have ht := Json.written_eq_ok_iff.mpr ⟨hnone, rfl⟩
    obtain ⟨made, tree', hmade, hwrite⟩ :=
      written_of_open habs hforward hopen (utf8Bytes v.text)
    refine ⟨tree', ?_⟩
    simp only [store, parentOf_noNul hopen.noNul, hmade, ht, hopen.noNul, toUTF8_ofList, hwrite,
      Bool.false_eq_true, if_false]

end

/-! ### Saving -/

/-- A directory with one file in it. -/
def loneFile : Desk := .ofTree ⟨[(["a"], .file [97])]⟩

end Excerpt.Settings
