import Excerpt.Settings
import Mathlib.Data.List.Basic

/-! Tidy paths and the files they lead to. A file that was written at a tidy path is found there,
and the directory it lies in needs no making. -/
namespace Excerpt

/-! ### Components -/

theorem splitSlash_cons {c : Char} (hc : c ≠ '/') {w : Text} {ws : List Text} {r : Text}
    (h : splitSlash r = w :: ws) : splitSlash (c :: r) = (c :: w) :: ws := by
  rw [splitSlash]
  · rw [h]
  · simpa using hc

theorem splitSlash_single {w : Text} (hw : '/' ∉ w) : splitSlash w = [w] := by
  induction w with
  | nil => rfl
  | cons c w ih =>
    rw [List.mem_cons, not_or] at hw
    exact splitSlash_cons (Ne.symm hw.1) (ih hw.2)

theorem splitSlash_append {w : Text} (hw : '/' ∉ w) (r : Text) :
    splitSlash (w ++ '/' :: r) = w :: splitSlash r := by
  induction w with
  | nil => rfl
  | cons c w ih =>
    rw [List.mem_cons, not_or] at hw
    exact splitSlash_cons (Ne.symm hw.1) (ih hw.2)

theorem slash_notMem_splitSlash (t : Text) : ∀ w ∈ splitSlash t, '/' ∉ w := by
  fun_induction splitSlash t with
  | case1 => simp
  | case2 r ih =>
    exact List.forall_mem_cons.mpr ⟨List.not_mem_nil, ih⟩
  | case3 c r hc _ _ =>
    rw [List.forall_mem_singleton, List.mem_singleton]
    rintro rfl
    exact hc rfl
  | case4 c r hc w ws hws ih =>
    rw [hws, List.forall_mem_cons] at ih
    refine List.forall_mem_cons.mpr ⟨?_, ih.2⟩
    rw [List.mem_cons, not_or]
    exact ⟨fun h => hc (h ▸ rfl), ih.1⟩

/-- The parts of a text hold no character that it does not. -/
theorem mem_splitSlash (t : Text) : ∀ w ∈ splitSlash t, ∀ c ∈ w, c ∈ t := by
  fun_induction splitSlash t with
  | case1 => simp
  | case2 r ih =>
    intro w hw c hc
    rcases List.mem_cons.mp hw with rfl | hw
    · cases hc
    · exact List.mem_cons_of_mem _ (ih w hw c hc)
  | case3 c r _ _ _ => simp
  | case4 c r _ w ws hws ih =>
    rw [hws] at ih
    intro w' hw' x hx
    rcases List.mem_cons.mp hw' with rfl | hw'
    · rcases List.mem_cons.mp hx with rfl | hx
      · exact List.mem_cons_self
      · exact List.mem_cons_of_mem _ (ih w List.mem_cons_self x hx)
    · exact List.mem_cons_of_mem _ (ih w' (List.mem_cons_of_mem _ hw') x hx)

theorem parentOf_noNul {s : String} (h : Settings.hasNul s = false) :
    (Settings.parentOf s).any Settings.hasNul = false := by
  rw [List.any_eq_false]
  intro c hc hnul
  have hmem : c ∈ pathComponents s := by
    rw [Settings.parentOf] at hc
    exact List.mem_reverse.mp (List.mem_of_mem_drop hc)
  simp only [pathComponents, List.mem_map, List.mem_filter] at hmem
  obtain ⟨w, ⟨hw, -⟩, rfl⟩ := hmem
  rw [Settings.hasNul, List.contains_iff_mem, String.toList_ofList] at hnul
  have hthere : Settings.hasNul s = true := by
    rw [Settings.hasNul, List.contains_iff_mem]
    exact mem_splitSlash _ w hw _ hnul
  rw [hthere] at h
  cases h

/-- A component that a tidy path keeps. -/
structure IsName (c : String) : Prop where
  noSlash : '/' ∉ c.toList
  ne_nil : c.toList ≠ []
  ne_dot : c.toList ≠ ['.']

theorem isName_of_mem_pathComponents {s c : String} (h : c ∈ pathComponents s) : IsName c := by
  simp only [pathComponents, List.mem_map, List.mem_filter] at h
  obtain ⟨w, ⟨hw, hkept⟩, rfl⟩ := h
  simp only [Bool.and_eq_true, Bool.not_eq_true', List.isEmpty_eq_false_iff, bne_iff_ne] at hkept
  refine ⟨?_, ?_, ?_⟩ <;> rw [String.toList_ofList]
  · exact slash_notMem_splitSlash _ w hw
  · exact hkept.1
  · exact hkept.2

theorem pathComponents_name {c : String} (hc : IsName c) : pathComponents c = [c] := by
  simp [pathComponents, splitSlash_single hc.noSlash, hc.ne_nil, hc.ne_dot]

theorem pathComponents_append {c : String} (hc : IsName c) (s : String) :
    pathComponents (c ++ "/" ++ s) = c :: pathComponents s := by
  simp [pathComponents, splitSlash_append hc.noSlash, hc.ne_nil, hc.ne_dot]

theorem pathComponents_intercalate {cs : List String} (h : ∀ c ∈ cs, IsName c) :
    pathComponents ("/".intercalate cs) = cs := by
  induction cs with
  | nil => rfl
  | cons c cs ih =>
    rw [List.forall_mem_cons] at h
    cases cs with
    | nil => rw [String.intercalate_singleton, pathComponents_name h.1]
    | cons d cs => rw [String.intercalate_cons_cons, pathComponents_append h.1, ih h.2]

theorem parentOf_intercalate {cs : List String} (h : ∀ c ∈ cs, IsName c) :
    Settings.parentOf ("/".intercalate cs) = cs.dropLast.reverse := by
  simp [Settings.parentOf, pathComponents_intercalate h]

/-! ### Paths made of components -/

/-- A path is no shorter than the path to a directory on its way. -/
theorem size_intercalate_append (cs ds : List String) :
    ("/".intercalate cs).utf8ByteSize ≤ ("/".intercalate (cs ++ ds)).utf8ByteSize := by
  by_cases hcs : cs = []
  · subst hcs
    exact Nat.zero_le _
  by_cases hds : ds = []
  · exact Nat.le_of_eq (by rw [hds, List.append_nil])
  · rw [String.intercalate_append_of_ne_nil hcs hds, String.utf8ByteSize_append,
      String.utf8ByteSize_append]
    omega

/-- The last component ends the path. -/
theorem intercalate_getLast {cs : List String} (hne : cs ≠ []) :
    ∃ t, ("/".intercalate cs).toList = t ++ (cs.getLast hne).toList := by
  induction cs with
  | nil => exact absurd rfl hne
  | cons c cs ih =>
    cases cs with
    | nil => exact ⟨[], by simp⟩
    | cons d cs =>
      obtain ⟨t, ht⟩ := ih (by simp)
      exact ⟨c.toList ++ '/' :: t, by simp [ht]⟩

section
variable {cs : List String} (hne : cs ≠ []) (hnames : ∀ c ∈ cs, IsName c)
include hne hnames

theorem isAbsolute_intercalate : isAbsolute ("/".intercalate cs) = false := by
  obtain ⟨c, cs, rfl⟩ := List.exists_cons_of_ne_nil hne
  have hc : IsName c := hnames c (by simp)
  obtain ⟨x, w, hw⟩ := List.exists_cons_of_ne_nil hc.ne_nil
  have hx : x ≠ '/' := by
    rintro rfl
    exact hc.noSlash (by simp [hw])
  cases cs with
  | nil => simp [isAbsolute, hw, hx]
  | cons d cs => simp [isAbsolute, hw, hx]

/-- Nothing at the end of the path asks for a directory. -/
theorem intercalate_end :
    (("/".intercalate cs).toList.getLast? == some '/' ||
      ("/".intercalate cs).toList.reverse.take 2 == ['.', '/']) = false := by
  obtain ⟨t, ht⟩ := intercalate_getLast hne
  have hc := hnames _ (List.getLast_mem hne)
  have hslash {x : Char} (hx : x ∈ (cs.getLast hne).toList.reverse) : x ≠ '/' := by
    rintro rfl
    exact hc.noSlash (List.mem_reverse.mp hx)
  rw [List.getLast?_eq_head?_reverse, ht, List.reverse_append]
  cases hw : (cs.getLast hne).toList.reverse with
  | nil => exact absurd (List.reverse_eq_nil_iff.mp hw) hc.ne_nil
  | cons x w =>
    have hx : x ≠ '/' := hslash (by simp [hw])
    cases w with
    | nil =>
      have hdot : x ≠ '.' := by
        rintro rfl
        exact hc.ne_dot (by simpa using congrArg List.reverse hw)
      simp [hx, hdot]
    | cons y w =>
      have hy : y ≠ '/' := hslash (by simp [hw])
      simp [hx, hy]

theorem intercalate_ne_empty : "/".intercalate cs ≠ "" := by
  obtain ⟨t, ht⟩ := intercalate_getLast hne
  intro h
  rw [h] at ht
  exact (hnames _ (List.getLast_mem hne)).ne_nil (List.append_eq_nil_iff.mp ht.symm).2

theorem locate_intercalate (t : FileTree) (hsize : ("/".intercalate cs).utf8ByteSize ≤ maxPath) :
    t.locate ("/".intercalate cs) = t.walk [] cs := by
  have hempty : ("/".intercalate cs == "") = false := by simpa using intercalate_ne_empty hne hnames
  simp only [FileTree.locate, hempty, isAbsolute_intercalate hne hnames,
    pathComponents_intercalate hnames, intercalate_end hne hnames, if_neg (Nat.not_lt.mpr hsize),
    Bool.false_eq_true, if_false]
  split <;> simp_all

end

/-! ### Files -/

namespace FileTree

variable {t : FileTree} {here cs : List String} {q : Path}

theorem get?_insert_self (t : FileTree) (hq : q ≠ []) (e : Entry) :
    (t.insert q e).get? q = some e := by
  obtain ⟨c, cs, rfl⟩ := List.exists_cons_of_ne_nil hq
  simp [get?, insert]

theorem get?_insert_ne (t : FileTree) {p : Path} (hpq : p ≠ q) (e : Entry) :
    (t.insert q e).get? p = t.get? p := by
  cases p with
  | nil => rfl
  | cons c p =>
    have hkept : (t.entries.filter fun r => r.1 != q).find? (fun r => r.1 == c :: p) =
        t.entries.find? fun r => r.1 == c :: p := by
      rw [List.find?_filter]
      congr 1
      funext r
      by_cases hr : r.1 = c :: p
      · simp [hr, hpq]
      · simp [hr]
    simp [get?, insert, Ne.symm hpq, hkept]

/-- Where a file can be written: at a file that is there, or at a free name. -/
inductive Takes : Spot → Path → Prop
  | file (q : Path) (b : Bytes) : Takes (.entry q (.file b)) q
  | free (q : Path) : Takes (.free q) q

theorem Takes.inside {spot : Spot} (hs : Takes spot q) : spot ≠ .outside := by
  rintro rfl
  cases hs

theorem writeFile_ok {s : String} {b : Bytes} {t' : FileTree} (h : t.writeFile s b = .ok t') :
    ∃ spot q, t.locate s = .ok spot ∧ Takes spot q ∧ t' = t.insert q (.file b) := by
  rw [writeFile] at h
  split at h
  · cases h
  · next q b' hspot =>
    cases h
    exact ⟨_, q, hspot, .file q b', rfl⟩
  · cases h
  · cases h
  · next q hspot =>
    cases h
    exact ⟨_, q, hspot, .free q, rfl⟩

theorem Takes.writeFile {s : String} {spot : Spot} (hs : Takes spot q) (h : t.locate s = .ok spot)
    (b : Bytes) : t.writeFile s b = .ok (t.insert q (.file b)) := by
  rw [FileTree.writeFile, h]
  cases hs <;> rfl

/-- A component that leads on does so in every tree that has the directory it starts from. -/
theorem walk_step {c : String} {spot : Spot} (h : t.walk here (c :: cs) = .ok spot)
    (hs : spot ≠ .outside) :
    t.get? here.reverse = some .dir ∧ ∃ next, t.walk next cs = .ok spot ∧
      ∀ (u : FileTree) (ds : List String), u.get? here.reverse = some .dir →
        u.walk here (c :: ds) = u.walk next ds := by
  unfold walk at h
  split at h
  · cases h
  · cases h
  · next hdir =>
    refine ⟨hdir, ?_⟩
    split at h
    · cases h
    · next hsize =>
      split at h
      · next hup =>
        split at h
        · split at h
          · cases h
            exact absurd rfl hs
          · cases h
        · next x up =>
          exact ⟨up, h, fun u ds hu => by simp only [walk, hu, if_neg hsize, hup, if_true]⟩
      · next hup => exact ⟨c :: here, h, fun u ds hu => by simp [walk, hu, hsize, hup]⟩

theorem walk_takes {spot : Spot} (h : t.walk here cs = .ok spot) (hs : Takes spot q) :
    t.get? q ≠ some .dir := by
  induction cs generalizing here with
  | nil =>
    rw [walk] at h
    split at h
    · next e he =>
      cases h
      cases hs with
      | file q b => simp [he]
    · next he =>
      cases h
      cases hs
      simp [he]
  | cons c cs ih =>
    obtain ⟨-, next, hnext, -⟩ := walk_step h hs.inside
    exact ih hnext

/-- The same walk finds the entry that was put where it ended. -/
theorem walk_insert {spot : Spot} (h : t.walk here cs = .ok spot) (hs : Takes spot q) (e : Entry) :
    (t.insert q e).walk here cs = .ok (.entry q e) := by
  have hq := walk_takes h hs
  induction cs generalizing here with
  | nil =>
    have hhere : here.reverse = q := by
      rw [walk] at h
      split at h <;> cases h <;> cases hs <;> rfl
    have hne : q ≠ [] := by
      rintro rfl
      exact hq rfl
    simp [walk, hhere, get?_insert_self t hne]
  | cons c cs ih =>
    obtain ⟨hdir, next, hnext, hstep⟩ := walk_step h hs.inside
    -- The walk goes through directories only, and none of them is where it ends.
    have hne : here.reverse ≠ q := fun hhere => hq (hhere ▸ hdir)
    rw [hstep _ cs ((get?_insert_ne t hne _).trans hdir), ih hnext]

/-- Where the walk without its last component ends there is a directory. -/
theorem walk_parent {c : String} {spot : Spot} (h : t.walk here (cs ++ [c]) = .ok spot)
    (hs : Takes spot q) : ∃ p, t.walk here cs = .ok (.entry p .dir) := by
  induction cs generalizing here with
  | nil =>
    obtain ⟨hdir, -⟩ := walk_step h hs.inside
    exact ⟨here.reverse, by simp [walk, hdir]⟩
  | cons d cs ih =>
    obtain ⟨hdir, next, hnext, hstep⟩ := walk_step h hs.inside
    obtain ⟨p, hp⟩ := ih hnext
    exact ⟨p, by rw [hstep t cs hdir, hp]⟩

theorem locate_absolute {s : String} {spot : Spot} (habs : isAbsolute s = true)
    (h : t.locate s = .ok spot) : ¬ Takes spot q := by
  intro hs
  simp only [locate, habs, if_true] at h
  split_ifs at h
  cases h
  cases hs

end FileTree

theorem isAbsolute_pathRoot {s : String} (h : isAbsolute s = true) (body : String) :
    isAbsolute (pathRoot s ++ body) = true := by
  obtain ⟨r, hr⟩ : ∃ r, s.toList = '/' :: r := by
    cases hs : s.toList with
    | nil => simp [isAbsolute, hs] at h
    | cons c r =>
      obtain rfl : c = '/' := by simpa [isAbsolute, hs] using h
      exact ⟨r, rfl⟩
  have hroot : pathRoot s = "//" ∨ pathRoot s = "/" := by
    simp only [pathRoot, hr, List.takeWhile_cons, beq_self_eq_true, if_true]
    split
    · next hnil => cases hnil
    · exact .inl rfl
    · exact .inr rfl
  rcases hroot with hroot | hroot <;> simp [isAbsolute, hroot]

theorem pathRoot_relative {s : String} (h : isAbsolute s = false) : pathRoot s = "" := by
  cases hs : s.toList with
  | nil => simp [pathRoot, hs]
  | cons c r =>
    have hc : c ≠ '/' := by simpa [isAbsolute, hs] using h
    simp [pathRoot, hs, hc]

/-- A tidy path that is not absolute and not the directory itself consists of its components. -/
theorem tidyPath_relative {p : String} (habs : isAbsolute p = false) (hne : pathComponents p ≠ []) :
    tidyPath p = "/".intercalate (pathComponents p) := by
  have hbody := intercalate_ne_empty hne fun c hc => isName_of_mem_pathComponents hc
  simp [tidyPath, habs, hbody]

/-- A tidy path that a file is written at is made of components. -/
theorem tidyPath_components {t t' : FileTree} {p : String} {b : Bytes}
    (h : t.writeFile (tidyPath p) b = .ok t') :
    ∃ cs, cs ≠ [] ∧ (∀ c ∈ cs, IsName c) ∧ tidyPath p = "/".intercalate cs := by
  obtain ⟨spot, q, hspot, hs, -⟩ := FileTree.writeFile_ok h
  have habs : isAbsolute p = false := by
    by_contra habs
    rw [Bool.not_eq_false] at habs
    rw [tidyPath, if_pos habs] at hspot
    exact FileTree.locate_absolute (isAbsolute_pathRoot habs _) hspot hs
  have hne : pathComponents p ≠ [] := by
    intro hnil
    have hhere : tidyPath p = "." := by
      rw [tidyPath, habs, hnil]
      rfl
    have htop : t.locate "." = .ok (.entry [] .dir) := rfl
    rw [hhere, htop] at hspot
    cases hspot
    cases hs
  exact ⟨_, hne, fun c hc => isName_of_mem_pathComponents hc, tidyPath_relative habs hne⟩

namespace FileTree

variable {t t' : FileTree} {s : String} {b : Bytes}

theorem locate_size {spot : Spot} (h : t.locate s = .ok spot) : s.utf8ByteSize ≤ maxPath := by
  by_contra hlong
  rw [locate] at h
  split_ifs at h
  all_goals omega

theorem makeDirs_there {root : String} {reversed : List String}
    (h : reversed ≠ [] →
      ∃ p, t.locate (root ++ "/".intercalate reversed.reverse) = .ok (.entry p .dir)) :
    t.makeDirs root reversed = (t, none) := by
  cases reversed with
  | nil => rfl
  | cons c up =>
    obtain ⟨p, hp⟩ := h (by simp)
    rw [makeDirs]
    simp only [makeDir, hp, isDir, if_true]

/-- The directory of a file needs no making. -/
theorem makeDirs_parent {cs : List String} {spot : Spot} {q : Path} (hne : cs ≠ [])
    (hnames : ∀ c ∈ cs, IsName c) (h : t.locate ("/".intercalate cs) = .ok spot)
    (hs : Takes spot q) :
    t.makeDirs (pathRoot ("/".intercalate cs)) (Settings.parentOf ("/".intercalate cs)) =
      (t, none) := by
  have hlast : cs.dropLast ++ [cs.getLast hne] = cs := List.dropLast_append_getLast hne
  have hsize := locate_size h
  rw [pathRoot_relative (isAbsolute_intercalate hne hnames), parentOf_intercalate hnames]
  refine makeDirs_there fun hup => ?_
  rw [ne_eq, List.reverse_eq_nil_iff] at hup
  have hsize' : ("/".intercalate cs.dropLast).utf8ByteSize ≤ maxPath := by
    have hfront := size_intercalate_append cs.dropLast [cs.getLast hne]
    rw [hlast] at hfront
    omega
  rw [List.reverse_reverse, String.empty_append, locate_intercalate hup
    (fun c hc => hnames c ((List.dropLast_subset cs) hc)) t hsize']
  rw [locate_intercalate hne hnames t hsize, ← hlast] at h
  exact walk_parent h hs

/-- The file at `s` has the content `b`, and its directory needs no making. -/
structure Holds (t : FileTree) (s : String) (b : Bytes) : Prop where
  located : ∃ q, t.locate s = .ok (.entry q (.file b))
  parent : t.makeDirs (pathRoot s) (Settings.parentOf s) = (t, none)

theorem holds_of_writeFile {p : String} (h : t.writeFile (tidyPath p) b = .ok t') :
    t'.Holds (tidyPath p) b := by
  obtain ⟨cs, hne, hnames, hpath⟩ := tidyPath_components h
  obtain ⟨spot, q, hspot, hs, rfl⟩ := writeFile_ok h
  rw [hpath] at hspot ⊢
  have hsize := locate_size hspot
  rw [locate_intercalate hne hnames t hsize] at hspot
  have hlocated : (t.insert q (.file b)).locate ("/".intercalate cs) =
      .ok (.entry q (.file b)) := by
    rw [locate_intercalate hne hnames _ hsize, walk_insert hspot hs (.file b)]
  exact ⟨⟨q, hlocated⟩, makeDirs_parent hne hnames hlocated (.file q b)⟩

theorem Holds.readFile (h : t.Holds s b) : t.readFile s = .ok b := by
  obtain ⟨q, hq⟩ := h.located
  simp only [FileTree.readFile, hq]

theorem Holds.writeFile (h : t.Holds s b) (b' : Bytes) : ∃ t', t.writeFile s b' = .ok t' := by
  obtain ⟨q, hq⟩ := h.located
  exact ⟨t.insert q (.file b'), (Takes.file q b).writeFile hq b'⟩

end FileTree

end Excerpt
