import Excerpt.Proofs.Paths

/-! Making directories. Whatever comes of it, an entry that was there stays as it is, and what is new is
a directory on the way. With nothing in the way all of the directories are there in the end. -/
namespace Excerpt.FileTree

section
variable {t t' u : FileTree} {here cs : List String} {q : Path}

/-! ### Walks -/

/-- Where a walk ends there are no components left. -/
theorem walk_end {spot : Spot} (h : t.walk here cs = .ok spot) (hs : spot ≠ .outside) :
    ∃ last, t.walk last [] = .ok spot := by
  induction cs generalizing here with
  | nil => exact ⟨here, h⟩
  | cons c cs ih =>
    obtain ⟨-, next, hnext, -⟩ := walk_step h hs
    exact ih hnext

theorem walk_entry {e : Entry} (h : t.walk here cs = .ok (.entry q e)) : t.get? q = some e := by
  obtain ⟨last, hlast⟩ := walk_end h (by simp)
  rw [walk] at hlast
  split at hlast
  · next he =>
    cases hlast
    exact he
  · cases hlast

theorem walk_free (h : t.walk here cs = .ok (.free q)) : t.get? q = none := by
  obtain ⟨last, hlast⟩ := walk_end h (by simp)
  rw [walk] at hlast
  split at hlast
  · cases hlast
  · next he =>
    cases hlast
    exact he

/-- As long as directories stay, a walk that ends at one ends there. -/
theorem walk_keeps (hkeeps : ∀ p, t.get? p = some .dir → t'.get? p = some .dir)
    (h : t.walk here cs = .ok (.entry q .dir)) : t'.walk here cs = .ok (.entry q .dir) := by
  induction cs generalizing here with
  | nil =>
    have hq : here.reverse = q := by
      rw [walk] at h
      split at h <;> cases h
      rfl
    subst hq
    rw [walk, hkeeps _ (walk_entry h)]
  | cons c cs ih =>
    obtain ⟨hdir, next, hnext, hstep⟩ := walk_step h (by simp)
    rw [hstep t' cs (hkeeps _ hdir)]
    exact ih hnext

/-- A walk goes on from the directory that its first part leads to. -/
theorem walk_append (h : t.walk here cs = .ok (.entry q .dir)) (ds : List String) :
    t.walk here (cs ++ ds) = t.walk q.reverse ds := by
  induction cs generalizing here with
  | nil =>
    have hq : here.reverse = q := by
      rw [walk] at h
      split at h <;> cases h
      rfl
    rw [List.nil_append, ← hq, List.reverse_reverse]
  | cons c cs ih =>
    obtain ⟨hdir, next, hnext, hstep⟩ := walk_step h (by simp)
    rw [List.cons_append, hstep t (cs ++ ds) hdir]
    exact ih hnext

/-! ### What is added -/

/-- Some of the first components lead to the directory `q`. -/
def LeadsTo (t : FileTree) (cs : List String) (q : Path) : Prop :=
  ∃ n ≤ cs.length, t.walk [] (cs.take n) = .ok (.entry q .dir)

/-- Every entry stays, and what is new is a directory, to which some of the first components lead. -/
def Adds (cs : List String) (t t' : FileTree) : Prop :=
  ∀ q, t'.get? q = t.get? q ∨ t.get? q = none ∧ t'.LeadsTo cs q

theorem LeadsTo.dir (h : t.LeadsTo cs q) : t.get? q = some .dir := by
  obtain ⟨n, -, hwalk⟩ := h
  exact walk_entry hwalk

theorem LeadsTo.keeps (hkeeps : ∀ p, t.get? p = some .dir → t'.get? p = some .dir)
    (h : t.LeadsTo cs q) : t'.LeadsTo cs q := by
  obtain ⟨n, hn, hwalk⟩ := h
  exact ⟨n, hn, walk_keeps hkeeps hwalk⟩

theorem LeadsTo.mono {ds : List String} (h : t.LeadsTo ds q) (hstart : ds <+: cs) :
    t.LeadsTo cs q := by
  obtain ⟨n, hn, hwalk⟩ := h
  obtain ⟨more, rfl⟩ := hstart
  refine ⟨n, by rw [List.length_append]; omega, ?_⟩
  rwa [List.take_append_of_le_length hn]

theorem Adds.refl (cs : List String) (t : FileTree) : Adds cs t t := fun _ => Or.inl rfl

theorem Adds.kept (h : Adds cs t t') {e : Entry} (he : t.get? q = some e) : t'.get? q = some e := by
  rcases h q with hsame | ⟨hnone, -⟩
  · rw [hsame, he]
  · rw [hnone] at he
    cases he

theorem Adds.trans (h : Adds cs t t') (h' : Adds cs t' u) : Adds cs t u := by
  intro q
  rcases h' q with hsame' | ⟨hnone', hleads'⟩
  · rw [hsame']
    refine (h q).imp_right fun ⟨hnone, hleads⟩ => ⟨hnone, ?_⟩
    exact hleads.keeps fun p hp => h'.kept hp
  · rcases h q with hsame | ⟨-, hleads⟩
    · exact Or.inr ⟨hsame ▸ hnone', hleads'⟩
    · rw [hleads.dir] at hnone'
      cases hnone'

theorem Adds.mono {ds : List String} (h : Adds ds t t') (hstart : ds <+: cs) : Adds cs t t' :=
  fun q => (h q).imp_right fun ⟨hnone, hleads⟩ => ⟨hnone, hleads.mono hstart⟩

/-- The files are the same, all of them and with their content. -/
theorem Adds.file_iff (h : Adds cs t t') {b : Bytes} :
    t'.get? q = some (.file b) ↔ t.get? q = some (.file b) := by
  constructor
  · intro hfile
    rcases h q with hsame | ⟨-, hleads⟩
    · rwa [← hsame]
    · rw [hleads.dir] at hfile
      cases hfile
  · exact h.kept

/-! ### Making one directory -/

theorem makeDir_ok {s : String} (h : t.makeDir s = .ok t') :
    ∃ q, t.locate s = .ok (.free q) ∧ t' = t.insert q .dir := by
  rw [makeDir] at h
  split at h
  · cases h
  · cases h
  · cases h
  · next q hfree =>
    cases h
    exact ⟨q, hfree, rfl⟩

/-- A directory that is made stands at the end of its walk, and nothing else changes. -/
theorem adds_makeDir (hne : cs ≠ []) (hnames : ∀ c ∈ cs, IsName c)
    (h : t.makeDir ("/".intercalate cs) = .ok t') :
    Adds cs t t' ∧ ∃ q, t'.walk [] cs = .ok (.entry q .dir) := by
  obtain ⟨q, hfree, rfl⟩ := makeDir_ok h
  rw [locate_intercalate hne hnames t (locate_size hfree)] at hfree
  have hthere := walk_insert hfree (.free q) .dir
  refine ⟨fun p => ?_, q, hthere⟩
  by_cases hpq : p = q
  · subst hpq
    refine Or.inr ⟨walk_free hfree, cs.length, Nat.le_refl _, ?_⟩
    rwa [List.take_length]
  · exact Or.inl (get?_insert_ne t hpq .dir)

/-! ### Making all that are missing -/

/-- What making one directory does to a tree, making all of them does: they are made one by one, each
at a start of the path. -/
theorem makeDirs_rel {R : FileTree → FileTree → Prop} (hrefl : ∀ t, R t t)
    (htrans : ∀ t t' u, R t t' → R t' u → R t u) {root : String} {reversed : List String}
    (hmake : ∀ ds t t', ds ≠ [] → ds <:+ reversed →
      t.makeDir (root ++ "/".intercalate ds.reverse) = .ok t' → R t t') (t : FileTree) :
    R t (t.makeDirs root reversed).1 := by
  induction reversed with
  | nil => exact hrefl t
  | cons c up ih =>
    have hup := ih fun ds t t' hne hsuffix => hmake ds t t' hne (hsuffix.trans (List.suffix_cons c up))
    have hlast (t t' : FileTree) := hmake (c :: up) t t' (by simp) List.suffix_rfl
    rw [makeDirs]
    rcases hmade : t.makeDir (root ++ "/".intercalate (c :: up).reverse) with e | t'
    swap
    · exact hlast t t' hmade
    cases e with
    | notFound =>
      dsimp only
      rcases hrun : t.makeDirs root up with ⟨t₁, _ | e⟩
      swap
      · rwa [hrun] at hup
      -- The directories above are there now, and the last one is tried again.
      rw [hrun] at hup
      dsimp only [makeDirs.makeLast]
      rcases hmade' : t₁.makeDir (root ++ "/".intercalate (c :: up).reverse) with e | t₂
      · exact hup
      · exact htrans t t₁ t₂ hup (hlast t₁ t₂ hmade')
    | _ => exact hrefl t

/-- Nothing is made along an absolute path. -/
theorem makeDirs_absolute {root : String} (habs : ∀ body, isAbsolute (root ++ body) = true)
    (reversed : List String) (t : FileTree) : (t.makeDirs root reversed).1 = t := by
  refine makeDirs_rel (R := fun t t' => t' = t) (fun _ => rfl) (fun _ _ _ h h' => h'.trans h) ?_ t
  intro ds t t' _ _ hmade
  obtain ⟨q, hfree, -⟩ := makeDir_ok hmade
  exact absurd (.free q) (locate_absolute (habs _) hfree)

/-- Along any other path directories are added on the way, and that is all. -/
theorem adds_makeDirs {reversed : List String} (hnames : ∀ c ∈ reversed, IsName c) (t : FileTree) :
    Adds reversed.reverse t (t.makeDirs "" reversed).1 := by
  apply makeDirs_rel (Adds.refl _) fun _ _ _ => Adds.trans
  intro ds t t' hne hsuffix hmade
  rw [String.empty_append] at hmade
  have hnames' : ∀ c ∈ ds.reverse, IsName c := fun c hc =>
    hnames c (hsuffix.subset (List.mem_reverse.mp hc))
  have hadds := (adds_makeDir (by simpa using hne) hnames' hmade).1
  exact hadds.mono (List.reverse_prefix.mpr hsuffix)

/-! ### A clear way -/

/-- No name on the way from `here` is too long, and no file stands where it passes. -/
structure Clear (t : FileTree) (here cs : List String) : Prop where
  short : ∀ c ∈ cs, c.utf8ByteSize ≤ maxName
  through : ∀ n < cs.length, ∀ b, t.get? (here.reverse ++ cs.take n) ≠ some (.file b)

/-- A walk that leads forward only passes through the starts of its path, which are directories, and
ends at the path. -/
theorem walk_forward {spot : Spot} (hforward : ".." ∉ cs) (h : t.walk here cs = .ok spot) :
    (∀ c ∈ cs, c.utf8ByteSize ≤ maxName) ∧
      (∀ n < cs.length, t.get? (here.reverse ++ cs.take n) = some .dir) ∧
      (spot = .free (here.reverse ++ cs) ∨ ∃ e, spot = .entry (here.reverse ++ cs) e) := by
  induction cs generalizing here with
  | nil =>
    refine ⟨by simp, by simp, ?_⟩
    rw [List.append_nil]
    rw [walk] at h
    split at h
    · next e _ =>
      cases h
      exact Or.inr ⟨e, rfl⟩
    · cases h
      exact Or.inl rfl
  | cons c cs ih =>
    rw [List.mem_cons, not_or] at hforward
    have hup : (c == "..") = false := by simpa using Ne.symm hforward.1
    unfold walk at h
    split at h
    · cases h
    · cases h
    · next hdir =>
      by_cases hsize : c.utf8ByteSize > maxName
      · rw [if_pos hsize] at h
        cases h
      · rw [if_neg hsize, if_neg (by simp [hup])] at h
        obtain ⟨hshort, hdirs, hspot⟩ := ih hforward.2 h
        have hpath (ds : List String) : (c :: here).reverse ++ ds = here.reverse ++ c :: ds := by simp
        rw [hpath] at hspot
        refine ⟨List.forall_mem_cons.mpr ⟨by omega, hshort⟩, ?_, hspot⟩
        intro n hn
        cases n with
        | zero => rwa [List.take_zero, List.append_nil]
        | succ n =>
          rw [List.take_succ_cons, ← hpath]
          exact hdirs n (by simpa using hn)

/-- Components that lead forward lead to a start of their path. -/
theorem LeadsTo.start (hforward : ".." ∉ cs) (h : t.LeadsTo cs q) : q <+: cs := by
  obtain ⟨n, -, hwalk⟩ := h
  have hforward' : ".." ∉ cs.take n := fun hmem => hforward (List.mem_of_mem_take hmem)
  obtain ⟨-, -, hfree | ⟨e, hentry⟩⟩ := walk_forward hforward' hwalk
  · cases hfree
  · cases hentry
    exact List.take_prefix n cs

/-- On a clear way a walk gets to its end, or to a directory that is missing. -/
theorem walk_clear (hforward : ".." ∉ cs) (h : t.Clear here cs) :
    (∃ spot, t.walk here cs = .ok spot) ∨ t.walk here cs = .error .notFound := by
  induction cs generalizing here with
  | nil =>
    rw [walk]
    split
    · exact Or.inl ⟨_, rfl⟩
    · exact Or.inl ⟨_, rfl⟩
  | cons c cs ih =>
    rw [List.mem_cons, not_or] at hforward
    have hsize : ¬ c.utf8ByteSize > maxName := Nat.not_lt.mpr (h.short c (by simp))
    have hup : (c == "..") = false := by simpa using Ne.symm hforward.1
    have hnofile (b : Bytes) : t.get? here.reverse ≠ some (.file b) := by
      simpa using h.through 0 (by simp) b
    unfold walk
    split
    · exact Or.inr rfl
    · next b hb => exact absurd hb (hnofile b)
    · rw [if_neg hsize, if_neg (by simp [hup])]
      apply ih hforward.2
      refine ⟨fun x hx => h.short x (List.mem_cons_of_mem _ hx), fun n hn b => ?_⟩
      have hnext := h.through (n + 1) (by simpa using hn) b
      simpa using hnext

theorem clear_front {c : String} (h : t.Clear [] (cs ++ [c])) : t.Clear [] cs := by
  refine ⟨fun x hx => h.short x (List.mem_append_left _ hx), fun n hn b => ?_⟩
  have hthrough := h.through n (by rw [List.length_append]; omega) b
  rwa [List.take_append_of_le_length (Nat.le_of_lt hn)] at hthrough

theorem clear_last {c : String} (h : t.Clear [] (cs ++ [c])) (b : Bytes) :
    t.get? cs ≠ some (.file b) := by
  simpa using h.through cs.length (by simp) b

/-- One name further than a directory there is something, or a free name. -/
theorem walk_concat {c : String} (hthere : t.walk [] cs = .ok (.entry cs .dir))
    (hshort : c.utf8ByteSize ≤ maxName) (hup : c ≠ "..") :
    ∃ spot, t.walk [] (cs ++ [c]) = .ok spot := by
  have hdir : t.get? cs.reverse.reverse = some .dir := by
    rw [List.reverse_reverse]
    exact walk_entry hthere
  have hbeq : (c == "..") = false := by simpa using hup
  rw [walk_append hthere]
  unfold walk
  simp only [hdir, hbeq, if_neg (Nat.not_lt.mpr hshort), Bool.false_eq_true, if_false]
  rw [walk]
  split
  · exact ⟨_, rfl⟩
  · exact ⟨_, rfl⟩

section
variable (hne : cs ≠ []) (hnames : ∀ c ∈ cs, IsName c) (hforward : ".." ∉ cs)
  (hsize : ("/".intercalate cs).utf8ByteSize ≤ maxPath)
include hne hnames hforward hsize

/-- Where a walk gets to its end and finds no file, there is a directory in the end: it was there, or
it can be made. -/
theorem makeDir_walked {spot : Spot} (h : t.walk [] cs = .ok spot)
    (hend : ∀ b, t.get? cs ≠ some (.file b)) :
    (∃ t', t.makeDir ("/".intercalate cs) = .ok t' ∧ t'.walk [] cs = .ok (.entry cs .dir)) ∨
      t.makeDir ("/".intercalate cs) = .error .alreadyThere ∧
        t.isDir ("/".intercalate cs) = true ∧ t.walk [] cs = .ok (.entry cs .dir) := by
  have hlocate := locate_intercalate hne hnames t hsize
  obtain ⟨-, -, rfl | ⟨e, rfl⟩⟩ := walk_forward hforward h
  · refine Or.inl ⟨t.insert cs .dir, ?_, walk_insert h (.free cs) .dir⟩
    rw [makeDir, hlocate, h]
    rfl
  · have hthere := walk_entry h
    cases e with
    | file b => exact absurd hthere (hend b)
    | dir =>
      refine Or.inr ⟨?_, ?_, h⟩
      · rw [makeDir, hlocate, h]
      · rw [isDir, hlocate, h]

end

/-- With nothing in the way, all directories along a path are there in the end. -/
theorem makeDirs_clear {reversed : List String} (hnames : ∀ c ∈ reversed, IsName c)
    (hforward : ".." ∉ reversed) (hclear : t.Clear [] reversed.reverse)
    (hend : ∀ b, t.get? reversed.reverse ≠ some (.file b))
    (hsize : ("/".intercalate reversed.reverse).utf8ByteSize ≤ maxPath) :
    ∃ t', t.makeDirs "" reversed = (t', none) ∧
      t'.walk [] reversed.reverse = .ok (.entry reversed.reverse .dir) := by
  induction reversed with
  | nil => exact ⟨t, rfl, rfl⟩
  | cons c up ih =>
    have hne : (c :: up).reverse ≠ [] := by simp
    have hnames' : ∀ x ∈ (c :: up).reverse, IsName x := fun x hx =>
      hnames x (List.mem_reverse.mp hx)
    have hforward' : ".." ∉ (c :: up).reverse := by rwa [List.mem_reverse]
    have hlocate (u : FileTree) := locate_intercalate hne hnames' u hsize
    have hmade {u : FileTree} {spot : Spot} := @makeDir_walked u _ hne hnames' hforward' hsize spot
    rw [makeDirs, String.empty_append]
    rcases walk_clear hforward' hclear with ⟨spot, hwalk⟩ | hmissing
    · rcases hmade hwalk hend with ⟨t', hok, hthere⟩ | ⟨herror, hdir, hthere⟩
      · exact ⟨t', by rw [hok], hthere⟩
      · exact ⟨t, by simp only [herror, hdir, if_true], hthere⟩
    · -- A directory above is missing. Once all above are there, the walk gets to its end.
      have herror : t.makeDir ("/".intercalate (c :: up).reverse) = .error .notFound := by
        rw [makeDir, hlocate, hmissing]
      have hlast : (c :: up).reverse = up.reverse ++ [c] := List.reverse_cons
      rw [List.mem_cons, not_or] at hforward
      rw [hlast] at hclear
      obtain ⟨t₁, hrun, hthere⟩ := ih (fun x hx => hnames x (List.mem_cons_of_mem _ hx)) hforward.2
        (clear_front hclear) (clear_last hclear) (by
          have hfront := size_intercalate_append up.reverse [c]
          rw [← hlast] at hfront
          omega)
      have hadds := adds_makeDirs (fun x hx => hnames x (List.mem_cons_of_mem _ hx)) t
      rw [hrun] at hadds
      have hend' (b : Bytes) : t₁.get? (c :: up).reverse ≠ some (.file b) := by
        rw [ne_eq, hadds.file_iff]
        exact hend b
      obtain ⟨spot, hwalk⟩ := walk_concat hthere (hclear.short c (by simp)) (Ne.symm hforward.1)
      rw [← hlast] at hwalk
      simp only [herror, hrun]
      rcases hmade hwalk hend' with ⟨t', hok, hthere'⟩ | ⟨herror', hdir, hthere'⟩
      · exact ⟨t', by rw [makeDirs.makeLast, hok], hthere'⟩
      · exact ⟨t₁, by simp only [makeDirs.makeLast, herror', hdir, if_true], hthere'⟩

/-- Once the directories above are there, a file can be written where no directory was. -/
theorem takes_made {c : String} (hforward : ".." ∉ cs ++ [c]) (hshort : c.utf8ByteSize ≤ maxName)
    (hadds : Adds cs t t') (hthere : t'.walk [] cs = .ok (.entry cs .dir))
    (hnoDir : t.get? (cs ++ [c]) ≠ some .dir) :
    ∃ spot, t'.walk [] (cs ++ [c]) = .ok spot ∧ Takes spot (cs ++ [c]) := by
  have hup : c ≠ ".." := by
    rintro rfl
    exact hforward (by simp)
  obtain ⟨spot, hspot⟩ := walk_concat hthere hshort hup
  refine ⟨spot, hspot, ?_⟩
  obtain ⟨-, -, rfl | ⟨e, rfl⟩⟩ := walk_forward hforward hspot
  · exact .free _
  · cases e with
    | file b => exact .file _ b
    | dir =>
      -- The directories that were made are above the path.
      rcases hadds (cs ++ [c]) with hsame | ⟨-, hleads⟩
      · exact absurd (hsame ▸ walk_entry hspot) hnoDir
      · have hforward' : ".." ∉ cs := fun hmem => hforward (List.mem_append_left _ hmem)
        have hlong := (hleads.start hforward').length_le
        rw [List.length_append, List.length_singleton] at hlong
        omega

/-- With nothing in the way and no directory at its end, a file can be written along a path once the
directories above it have been made. -/
theorem writeFile_clear {c : String} (hnames : ∀ x ∈ cs ++ [c], IsName x) (hforward : ".." ∉ cs ++ [c])
    (hsize : ("/".intercalate (cs ++ [c])).utf8ByteSize ≤ maxPath) (hclear : t.Clear [] (cs ++ [c]))
    (hnoDir : t.get? (cs ++ [c]) ≠ some .dir) (b : Bytes) :
    ∃ made t', t.makeDirs "" cs.reverse = (made, none) ∧
      made.writeFile ("/".intercalate (cs ++ [c])) b = .ok t' := by
  have hnames' : ∀ x ∈ cs.reverse, IsName x := fun x hx =>
    hnames x (List.mem_append_left _ (List.mem_reverse.mp hx))
  have hforward' : ".." ∉ cs.reverse := fun hmem =>
    hforward (List.mem_append_left _ (List.mem_reverse.mp hmem))
  have hfront := size_intercalate_append cs [c]
  have hadds := adds_makeDirs hnames' t
  obtain ⟨made, hmade, hthere⟩ := @makeDirs_clear t cs.reverse hnames' hforward'
    (by simpa using clear_front hclear) (by simpa using clear_last hclear)
    (by rw [List.reverse_reverse]; omega)
  rw [List.reverse_reverse] at hadds hthere
  rw [hmade] at hadds
  obtain ⟨spot, hspot, hs⟩ := takes_made hforward (hclear.short c (by simp)) hadds hthere hnoDir
  rw [← locate_intercalate (by simp) hnames made hsize] at hspot
  exact ⟨made, _, hmade, hs.writeFile hspot b⟩

end

end Excerpt.FileTree
