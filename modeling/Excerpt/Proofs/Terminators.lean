import Excerpt.Proofs.BeyondEnd
import Excerpt.Proofs.Blocks
import Excerpt.Proofs.InStep

/-! Python units and the terminators of lines. Rows with one terminator and the same rows with another
are asked the same questions, and each question but one is about what stands in front of the
terminators. The exception is where blocks open: that is decided on a cut at line feeds, which does
not see rows that end in a lone return. -/
namespace Excerpt

/-! ### Rows of rows -/

section
variable {e e' : Eol} {bodies : List Text} {last : Text}

theorem rows_length : (rows e bodies last).length = (rows e' bodies last).length := by
  simp only [rows, List.length_append, List.length_map]

/-- The first rows are rows again, of the same bodies with every terminator. -/
theorem rows_take (h : Bare bodies last) (k : ℕ) :
    ∃ bodies' last', Bare bodies' last' ∧ ∀ e, (rows e bodies last).take k = rows e bodies' last' := by
  have hbodies : ∀ b ∈ bodies.take k, Unbroken b := fun b hb => h.bodies b (List.mem_of_mem_take hb)
  have hone := lines_noBreak_length h.last.1
  rcases le_or_gt k bodies.length with hk | hk
  · refine ⟨bodies.take k, [], ⟨hbodies, unbroken_nil⟩, fun e => ?_⟩
    rw [rows, rows, List.take_append_of_le_length (by rwa [List.length_map]), ← List.map_take]
    exact (List.append_nil _).symm
  · refine ⟨bodies.take k, last, ⟨hbodies, h.last⟩, fun e => ?_⟩
    rw [rows, rows, List.take_append, List.length_map, ← List.map_take,
      List.take_of_length_le (by omega : (lines last).length ≤ k - bodies.length)]

/-- So are the rows behind them. -/
theorem rows_drop (h : Bare bodies last) (k : ℕ) :
    ∃ bodies' last', Bare bodies' last' ∧ ∀ e, (rows e bodies last).drop k = rows e bodies' last' := by
  have hbodies : ∀ b ∈ bodies.drop k, Unbroken b := fun b hb => h.bodies b (List.mem_of_mem_drop hb)
  have hone := lines_noBreak_length h.last.1
  rcases le_or_gt k bodies.length with hk | hk
  · refine ⟨bodies.drop k, last, ⟨hbodies, h.last⟩, fun e => ?_⟩
    rw [rows, rows, List.drop_append_of_le_length (by rwa [List.length_map]), ← List.map_drop]
  · refine ⟨bodies.drop k, [], ⟨hbodies, unbroken_nil⟩, fun e => ?_⟩
    rw [rows, rows, List.drop_append, List.length_map, ← List.map_drop,
      List.drop_eq_nil_of_le (by omega : (lines last).length ≤ k - bodies.length)]
    rfl

theorem dropBreak_unbroken {b : Text} (h : Unbroken b) : dropBreak b = b := by
  have happend : dropBreak (b ++ []) = b ++ [] := dropBreak_append h []
  rwa [List.append_nil] at happend

theorem dropBreak_row {b : Text} (h : Unbroken b) : dropBreak (b ++ e.text) = b := by
  rw [dropBreak_append h]
  cases e <;> exact List.append_nil b

/-- Without their terminators, rows are the bodies and the open line. -/
theorem bareLines_rows (h : Bare bodies last) :
    bareLines (rows e bodies last).flatten = bodies ++ lines last := by
  rw [bareLines_ruled (ruled_rows h), rows, List.map_append, List.map_map]
  have hbodies : bodies.map (dropBreak ∘ (· ++ e.text)) = bodies.map id :=
    List.map_congr_left fun b hb => dropBreak_row (h.bodies b hb)
  have hlast : (lines last).map dropBreak = lines last := by
    rw [lines_noBreak h.last.1]
    split_ifs
    · rfl
    · rw [List.map_singleton, dropBreak_unbroken h.last]
  rw [hbodies, List.map_id, hlast]

end

/-! ### Taking the margin off rows -/

theorem isBlankLine_eol (e : Eol) : isBlankLine e.text = true := by
  cases e <;> decide

/-- A terminator is found behind any text without terminators, never in it. -/
theorem after?_eol {p : Text} (hp : NoBreak p) (b : Text) (e : Eol) :
    after? p (b ++ e.text) = (after? p b).map (· ++ e.text) := by
  induction p generalizing b with
  | nil => rfl
  | cons c p ih =>
    have hc := hp c (by simp)
    cases b with
    | nil =>
      obtain ⟨x, t, he, hx⟩ := eol_head e
      have hcx : (c == x) = false := by
        rcases hx with rfl | rfl
        · exact beq_false_of_ne hc.1
        · exact beq_false_of_ne hc.2
      rw [List.nil_append, he]
      simp [after?, hcx]
    | cons d b =>
      rw [List.cons_append, after?, after?, ih fun x hx => hp x (List.mem_cons_of_mem _ hx)]
      split_ifs <;> rfl

theorem marginBy_noBreak (first : Text) : NoBreak (marginBy first) :=
  (indent_unbroken fun _ hc => marginBy_isIndent hc).1

theorem marginBy_eol (b : Text) (e : Eol) : marginBy (b ++ e.text) = marginBy b := by
  have hindent : indentOf (b ++ e.text) = indentOf b := takeWhile_eol ⟨rfl, rfl⟩ b e
  rw [marginBy, marginBy, isBlankLine_append, isBlankLine_eol, Bool.and_true, hindent]

theorem outdent_eol {margin : Text} (hm : NoBreak margin) (b : Text) (e : Eol) :
    outdent margin (b ++ e.text) = outdent margin b ++ e.text := by
  rw [outdent, outdent, after?_eol hm]
  rcases after? margin b with _ | r <;> rfl

theorem outdent_empty (margin : Text) : outdent margin [] = [] := by
  cases margin <;> rfl

theorem outdent_suffix (margin b : Text) : outdent margin b <:+ b := by
  rw [outdent]
  rcases h : after? margin b with _ | r
  · exact List.suffix_rfl
  · exact ⟨margin, (after?_eq_some.mp h).symm⟩

section
variable {e e' : Eol} {bodies : List Text} {last : Text}

theorem bare_outdent (h : Bare bodies last) (margin : Text) :
    Bare (bodies.map (outdent margin)) (outdent margin last) := by
  refine ⟨?_, unbroken_suffix h.last (outdent_suffix margin last)⟩
  intro line hline
  obtain ⟨b, hb, rfl⟩ := List.mem_map.mp hline
  exact unbroken_suffix (h.bodies b hb) (outdent_suffix margin b)

/-- The first line sets the margin, and the terminators set nothing. -/
theorem dedent_rows (h : Bare bodies last) :
    ∃ bodies' last', Bare bodies' last' ∧
      ∀ e, Python.dedent (rows e bodies last).flatten = (rows e bodies' last').flatten := by
  let margin := marginBy ((bodies ++ lines last).headD [])
  refine ⟨bodies.map (outdent margin), outdent margin last, bare_outdent h margin, fun e => ?_⟩
  have hmargin : marginBy ((rows e bodies last).headD []) = margin := by
    cases bodies with
    | nil => rfl
    | cons b bodies => exact marginBy_eol b e
  have hlast : ((lines last).map (outdent margin)).flatten = outdent margin last := by
    rw [lines_noBreak h.last.1]
    split_ifs with hempty
    · rw [hempty, outdent_empty]
      rfl
    · -- An open line that is all margin is gone, and with it its row; the text does not show that.
      simp
  have hbodies : (bodies.map (· ++ e.text)).map (outdent margin) =
      (bodies.map (outdent margin)).map (· ++ e.text) := by
    rw [List.map_map, List.map_map]
    exact List.map_congr_left fun b _ => outdent_eol (marginBy_noBreak _) b e
  rw [dedent_ruled (ruled_rows h), hmargin, rows, rows, List.map_append, List.flatten_append,
    List.flatten_append, hbodies, hlast, lines_flatten]

end

/-! ### The line behind a candidate -/

/-- A line that is not blank keeps its terminator when its blank front is taken off. -/
theorem trimStart_eol {b : Text} (h : isBlankLine b = false) (e : Eol) :
    trimStart (b ++ e.text) = trimStart b ++ e.text ∧ trimStart b ≠ [] := by
  have hne : trimStart b ≠ [] := by
    rw [trimStart, ne_eq, List.dropWhile_eq_nil_iff, ← List.all_eq_true]
    exact Bool.eq_false_iff.mp h
  have hsome : ¬ (b.dropWhile isBlank).isEmpty = true := fun hnil => hne (List.isEmpty_iff.mp hnil)
  refine ⟨?_, hne⟩
  rw [trimStart, List.dropWhile_append, if_neg hsome]
  rfl

theorem continuations_noBreak : ∀ w ∈ Python.continuations, NoBreak w := by
  decide

/-- A word that goes on with a statement may be closed by a terminator. -/
theorem continuesSuite_eol {b : Text} (h : isBlankLine b = false) (e : Eol) :
    Python.continuesSuite (b ++ e.text) = Python.continuesSuite b := by
  obtain ⟨htrim, hne⟩ := trimStart_eol h e
  rw [Python.continuesSuite, Python.continuesSuite, htrim]
  obtain ⟨c, t, ht⟩ := List.exists_cons_of_ne_nil hne
  rw [ht]
  congr 1
  rw [Bool.eq_iff_iff, List.any_eq_true, List.any_eq_true]
  refine exists_congr fun w => and_congr_right fun hw => ?_
  rw [after?_eol (continuations_noBreak w hw)]
  rcases after? w (c :: t) with _ | _ | ⟨d, r⟩
  · rfl
  · -- The word ends the line, and the terminator ends the word.
    cases e <;> rfl
  · rfl

theorem closesSuite_eol (first b : Text) (e : Eol) :
    Python.closesSuite first (some (b ++ e.text)) = Python.closesSuite first (some b) := by
  have hblank : isBlankLine (b ++ e.text) = isBlankLine b := by
    rw [isBlankLine_append, isBlankLine_eol, Bool.and_true]
  have hindent : indentOf (b ++ e.text) = indentOf b := takeWhile_eol ⟨rfl, rfl⟩ b e
  rw [Python.closesSuite, Python.closesSuite, hblank, indentWidth, indentWidth, hindent]
  cases hb : isBlankLine b with
  | true => rfl
  | false =>
    obtain ⟨htrim, hne⟩ := trimStart_eol hb e
    obtain ⟨c, t, ht⟩ := List.exists_cons_of_ne_nil hne
    rw [htrim, continuesSuite_eol hb, ht]
    rfl

/-! ### Texts with their terminators made line feeds -/

theorem plainLines_cons {c : Char} (hc : c ≠ '\r') (t : Text) :
    Settings.plainLines (c :: t) = c :: Settings.plainLines t := by
  cases t <;> simp [Settings.plainLines, hc]

theorem plainLines_return {t : Text} (ht : t.head? ≠ some '\n') :
    Settings.plainLines ('\r' :: t) = '\n' :: Settings.plainLines t := by
  rw [Settings.plainLines]
  rintro r rfl
  exact ht rfl

theorem plainLines_noBreak {b : Text} (hb : NoBreak b) (t : Text) :
    Settings.plainLines (b ++ t) = b ++ Settings.plainLines t := by
  induction b with
  | nil => rfl
  | cons c b ih =>
    rw [List.cons_append, plainLines_cons (hb c (by simp)).2,
      ih fun d hd => hb d (List.mem_cons_of_mem _ hd), List.cons_append]

/-- Behind a lone return there must be no line feed, or the two are one terminator. -/
theorem plainLines_eol {e : Eol} {t : Text} (ht : e = .cr → t.head? ≠ some '\n') :
    Settings.plainLines (e.text ++ t) = Eol.lf.text ++ Settings.plainLines t := by
  cases e with
  | lf => exact plainLines_cons (by decide) t
  | crlf => rfl
  | cr => exact plainLines_return (ht rfl)

section
variable {e : Eol} {bodies : List Text} {last : Text}

theorem rows_head (h : Bare bodies last) (he : e = .cr) :
    (rows e bodies last).flatten.head? ≠ some '\n' := by
  subst he
  intro hhead
  cases bodies with
  | nil =>
    have hmem : '\n' ∈ last := by
      rw [← lines_flatten last]
      exact List.mem_of_head? hhead
    exact absurd rfl (h.last.1 '\n' hmem).1
  | cons b bodies =>
    cases b with
    | nil => exact absurd (Option.some.inj hhead) (by decide)
    | cons c b => exact (h.bodies (c :: b) (by simp)).1 c (by simp) |>.1 (Option.some.inj hhead)

/-- Rows with any terminator are the same text once these are line feeds. -/
theorem plainLines_rows (h : Bare bodies last) :
    Settings.plainLines (rows e bodies last).flatten = (rows .lf bodies last).flatten := by
  obtain ⟨hbodies, hlast⟩ := h
  induction bodies with
  | nil =>
    have hopen := plainLines_noBreak hlast.1 []
    simp only [List.append_nil] at hopen
    simpa [rows, lines_flatten, Settings.plainLines] using hopen
  | cons b bodies ih =>
    have hrest : ∀ x ∈ bodies, Unbroken x := fun x hx => hbodies x (List.mem_cons_of_mem _ hx)
    change Settings.plainLines (b ++ e.text ++ (rows e bodies last).flatten) =
      b ++ Eol.lf.text ++ (rows .lf bodies last).flatten
    rw [List.append_assoc, plainLines_noBreak (hbodies b (by simp)).1,
      plainLines_eol (rows_head ⟨hrest, hlast⟩), ih hrest, List.append_assoc]

end

/-- Returns count as line feeds, alone and in front of one. -/
def LineBlind (p : Text → Bool) : Prop := ∀ t, p (Settings.plainLines t) = p t

theorem plainLines_eq_nil {t : Text} : Settings.plainLines t = [] ↔ t = [] := by
  fun_cases Settings.plainLines t <;> simp

theorem withLineFeeds_cons {c : Char} {t : Text} (hc : c ≠ '\r') (ht : t ≠ []) :
    Python.withLineFeeds (c :: t) = c :: Python.withLineFeeds t := by
  rw [Python.withLineFeeds]
  · exact fun _ => ht
  all_goals simp [hc]

theorem withLineFeeds_plainLines (t : Text) :
    Python.withLineFeeds (Settings.plainLines t) = Python.withLineFeeds t := by
  fun_induction Settings.plainLines t with
  | case1 => rfl
  | case2 r ih =>
    rcases eq_or_ne r [] with rfl | hr
    · rfl
    · rw [withLineFeeds_cons (by decide) (plainLines_eq_nil.not.mpr hr), ih, Python.withLineFeeds]
      exact hr
  | case3 r hr ih =>
    rcases eq_or_ne r [] with rfl | hne
    · rfl
    · rw [withLineFeeds_cons (by decide) (plainLines_eq_nil.not.mpr hne), ih, Python.withLineFeeds]
      · exact hne
      · exact hr []
      · exact hr
  | case4 c r hpair hreturn ih =>
    rcases eq_or_ne r [] with rfl | hne
    · rfl
    · rw [withLineFeeds_cons hreturn (plainLines_eq_nil.not.mpr hne), ih,
        withLineFeeds_cons hreturn hne]

theorem contains_plainLines {c : Char} (hc : c ≠ '\n' ∧ c ≠ '\r') (t : Text) :
    (Settings.plainLines t).contains c = t.contains c := by
  have hfeed : (c == '\n') = false := beq_false_of_ne hc.1
  have hreturn : (c == '\r') = false := beq_false_of_ne hc.2
  fun_induction Settings.plainLines t with
  | case1 => rfl
  | case2 r ih => simp only [List.contains_cons, hfeed, hreturn, ih, Bool.false_or]
  | case3 r _ ih => simp only [List.contains_cons, hfeed, hreturn, ih, Bool.false_or]
  | case4 d r _ _ ih => simp only [List.contains_cons, ih]

/-- The grammar reads a text with its terminators made line feeds. -/
theorem isModule_lineBlind (known : Text → Bool) : LineBlind (Python.isModule known) := by
  intro t
  simp only [Python.isModule, Python.tokens, withLineFeeds_plainLines]
  rw [contains_plainLines (by decide)]

/-! ### Units -/

section
variable {isModule : Text → Bool} {e e' : Eol} {bodies : List Text} {last : Text}

/-- At each number of lines that is a module, a block opens in both candidates or in neither. -/
def SameBlocks (isModule : Text → Bool) (ls ls' : List Text) : Prop :=
  ∀ k, isModule (Python.dedent (ls.take k).flatten) = true →
    Python.Suite.opens (Python.dedent (ls.take k).flatten) =
      Python.Suite.opens (Python.dedent (ls'.take k).flatten)

theorem sameBlocks_feeds (h : Bare bodies last) (he : e ≠ .cr) (he' : e' ≠ .cr) :
    SameBlocks isModule (rows e bodies last) (rows e' bodies last) := by
  intro k _
  obtain ⟨taken, open', htaken, htake⟩ := rows_take h k
  obtain ⟨bodies', last', hbare, hdedent⟩ := dedent_rows htaken
  have hfeeds {e : Eol} (he : e ≠ .cr) : Python.Suite.opens (rows e bodies' last').flatten =
      Python.Suite.opens (rows .lf bodies' last').flatten := by
    cases e with
    | lf => rfl
    | crlf => exact (Python.Suite.opens_rows hbare).symm
    | cr => exact absurd rfl he
  rw [htake, htake, hdedent, hdedent, hfeeds he, hfeeds he']

theorem isModule_rows (hblind : LineBlind isModule) (h : Bare bodies last) :
    isModule (rows e bodies last).flatten = isModule (rows e' bodies last).flatten := by
  rw [← hblind, plainLines_rows h, ← hblind (rows e' bodies last).flatten, plainLines_rows h]

theorem candidatesAlike_rows (hblind : LineBlind isModule) (h : Bare bodies last)
    (hopens : isModule (Python.dedent (rows e bodies last).flatten) = true →
      Python.Suite.opens (Python.dedent (rows e bodies last).flatten) =
        Python.Suite.opens (Python.dedent (rows e' bodies last).flatten)) :
    CandidatesAlike ⟨isModule, Python.Suite.opens⟩ (rows e bodies last).flatten
      (rows e' bodies last).flatten := by
  obtain ⟨bodies', last', hbare, hdedent⟩ := dedent_rows h
  refine ⟨?_, ?_, hopens, ?_⟩
  · rw [Dialect.isQuiet, Dialect.isQuiet, bareLines_rows h, bareLines_rows h]
  · rw [hdedent, hdedent]
    exact isModule_rows hblind hbare
  · rw [hdedent, hdedent, bareLines_rows hbare, bareLines_rows hbare]

/-- A block is closed by the body of the line behind it. -/
theorem closesSuite_rows (first : Text) (k : ℕ) :
    Python.closesSuite first (some ((rows e bodies last).getD k [])) =
      Python.closesSuite first (some ((rows e' bodies last).getD k [])) := by
  induction bodies generalizing k with
  | nil => rfl
  | cons b bodies ih =>
    cases k with
    | zero => exact (closesSuite_eol first b e).trans (closesSuite_eol first b e').symm
    | succ k => exact ih k

theorem judgedAlike_rows (hblind : LineBlind isModule) (h : Bare bodies last)
    (hblocks : SameBlocks isModule (rows e bodies last) (rows e' bodies last)) :
    JudgedAlike (pythonBy ⟨isModule, Python.Suite.opens⟩) (rows e bodies last)
      (rows e' bodies last) := by
  apply judgedAlike_candidates rows_length
  · intro k _ _
    obtain ⟨bodies', last', hbare, htake⟩ := rows_take h k
    have hopens := hblocks k
    rw [htake, htake] at hopens ⊢
    exact candidatesAlike_rows hblind hbare hopens
  · intro k _ _
    obtain ⟨bodies', last', hbare, htake⟩ := rows_take h k
    rw [htake, htake, bareLines_rows hbare, bareLines_rows hbare]
    exact closesSuite_rows _ k

/-- Both locations are reached, or both files are too short by the same number of lines. -/
theorem placedUnit_inStep {lang : Language} {loc loc' : Location} {tree tree' : FileTree}
    (h : Bare bodies last) (hline : loc.line = loc'.line)
    (ht : Decodes tree loc.file (rows e bodies last).flatten)
    (ht' : Decodes tree' loc'.file (rows e' bodies last).flatten)
    (hjudged : JudgedAlike lang ((rows e bodies last).drop (loc.line - 1))
      ((rows e' bodies last).drop (loc.line - 1))) :
    InStep loc loc' ((rows e bodies last).drop (loc.line - 1))
      ((rows e' bodies last).drop (loc.line - 1)) (placed loc tree >>= unitFrom lang loc)
      (placed loc' tree' >>= unitFrom lang loc') := by
  have hlines : lines (rows e bodies last).flatten = rows e bodies last := lines_cut (cut_rows h)
  have hlines' : lines (rows e' bodies last).flatten = rows e' bodies last := lines_cut (cut_rows h)
  have hlen : (rows e' bodies last).length = (rows e bodies last).length := rows_length
  rcases Nat.lt_or_ge ((rows e bodies last).length + 1) loc.line with hbeyond | hwithin
  · -- Neither walk gets to the line, and both have read the whole file.
    rw [placed_beyond ht (by rw [hlines]; omega), placed_beyond ht' (by rw [hlines']; omega),
      hlines, hlines', hlen]
    exact InStep.ended _
  · rw [placed_decodes ht (by rw [hlines]; omega), placed_decodes ht' (by rw [hlines']; omega),
      linesFrom, linesFrom, hlines, hlines', ← hline]
    exact unitFrom_inStep hjudged

/-- Let two files hold the same rows, each closed by its own terminator, and let returns be line feeds
to the notion of module. From the same line on, the same number of lines is a unit of both files, or
both end too early after the same number. With lone returns that takes that blocks open after the same
numbers of lines; line feeds and pairs need nothing. It holds for the sources of the files too, if the
language is theirs. -/
theorem unit_terminator_invariant {loc loc' : Location} {d d' : Desk} (hblind : LineBlind isModule)
    (h : Bare bodies last) (hline : loc.line = loc'.line)
    (ht : Decodes d.tree loc.file (rows e bodies last).flatten)
    (ht' : Decodes d'.tree loc'.file (rows e' bodies last).flatten)
    (hblocks : e ≠ .cr ∧ e' ≠ .cr ∨
      SameBlocks isModule ((rows e bodies last).drop (loc.line - 1))
        ((rows e' bodies last).drop (loc.line - 1))) :
    let lang := pythonBy ⟨isModule, Python.Suite.opens⟩
    let ls := (rows e bodies last).drop (loc.line - 1)
    let ls' := (rows e' bodies last).drop (loc.line - 1)
    InStep loc loc' ls ls' (Source.withPlaced loc (readUnit lang loc) d).1
        (Source.withPlaced loc' (readUnit lang loc') d').1 ∧
      ((Language.find loc.file d).1 = .ok lang → (Language.find loc'.file d').1 = .ok lang →
        ∀ name name', InStep loc loc' ls ls' (sourceAt (some loc) name d).1
          (sourceAt (some loc') name' d').1) := by
  intro lang ls ls'
  -- What is read from the line on are rows too, so nothing depends on the rows above it.
  obtain ⟨bodies', last', hbare, hdrop⟩ := rows_drop h (loc.line - 1)
  have hsame : SameBlocks isModule ls ls' := by
    rcases hblocks with ⟨he, he'⟩ | hblocks
    · rw [show ls = _ from hdrop e, show ls' = _ from hdrop e']
      exact sameBlocks_feeds hbare he he'
    · exact hblocks
  have hjudged : JudgedAlike lang ls ls' := by
    rw [show ls = _ from hdrop e, show ls' = _ from hdrop e'] at hsame ⊢
    exact judgedAlike_rows hblind hbare hsame
  have hunit := placedUnit_inStep h hline ht ht' hjudged
  constructor
  · rw [reads_outcome (reads_placedUnit lang loc) d, reads_outcome (reads_placedUnit lang loc') d']
    exact hunit
  · intro hfind hfind' name name'
    rw [reads_outcome (reads_find _) _] at hfind hfind'
    rw [reads_outcome (reads_sourceAt loc name) d, reads_outcome (reads_sourceAt loc' name') d',
      hfind, hfind']
    exact hunit

end

theorem except_toOption {x : Except Fault Text} {t : Text} (h : x.toOption = some t) : x = .ok t := by
  rcases x with e | s
  · cases h
  · exact congrArg Except.ok (Option.some.inj h)

/-- A block that a blank line closes is as long with pairs as with line feeds. -/
theorem block_with_pairs :
    let bodies := [['i', 'f', ' ', 'x', ':'], [' ', 'a'], [], ['y']]
    let feeds := rows .lf bodies []
    let pairs := rows .crlf bodies []
    let loc : Location := ⟨"a", 1, by decide⟩
    Bare bodies [] ∧
      (sourceAt (some loc) none (Desk.ofTree (oneFile feeds.flatten))).1 =
        .ok (feeds.take 3).flatten ∧
      (sourceAt (some loc) none (Desk.ofTree (oneFile pairs.flatten))).1 =
        .ok (pairs.take 3).flatten := by
  intro bodies feeds pairs loc
  have hbare : Bare bodies [] := ⟨by decide, by decide⟩
  have hfeeds : (sourceAt (some loc) none (Desk.ofTree (oneFile feeds.flatten))).1 =
      .ok (feeds.take 3).flatten := by
    apply sourceAt_oneFile none rfl (by decide)
    apply except_toOption
    decide +kernel
  obtain ⟨_, hsource⟩ := @unit_terminator_invariant _ .lf .crlf bodies [] loc loc
    (Desk.ofTree (oneFile feeds.flatten)) (Desk.ofTree (oneFile pairs.flatten))
    (isModule_lineBlind isCharacterName) hbare rfl (decodes_oneFile _) (decodes_oneFile _)
    (Or.inl (by decide))
  have hstep := hsource (find_oneFile _) (find_oneFile _) none none
  have hunit := inStep_unit_iff hstep rfl (cut_rows hbare) (cut_rows hbare) 3
  exact ⟨hbare, hfeeds, hunit.mp hfeeds⟩

/-- With lone returns no block is seen to open, and a line that belongs to it is left out. -/
theorem block_with_returns :
    let bodies := [['i', 'f', ' ', 'x', ':'], [' ', 'a'], [' ', 'b']]
    let feeds := rows .lf bodies []
    let returns := rows .cr bodies []
    let loc : Location := ⟨"a", 1, by decide⟩
    Bare bodies [] ∧
      (sourceAt (some loc) none (Desk.ofTree (oneFile feeds.flatten))).1 =
        .ok (feeds.take 3).flatten ∧
      (sourceAt (some loc) none (Desk.ofTree (oneFile returns.flatten))).1 =
        .ok (returns.take 2).flatten := by
  intro bodies feeds returns loc
  refine ⟨⟨by decide, by decide⟩, ?_, ?_⟩
  · apply sourceAt_oneFile none rfl (by decide)
    apply except_toOption
    decide +kernel
  · apply sourceAt_oneFile none rfl (by decide)
    apply except_toOption
    decide +kernel

end Excerpt
