import Excerpt.Proofs.BeyondEnd

/-! Every file that is opened is closed again. Most operations touch no handle; opening adds one of
its own, and what is built around an open file gives that one back on every way out. -/
namespace Excerpt

/-- However the operation ends, the handles that were open are open, and no others. -/
def Keeps {α : Type} (op : Op α) : Prop := ∀ d, (op d).2.handles = d.handles

/-- As `Keeps`, but what becomes of handle `n` does not matter. -/
def KeepsBut {α : Type} (n : ℕ) (op : Op α) : Prop :=
  ∀ d, (op d).2.handles.filter (· != n) = d.handles.filter (· != n)

/-- The operation either fails and leaves the handles as they are, or opens one that was not among
them. -/
inductive Opening (d : Desk) : Except Fault Handle × Desk → Prop
  | failed {e : Fault} {d' : Desk} (kept : d'.handles = d.handles) : Opening d (.error e, d')
  | opened {h : Handle} {d' : Desk} (added : d'.handles = h.number :: d.handles)
      (fresh : h.number ∉ d.handles) : Opening d (.ok h, d')

section
variable {α β : Type}

theorem keeps_pure (a : α) : Keeps (pure a) := fun _ => rfl

theorem keeps_throw (e : Fault) : Keeps (throw e : Op α) := fun _ => rfl

theorem keeps_note (r : Record) : Keeps (Op.note r) := fun _ => rfl

theorem keeps_tree : Keeps Op.tree := fun _ => rfl

theorem keeps_bind {x : Op α} {f : α → Op β} (hx : Keeps x) (hf : ∀ a, Keeps (f a)) :
    Keeps (x >>= f) := by
  intro d
  have hd := hx d
  rw [op_bind]
  rcases hx : x d with ⟨e | a, d'⟩
  · rwa [hx] at hd
  · rw [hx] at hd
    exact (hf a d').trans hd

theorem keeps_ofExcept (x : Except Fault α) : Keeps (Op.ofExcept x) := by
  rcases x with e | a
  · exact keeps_throw e
  · exact keeps_pure a

theorem keeps_notes (rs : List Record) : Keeps (rs.forM Op.note) := by
  induction rs with
  | nil => exact keeps_pure ()
  | cons r rs ih => exact keeps_bind (keeps_note r) fun _ => ih

theorem keepsBut_of_keeps {op : Op α} (h : Keeps op) (n : ℕ) : KeepsBut n op := by
  intro d
  rw [h d]

end

/-! ### Taking a handle and giving it back -/

theorem next_not_open (d : Desk) : d.nextHandle ∉ d.handles := by
  intro hmem
  exact Nat.lt_irrefl _ (d.fresh _ hmem)

theorem filter_fresh {n : ℕ} {hs : List ℕ} (h : n ∉ hs) : (n :: hs).filter (· != n) = hs := by
  rw [List.filter_cons_of_neg (by simp), List.filter_eq_self]
  intro m hm
  rw [bne_iff_ne]
  rintro rfl
  exact h hm

theorem close_handles (h : Handle) (d : Desk) :
    (Source.close h d).2.handles = d.handles.filter (· != h.number) := rfl

/-- What a body does with the handle it was given is undone when that handle is closed. -/
theorem closing_handles {α : Type} {body : Op α} {h : Handle} {d : Desk} {hs : List ℕ}
    (hbody : KeepsBut h.number body) (hd : d.handles = h.number :: hs) (hfresh : h.number ∉ hs) :
    (Op.closing body (Source.close h) d).2.handles = hs := by
  have hleft := hbody d
  rw [hd, filter_fresh hfresh] at hleft
  rw [Op.closing]
  rcases hb : body d with ⟨r, d'⟩
  rw [hb] at hleft
  exact hleft

theorem keeps_bracket {α : Type} {op : Op Handle} {body : Handle → Op α}
    (hop : ∀ d, Opening d (op d)) (hbody : ∀ h, KeepsBut h.number (body h)) :
    Keeps (do let h ← op; Op.closing (body h) (Source.close h)) := by
  intro d
  rw [op_bind]
  have hd := hop d
  generalize op d = out at hd ⊢
  cases hd with
  | failed kept => exact kept
  | @opened h d' added fresh => exact closing_handles (hbody h) added fresh

/-! ### Opening a file and going to a line -/

theorem keeps_load (path : String) : Keeps (Settings.load path) :=
  keeps_bind keeps_tree fun _ =>
    keeps_bind (keeps_ofExcept _) fun p => keeps_bind (keeps_notes p.2) fun _ => keeps_pure p.1

theorem openText_opening (file : String) (encoding : Json) (d : Desk) :
    Opening d (Source.openText file encoding d) := by
  rw [openText_eq]
  rcases encodingMisfit encoding with _ | e
  swap
  · exact Opening.failed rfl
  dsimp only
  split_ifs
  · exact Opening.failed rfl
  rcases d.tree.readFile file with e | bytes
  · exact Opening.failed rfl
  rcases charsetOf encoding with e | cs
  · exact Opening.failed rfl
  · exact Opening.opened rfl (next_not_open d)

/-- Going to a line opens and closes nothing, and the handle that gets there is the same one. -/
theorem approach_handles (h : Handle) (loc : Location) (d : Desk) :
    (Source.approach h loc d).2.handles = d.handles ∧
      ∀ p, (Source.approach h loc d).1 = .ok p → p.2.number = h.number := by
  rw [Source.approach]
  rcases linesAbove (loc.line - 1) 0 h.feed with ⟨above, feed | read | f⟩
  · refine ⟨rfl, ?_⟩
    rintro p ⟨⟩
    rfl
  · refine ⟨rfl, ?_⟩
    rintro p ⟨⟩
  · refine ⟨rfl, ?_⟩
    rintro p ⟨⟩

theorem opening_after {α : Type} {x : Op α} {f : α → Op Handle} (hx : Keeps x)
    (hf : ∀ a d, Opening d (f a d)) (d : Desk) : Opening d ((x >>= f) d) := by
  have hd := hx d
  rw [op_bind]
  rcases hrun : x d with ⟨e | a, d'⟩
  · rw [hrun] at hd
    exact Opening.failed hd
  · rw [hrun] at hd
    have hopen := hf a d'
    dsimp only at hopen ⊢
    generalize f a d' = out at hopen ⊢
    cases hopen with
    | failed kept => exact Opening.failed (kept.trans hd)
    | opened added fresh => exact Opening.opened (hd ▸ added) (hd ▸ fresh)

/-- A handle that reaches the line is the one that was opened; one that does not is closed before
the fault is passed on. -/
theorem openAt_opening (loc : Location) : ∀ d, Opening d (Source.openAt loc d) := by
  refine opening_after (keeps_load _) fun settings d => ?_
  rw [op_bind]
  have hopen := openText_opening loc.file settings.encoding d
  generalize Source.openText loc.file settings.encoding d = out at hopen ⊢
  cases hopen with
  | failed kept => exact Opening.failed kept
  | @opened h d₁ added fresh =>
    obtain ⟨hkept, hnumber⟩ := approach_handles h loc d₁
    dsimp only
    rcases ha : Source.approach h loc d₁ with ⟨e | ⟨above, h'⟩, d₂⟩
    · rw [ha] at hkept
      have hclosed : (Source.close h d₂).2.handles = d.handles := by
        rw [close_handles, hkept, added, filter_fresh fresh]
      exact Opening.failed hclosed
    · rw [ha] at hkept hnumber
      have hsame : h'.number = h.number := hnumber _ rfl
      rw [← hsame] at added fresh
      exact Opening.opened (hkept.trans added) fresh

/-! ### Extraction -/

theorem keeps_withPlaced {α : Type} (loc : Location) {body : Handle → Op α}
    (hbody : ∀ h, KeepsBut h.number (body h)) : Keeps (Source.withPlaced loc body) :=
  keeps_bracket (openAt_opening loc) hbody

theorem keeps_readUnit (lang : Language) (loc : Location) (h : Handle) :
    Keeps (readUnit lang loc h) :=
  keeps_bind (keeps_notes _) fun _ => keeps_ofExcept _

theorem keeps_find (file : String) : Keeps (Language.find file) :=
  keeps_bind (keeps_load _) fun _ => keeps_ofExcept _

theorem keeps_sourceAt (loc : Option Location) (name : Option String) :
    Keeps (sourceAt loc name) := by
  cases loc with
  | none => exact keeps_throw _
  | some loc =>
    refine keeps_bind (keeps_find loc.file) fun lang => ?_
    exact keeps_withPlaced loc fun h => keepsBut_of_keeps (keeps_readUnit lang loc h) h.number

theorem keeps_readComment (d : Dialect) (loc : Location) (h : Handle) :
    Keeps (readComment d loc h) :=
  keeps_bind (fun desk => (approach_handles h loc desk).1) fun _ => keeps_pure _

theorem keeps_collectComment (d : Dialect) (encoding : Json) (loc : Location) :
    Keeps (collectComment d encoding loc) := by
  have hread (h : Handle) : KeepsBut h.number (readComment d loc h) :=
    keepsBut_of_keeps (keeps_readComment d loc h) h.number
  have hnoted (comment : Text) : Keeps (do
      Op.note (.commentLines loc (displayLines comment).length)
      return comment : Op Text) :=
    keeps_bind (keeps_note _) fun _ => keeps_pure comment
  have hall := keeps_bind (keeps_bracket (openText_opening loc.file encoding) hread) hnoted
  rwa [bind_assoc] at hall

theorem keeps_commentAt (loc : Option Location) : Keeps (commentAt loc) := by
  cases loc with
  | none => exact keeps_pure _
  | some loc =>
    refine keeps_bind (keeps_load _) fun settings => ?_
    exact keeps_bind (keeps_ofExcept _) fun lang => keeps_collectComment _ _ loc

theorem openAt?_some (loc : Location) (d : Desk) :
    Source.openAt? (some loc) d =
      ((Source.openAt loc d).1.map some, (Source.openAt loc d).2) := by
  rw [Source.openAt?, op_bind]
  rcases Source.openAt loc d with ⟨e | h, d'⟩ <;> rfl

/-- No handle is left behind. Extraction, and whatever runs around a placed handle that it may use or
close but beside which it leaves all others alone, end with the handles open that were open before,
whether they succeed or fail. A handle that cannot be placed is given back as well, and one that is
placed at a location is the only handle more. -/
theorem handles_given_back :
    (∀ v name, Keeps (extractSource v name)) ∧
    (∀ v, Keeps (extractComment v)) ∧
    (∀ {α : Type} (loc : Option Location) (body : Option Handle → Op α), Keeps (body none) →
      (∀ h, KeepsBut h.number (body (some h))) → Keeps (Source.withPlaced? loc body)) ∧
    (∀ loc d e, (Source.openAt? loc d).1 = .error e →
      (Source.openAt? loc d).2.handles = d.handles) ∧
    (∀ d, Source.openAt? none d = (.ok none, d)) ∧
    ∀ loc d r, (Source.openAt? (some loc) d).1 = .ok r →
      ∃ h, r = some h ∧ h.number ∉ d.handles ∧
        (Source.openAt? (some loc) d).2.handles = h.number :: d.handles := by
  refine ⟨?_, ?_, ?_, ?_, fun _ => rfl, ?_⟩
  · exact fun v name => keeps_bind (keeps_ofExcept _) fun loc => keeps_sourceAt loc name
  · exact fun v => keeps_bind (keeps_ofExcept _) keeps_commentAt
  · intro α loc body hnone hsome
    cases loc with
    | none => exact hnone
    | some loc => exact keeps_withPlaced loc hsome
  · intro loc d e he
    cases loc with
    | none => cases he
    | some loc =>
      rw [openAt?_some] at he ⊢
      have hopen := openAt_opening loc d
      generalize Source.openAt loc d = out at he hopen
      cases hopen with
      | failed kept => exact kept
      | opened _ _ => cases he
  · intro loc d r hr
    rw [openAt?_some] at hr ⊢
    have hopen := openAt_opening loc d
    generalize Source.openAt loc d = out at hr hopen
    cases hopen with
    | failed _ => cases hr
    | @opened h _ added fresh =>
      cases hr
      exact ⟨h, rfl, fresh, added⟩

/-- One handle is open already. A second one is opened at the first line, and is gone again after a
body that closes it itself, after a line that the file does not have, and after reading a unit. -/
theorem second_handle_given_back :
    let d := (Desk.ofTree (oneFile ['x', '\n'])).opened
    let here : Location := ⟨"a", 1, by decide⟩
    let below : Location := ⟨"a", 3, by decide⟩
    d.handles = [0] ∧
      (∃ h, (Source.openAt? (some here) d).1 = .ok (some h) ∧ h.number ∉ d.handles ∧
        (Source.openAt? (some here) d).2.handles = [h.number, 0]) ∧
      (∃ e, (Source.openAt? (some below) d).1 = .error e ∧
        (Source.openAt? (some below) d).2.handles = [0]) ∧
      (Source.withPlaced? (some here) (fun h => (h.map Source.close).getD (pure ())) d).2.handles =
        [0] ∧
      (extractSource (.arr [.str "a", .int 1]) none d).2.handles = [0] := by
  intro d here below
  obtain ⟨hsource, -, haround, hfailed, -, hplaced⟩ := handles_given_back
  refine ⟨rfl, ?_, ?_, ?_, hsource _ _ d⟩
  · have hopen := (reads_openAt here d).1
    rw [placed_decodes (decodes_oneFile _) (by decide)] at hopen
    rcases hd : Source.openAt here d with ⟨e | h, d'⟩
    · rw [hd] at hopen
      cases hopen
    · have hok : (Source.openAt? (some here) d).1 = .ok (some h) := by
        rw [openAt?_some, hd]
        rfl
      obtain ⟨h', hh, hfresh, hadded⟩ := hplaced here d _ hok
      cases hh
      exact ⟨h, hok, hfresh, hadded⟩
  · have hshort := @placed_beyond d.tree below ['x', '\n'] (decodes_oneFile _) (by decide)
    have hopen := (reads_openAt below d).1
    rw [hshort] at hopen
    rcases hd : Source.openAt below d with ⟨e | h, d'⟩
    · have herror : (Source.openAt? (some below) d).1 = .error e := by
        rw [openAt?_some, hd]
        rfl
      exact ⟨e, herror, hfailed _ d e herror⟩
    · rw [hd] at hopen
      cases hopen
  · apply haround (some here) _ (keeps_pure ())
    intro h desk
    change ((desk.handles.filter _).filter _) = _
    simp

end Excerpt
