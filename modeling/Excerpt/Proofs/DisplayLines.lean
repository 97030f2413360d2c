import Excerpt.Proofs.Rows

/-! Display lines of a file: each of its lines is cut on its own, at the separators inside it. What
the first and the last display line of a text are follows from its ends. -/
namespace Excerpt

theorem isWideBreak_ne {c : Char} (hc : isWideBreak c = true) : c ≠ '\n' ∧ c ≠ '\r' := by
  constructor <;> rintro rfl <;> cases hc

theorem isWideBreak_isBlank {c : Char} (hc : isWideBreak c = true) : isBlank c = true := by
  simp only [isWideBreak, Bool.or_eq_true, Bool.and_eq_true, decide_eq_true_eq, beq_iff_eq] at hc
  simp only [isBlank, Bool.or_eq_true, Bool.and_eq_true, decide_eq_true_eq, beq_iff_eq]
  omega

theorem displayLines_wide {c : Char} (hc : isWideBreak c = true) (r : Text) :
    displayLines (c :: r) = [c] :: displayLines r := by
  simp [displayLines, isWideBreak_ne hc, hc]

theorem displayLines_plain {c : Char} (hc : Unbroken [c]) (r : Text) :
    displayLines (c :: r) =
      match displayLines r with
      | [] => [[c]]
      | line :: more => (c :: line) :: more := by
  have hbreak := hc.1 c (by simp)
  have hwide := hc.2 c (by simp)
  rcases hr : displayLines r with _ | ⟨line, more⟩ <;> simp [displayLines, hbreak, hwide, hr]

theorem displayLines_ne_nil {t : Text} (h : t ≠ []) : displayLines t ≠ [] := by
  intro hnil
  apply h
  rw [← displayLines_flatten t, hnil]
  rfl

/-- A character that ends no line of either kind, or one that ends a display line only, or neither. -/
theorem char_cases (c : Char) : (c = '\n' ∨ c = '\r') ∨ isWideBreak c = true ∨ Unbroken [c] := by
  by_cases hbreak : c = '\n' ∨ c = '\r'
  · exact Or.inl hbreak
  · by_cases hwide : isWideBreak c = true
    · exact Or.inr (Or.inl hwide)
    · simp_all [Unbroken, NoBreak, Narrow]

/-! ### Line by line -/

/-- A terminated line is cut on its own. -/
theorem displayLines_terminated_append {l v : Text} (hl : Terminated l) (hv : ¬ Torn l v) :
    displayLines (l ++ v) = displayLines l ++ displayLines v := by
  obtain ⟨body, hb, hl⟩ := hl
  induction body generalizing l with
  | nil =>
    rcases hl with rfl | rfl | rfl
    · simp [displayLines]
    · simp [displayLines]
    · -- A lone return takes in a line feed behind it, but there the pair would be torn.
      have hn : ∀ r, v = '\n' :: r → False := by
        rintro r rfl
        exact hv (by simp [Torn])
      simp only [List.nil_append, List.cons_append]
      rw [displayLines]
      · rfl
      · exact hn
  | cons c body ih =>
    have hb' : NoBreak body := fun x hx => hb x (List.mem_cons_of_mem _ hx)
    obtain ⟨m, rfl, hm⟩ : ∃ m, l = c :: m ∧
        (m = body ++ ['\n'] ∨ m = body ++ ['\r', '\n'] ∨ m = body ++ ['\r']) := by
      rcases hl with rfl | rfl | rfl
      · exact ⟨_, rfl, Or.inl rfl⟩
      · exact ⟨_, rfl, Or.inr (Or.inl rfl)⟩
      · exact ⟨_, rfl, Or.inr (Or.inr rfl)⟩
    have hne : m ≠ [] := terminated_ne_nil ⟨body, hb', hm⟩
    rw [torn_cons hne] at hv
    rcases char_cases c with hbreak | hwide | hplain
    · exact absurd hbreak (not_or.mpr (hb c (by simp)))
    · rw [List.cons_append, displayLines_wide hwide, displayLines_wide hwide, ih hv hb' hm,
        List.cons_append]
    · obtain ⟨line, more, hmore⟩ := List.exists_cons_of_ne_nil (displayLines_ne_nil hne)
      rw [List.cons_append, displayLines_plain hplain, displayLines_plain hplain, ih hv hb' hm, hmore]
      rfl

/-- The display lines of a file are those of its lines. -/
theorem displayLines_cut {ls : List Text} (h : Cut ls) :
    displayLines ls.flatten = ls.flatMap displayLines := by
  induction ls with
  | nil => rfl
  | cons l ls ih =>
    rcases eq_or_ne ls [] with rfl | hne
    · simp
    · have hl : Terminated l :=
        (cut_take_whole h (n := 1) (by simpa using List.length_pos_iff.mpr hne)).terminated l (by simp)
      have huntorn : ¬ Torn l ls.flatten := by
        simpa using cut_split_untorn (u := [l]) h
      rw [List.flatten_cons, displayLines_terminated_append hl huntorn, ih (cut_drop h 1),
        List.flatMap_cons]

/-! ### The first and the last one -/

/-- The first display line, without its separator, is what stands before the first separator. -/
theorem bareLines_headD (t : Text) : (bareLines t).headD [] = dropBreak t := by
  induction t with
  | nil => rfl
  | cons c r ih =>
    rcases char_cases c with (rfl | rfl) | hwide | hplain
    · simp [bareLines, displayLines, dropBreak]
    · rcases r with _ | ⟨d, r⟩
      · rfl
      · by_cases hd : d = '\n' <;> simp [bareLines, displayLines, dropBreak, hd]
    · simp [bareLines, displayLines_wide hwide, dropBreak, hwide]
    · have hstep (u : Text) : dropBreak (c :: u) = c :: dropBreak u := dropBreak_append hplain u
      rw [hstep, ← ih, bareLines, bareLines, displayLines_plain hplain]
      rcases displayLines r with _ | ⟨line, more⟩
      · exact hstep []
      · exact hstep line

/-- What may end a display line: nothing, a terminator, or one of the other separators. -/
inductive Separator : Text → Prop
  | none : Separator []
  | eol (e : Eol) : Separator e.text
  | wide {c : Char} (hc : isWideBreak c = true) : Separator [c]

theorem separator_isBlank {b : Text} (h : Separator b) : isBlankLine b = true := by
  cases h with
  | none => rfl
  | eol e => cases e <;> decide
  | wide hc => simp [isBlankLine, isWideBreak_isBlank hc]

theorem separator_dropBreak {b : Text} (hb : Separator b) : dropBreak b = [] := by
  cases hb with
  | none => rfl
  | eol e => cases e <;> rfl
  | wide hc => simp [dropBreak, hc]

theorem separator_suffix {b s : Text} (hb : Separator b) (hs : s <:+ b) : Separator s := by
  have hsingle {c : Char} (hc : Separator [c]) (hs : s <:+ [c]) : Separator s := by
    rcases List.suffix_cons_iff.mp hs with rfl | hs
    · exact hc
    · exact List.suffix_nil.mp hs ▸ .none
  cases hb with
  | none => exact List.suffix_nil.mp hs ▸ .none
  | wide hc => exact hsingle (.wide hc) hs
  | eol e =>
    cases e with
    | lf => exact hsingle (.eol .lf) hs
    | cr => exact hsingle (.eol .cr) hs
    | crlf =>
      rcases List.suffix_cons_iff.mp hs with rfl | hs
      · exact .eol .crlf
      · exact hsingle (.eol .lf) hs

/-- Text without separators, one separator behind it. -/
def IsDisplayLine (l : Text) : Prop := ∃ y b, Unbroken y ∧ Separator b ∧ l = y ++ b

/-- Whatever is taken off its front, a display line stays one. -/
theorem isDisplayLine_suffix {l s : Text} (hl : IsDisplayLine l) (hs : s <:+ l) : IsDisplayLine s := by
  obtain ⟨y, b, hy, hb, rfl⟩ := hl
  obtain ⟨front, heq⟩ := hs
  rcases List.append_eq_append_iff.mp heq with ⟨a, hfront, hrest⟩ | ⟨a, hfront, hrest⟩
  · exact ⟨a, b, unbroken_suffix hy ⟨front, hfront.symm⟩, hb, hrest⟩
  · exact ⟨[], s, unbroken_nil, separator_suffix hb ⟨a, hrest.symm⟩, rfl⟩

theorem displayLines_isDisplayLine {t l : Text} (h : l ∈ displayLines t) : IsDisplayLine l := by
  have hsep {b : Text} (hb : Separator b) : IsDisplayLine b := ⟨[], b, unbroken_nil, hb, rfl⟩
  fun_induction displayLines t generalizing l with
  | case1 => simp at h
  | case2 r ih =>
    rcases List.mem_cons.mp h with rfl | h
    · exact hsep (.eol .lf)
    · exact ih h
  | case3 r ih =>
    rcases List.mem_cons.mp h with rfl | h
    · exact hsep (.eol .crlf)
    · exact ih h
  | case4 r _ ih =>
    rcases List.mem_cons.mp h with rfl | h
    · exact hsep (.eol .cr)
    · exact ih h
  | case5 c r _ _ _ hc ih =>
    rcases List.mem_cons.mp h with rfl | h
    · exact hsep (.wide hc)
    · exact ih h
  | case6 c r hn _ hr hc hnil _ =>
    obtain rfl := List.mem_singleton.mp h
    exact ⟨[c], [], by simp_all [Unbroken, NoBreak, Narrow], .none, rfl⟩
  | case7 c r hn _ hr hc line more hmore ih =>
    rcases List.mem_cons.mp h with rfl | h
    · obtain ⟨y, b, hy, hb, rfl⟩ := ih (hmore ▸ List.mem_cons_self)
      have hplain : Unbroken [c] := by simp_all [Unbroken, NoBreak, Narrow]
      exact ⟨c :: y, b, unbroken_append.mpr ⟨hplain, hy⟩, hb, rfl⟩
    · exact ih (hmore ▸ List.mem_cons_of_mem _ h)

theorem displayLines_separator {b : Text} (hb : Separator b) :
    displayLines b = if b = [] then [] else [b] := by
  cases hb with
  | none => rfl
  | eol e => cases e <;> rfl
  | wide hc => simp [displayLines_wide hc, displayLines]

theorem displayLines_single {y b : Text} (hy : Unbroken y) (hb : Separator b) :
    displayLines (y ++ b) = if y ++ b = [] then [] else [y ++ b] := by
  induction y with
  | nil => exact displayLines_separator hb
  | cons c y ih =>
    obtain ⟨hc, hy'⟩ := unbroken_append.mp (show Unbroken ([c] ++ y) from hy)
    rw [List.cons_append, displayLines_plain hc, ih hy']
    split_ifs with hnil <;> simp_all

/-- A display line at the end of a text ends its last display line. -/
theorem displayLines_append_last {y b : Text} (hy : Unbroken y) (hne : y ≠ []) (hb : Separator b)
    (x : Text) :
    ∃ init pre, Unbroken pre ∧ displayLines (x ++ (y ++ b)) = init ++ [pre ++ (y ++ b)] := by
  have hfeed : (y ++ b).head? ≠ some '\n' := by
    obtain ⟨c, y, rfl⟩ := List.exists_cons_of_ne_nil hne
    intro hhead
    exact (hy.1 c (by simp)).1 (by simpa using hhead)
  have hplain {c : Char} {r : Text} (hc : Unbroken [c])
      (ih : ∃ init pre, Unbroken pre ∧ displayLines (r ++ (y ++ b)) = init ++ [pre ++ (y ++ b)]) :
      ∃ init pre, Unbroken pre ∧ displayLines (c :: r ++ (y ++ b)) = init ++ [pre ++ (y ++ b)] := by
    obtain ⟨init, pre, hpre, heq⟩ := ih
    rw [List.cons_append, displayLines_plain hc, heq]
    rcases init with _ | ⟨line, init⟩
    · exact ⟨[], c :: pre, unbroken_append.mpr ⟨hc, hpre⟩, rfl⟩
    · exact ⟨(c :: line) :: init, pre, hpre, rfl⟩
  -- On the display lines of `x`: a separator in it puts one more line in front.
  fun_induction displayLines x with
  | case1 => exact ⟨[], [], unbroken_nil, by simp [displayLines_single hy hb, hne]⟩
  | case2 r ih =>
    obtain ⟨init, pre, hpre, heq⟩ := ih
    exact ⟨['\n'] :: init, pre, hpre, by simp [displayLines, heq]⟩
  | case3 r ih =>
    obtain ⟨init, pre, hpre, heq⟩ := ih
    exact ⟨['\r', '\n'] :: init, pre, hpre, by simp [displayLines, heq]⟩
  | case4 r hr ih =>
    obtain ⟨init, pre, hpre, heq⟩ := ih
    refine ⟨['\r'] :: init, pre, hpre, ?_⟩
    rw [List.cons_append, displayLines, heq, List.cons_append]
    -- No line feed is behind this return, in `x` or at the start of the last line.
    intro r' heq'
    rcases r with _ | ⟨d, r⟩
    · exact hfeed (by simp [show y ++ b = _ from heq'])
    · obtain ⟨rfl, _⟩ := List.cons.inj heq'
      exact hr _ rfl
  | case5 c r _ _ _ hc ih =>
    obtain ⟨init, pre, hpre, heq⟩ := ih
    exact ⟨[c] :: init, pre, hpre, by rw [List.cons_append, displayLines_wide hc, heq]; rfl⟩
  | case6 c r hn _ hr hc _ ih => exact hplain (by simp_all [Unbroken, NoBreak, Narrow]) ih
  | case7 c r hn _ hr hc line more _ ih => exact hplain (by simp_all [Unbroken, NoBreak, Narrow]) ih

/-- If the last display line of a text is blank, so is whatever display line the text ends in. -/
theorem isBlankLine_of_last {x l : Text} (hl : IsDisplayLine l)
    (h : isBlankLine ((bareLines (x ++ l)).getLastD []) = true) : isBlankLine l = true := by
  obtain ⟨y, b, hy, hb, rfl⟩ := hl
  rw [isBlankLine_append, separator_isBlank hb, Bool.and_true]
  rcases eq_or_ne y [] with rfl | hne
  · rfl
  obtain ⟨init, pre, hpre, heq⟩ := displayLines_append_last hy hne hb x
  have hlast : (bareLines (x ++ (y ++ b))).getLastD [] = pre ++ (y ++ dropBreak b) := by
    rw [bareLines, heq, List.map_append, List.map_singleton, List.getLastD_concat,
      dropBreak_append hpre, dropBreak_append hy]
  rw [hlast, isBlankLine_append, isBlankLine_append, Bool.and_eq_true, Bool.and_eq_true] at h
  exact h.2.1

/-- The last display line of a file's line starts at its beginning, or behind a separator in it. -/
theorem displayLines_last {body b : Text} (hbody : NoBreak body) (hb : Separator b)
    (hne : body ++ b ≠ []) :
    ∃ init back, displayLines (body ++ b) = init ++ [back] ∧ back ≠ [] ∧
      (init = [] ∨ ∃ c ∈ init.flatten.getLast?, isWideBreak c = true) := by
  induction body with
  | nil => exact ⟨[], b, by simpa [displayLines_separator hb] using hne, hne, Or.inl rfl⟩
  | cons c body ih =>
    have hlast {t : Text} {d : Char} (h : d ∈ t.getLast?) : d ∈ (c :: t).getLast? := by
      rw [List.getLast?_cons, h]
      rfl
    specialize ih fun x hx => hbody x (List.mem_cons_of_mem _ hx)
    rcases char_cases c with hbreak | hwide | hplain
    · exact absurd hbreak (not_or.mpr (hbody c (by simp)))
    · rw [List.cons_append, displayLines_wide hwide]
      rcases eq_or_ne (body ++ b) [] with hnil | hsome
      · exact ⟨[], [c], by rw [hnil]; rfl, by simp, Or.inl rfl⟩
      · obtain ⟨init, back, heq, hback, hinit⟩ := ih hsome
        refine ⟨[c] :: init, back, by rw [heq]; rfl, hback, Or.inr ?_⟩
        rcases hinit with rfl | ⟨d, hd, hwide'⟩
        · exact ⟨c, rfl, hwide⟩
        · exact ⟨d, hlast hd, hwide'⟩
    · rw [List.cons_append, displayLines_plain hplain]
      rcases eq_or_ne (body ++ b) [] with hnil | hsome
      · exact ⟨[], [c], by rw [hnil]; rfl, by simp, Or.inl rfl⟩
      · obtain ⟨init, back, heq, hback, hinit⟩ := ih hsome
        rw [heq]
        rcases init with _ | ⟨line, init⟩
        · exact ⟨[], c :: back, rfl, by simp, Or.inl rfl⟩
        · refine ⟨(c :: line) :: init, back, rfl, hback, Or.inr ?_⟩
          obtain ⟨d, hd, hwide⟩ := hinit.resolve_left (by simp)
          exact ⟨d, hlast hd, hwide⟩

theorem cut_mem {ls : List Text} (h : Cut ls) {l : Text} (hl : l ∈ ls) :
    ∃ body b, NoBreak body ∧ Separator b ∧ l = body ++ b := by
  obtain ⟨closed, opened, hclosed, hopened, rfl⟩ := h
  rcases List.mem_append.mp hl with hl | hl
  · obtain ⟨body, hbody, rfl | rfl | rfl⟩ := hclosed.terminated l hl
    · exact ⟨body, _, hbody, .eol .lf, rfl⟩
    · exact ⟨body, _, hbody, .eol .crlf, rfl⟩
    · exact ⟨body, _, hbody, .eol .cr, rfl⟩
  · rw [lines_noBreak hopened] at hl
    split_ifs at hl
    · cases hl
    · obtain rfl := List.mem_singleton.mp hl
      exact ⟨l, [], hopened, .none, (List.append_nil l).symm⟩

end Excerpt
