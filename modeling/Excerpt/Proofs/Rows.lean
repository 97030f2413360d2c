import Excerpt.Proofs.Lines
import Excerpt.Python.Unit
import Mathlib.Data.List.TakeWhile

/-! Texts whose lines are the same by both ways of cutting: the only separators in them are the
terminators of their lines. Taking the margin off such a text is taking it off each line. -/
namespace Excerpt

/-! ### Blank text -/

theorem isIndent_isBlank {c : Char} (h : isIndent c = true) : isBlank c = true := by
  simp only [isIndent, Bool.or_eq_true, beq_iff_eq] at h
  rcases h with rfl | rfl <;> decide

theorem isBlankLine_append (u v : Text) :
    isBlankLine (u ++ v) = (isBlankLine u && isBlankLine v) := List.all_append

theorem isBlankLine_indent {w : Text} (h : ∀ c ∈ w, isIndent c = true) : isBlankLine w = true := by
  rw [isBlankLine, List.all_eq_true]
  exact fun c hc => isIndent_isBlank (h c hc)

theorem indentOf_append {w : Text} (h : ∀ c ∈ w, isIndent c = true) (t : Text) :
    indentOf (w ++ t) = w ++ indentOf t := List.takeWhile_append_of_pos h

theorem indentOf_isIndent {c : Char} {t : Text} (h : c ∈ indentOf t) : isIndent c = true :=
  List.mem_takeWhile_imp h

/-- Blank text in front of a line is trimmed with it. -/
theorem trimStart_append {w : Text} (h : isBlankLine w = true) (t : Text) :
    trimStart (w ++ t) = trimStart t := by
  rw [isBlankLine, List.all_eq_true] at h
  exact List.dropWhile_append_of_pos h

theorem after?_eq_some {p t r : Text} : after? p t = some r ↔ t = p ++ r := by
  induction p generalizing t with
  | nil => simp [after?, eq_comm]
  | cons c p ih =>
    cases t with
    | nil => simp [after?]
    | cons d t =>
      by_cases hc : c = d
      · simp [after?, hc, ih]
      · simp [after?, hc, Ne.symm hc]

/-! ### Cutting either way -/

/-- Text without the separators that end display lines only. -/
def Narrow (t : Text) : Prop := ∀ c ∈ t, isWideBreak c = false

theorem displayLines_flatten (t : Text) : (displayLines t).flatten = t := by
  fun_induction displayLines t <;> simp_all

theorem displayLines_narrow {t : Text} (h : Narrow t) : displayLines t = lines t := by
  fun_induction lines t with
  | case1 => rfl
  | case2 r ih => rw [displayLines, ih fun c hc => h c (by simp [hc])]
  | case3 r ih => rw [displayLines, ih fun c hc => h c (by simp [hc])]
  | case4 r hr ih =>
    rw [displayLines, ih fun c hc => h c (by simp [hc])]
    exact hr
  | case5 c r h1 h2 h3 he ih =>
    have hr : displayLines r = [] := by rw [ih fun d hd => h d (by simp [hd]), he]
    rw [displayLines, h c (by simp), hr]
    · rfl
    · exact h1
    · exact h2
    · exact h3
  | case6 c r h1 h2 h3 line more he ih =>
    have hr : displayLines r = line :: more := by rw [ih fun d hd => h d (by simp [hd]), he]
    rw [displayLines, h c (by simp), hr]
    · rfl
    · exact h1
    · exact h2
    · exact h3

/-- Lines of a file that are display lines too. -/
structure Ruled (ls : List Text) : Prop where
  cut : Cut ls
  narrow : ∀ l ∈ ls, Narrow l

theorem ruled_take {ls : List Text} (h : Ruled ls) (k : ℕ) : Ruled (ls.take k) :=
  ⟨cut_take h.cut k, fun l hl => h.narrow l (List.mem_of_mem_take hl)⟩

theorem displayLines_ruled {ls : List Text} (h : Ruled ls) : displayLines ls.flatten = ls := by
  have hnarrow : Narrow ls.flatten := by
    intro c hc
    obtain ⟨l, hl, hc⟩ := List.mem_flatten.mp hc
    exact h.narrow l hl c hc
  rw [displayLines_narrow hnarrow, lines_cut h.cut]

theorem bareLines_ruled {ls : List Text} (h : Ruled ls) :
    bareLines ls.flatten = ls.map dropBreak := by
  rw [bareLines, displayLines_ruled h]

/-! ### Rows: bodies closed by one terminator -/

/-- The three terminators of a line. -/
inductive Eol where
  | lf
  | crlf
  | cr
deriving DecidableEq, Repr

def Eol.text : Eol → Text
  | lf => ['\n']
  | crlf => ['\r', '\n']
  | cr => ['\r']

theorem eol_head (e : Eol) : ∃ c t, e.text = c :: t ∧ (c = '\n' ∨ c = '\r') := by
  cases e
  · exact ⟨'\n', [], rfl, Or.inl rfl⟩
  · exact ⟨'\r', ['\n'], rfl, Or.inr rfl⟩
  · exact ⟨'\r', [], rfl, Or.inr rfl⟩

theorem takeWhile_eol {p : Char → Bool} (hp : p '\n' = false ∧ p '\r' = false) (r : Text) (e : Eol) :
    (r ++ e.text).takeWhile p = r.takeWhile p := by
  have heol : e.text.takeWhile p = [] := by
    cases e <;> simp [Eol.text, hp]
  rw [List.takeWhile_append, heol]
  split_ifs with hall
  · rw [List.append_nil, (List.takeWhile_prefix p).eq_of_length hall]
  · rfl

theorem dropWhile_eol {p : Char → Bool} (hp : p '\n' = false ∧ p '\r' = false) (r : Text) (e : Eol) :
    (r ++ e.text).dropWhile p = r.dropWhile p ++ e.text := by
  have heol : e.text.dropWhile p = e.text := by
    cases e <;> simp [Eol.text, hp]
  rw [List.dropWhile_append, heol]
  split_ifs with hnil
  · rw [List.isEmpty_iff.mp hnil, List.nil_append]
  · rfl

/-- Text without any separator. -/
def Unbroken (t : Text) : Prop := NoBreak t ∧ Narrow t

-- The characters of a text are gone through one by one; there are too many to go through all.
instance (t : Text) : Decidable (NoBreak t) := List.decidableBAll _ t

instance (t : Text) : Decidable (Narrow t) := List.decidableBAll _ t

instance (t : Text) : Decidable (Unbroken t) := inferInstanceAs (Decidable (NoBreak t ∧ Narrow t))

theorem unbroken_nil : Unbroken [] := by decide

theorem unbroken_append {u v : Text} : Unbroken (u ++ v) ↔ Unbroken u ∧ Unbroken v := by
  simp only [Unbroken, NoBreak, Narrow, List.forall_mem_append]
  tauto

theorem noBreak_suffix {s t : Text} (h : NoBreak t) (hs : s <:+ t) : NoBreak s :=
  fun c hc => h c (hs.subset hc)

theorem unbroken_suffix {s t : Text} (h : Unbroken t) (hs : s <:+ t) : Unbroken s :=
  ⟨noBreak_suffix h.1 hs, fun c hc => h.2 c (hs.subset hc)⟩

theorem indent_unbroken {w : Text} (hw : ∀ c ∈ w, isIndent c = true) : Unbroken w := by
  have hchar (c : Char) (hc : c ∈ w) : c = ' ' ∨ c = '\t' := by
    simpa only [isIndent, Bool.or_eq_true, beq_iff_eq] using hw c hc
  constructor
  · intro c hc
    rcases hchar c hc with rfl | rfl <;> decide
  · intro c hc
    rcases hchar c hc with rfl | rfl <;> decide

theorem dropBreak_append {w : Text} (h : Unbroken w) (t : Text) :
    dropBreak (w ++ t) = w ++ dropBreak t := by
  apply List.takeWhile_append_of_pos
  intro c hc
  simp [h.1 c hc, h.2 c hc]

/-- The lines that close each body by the same terminator; what follows the last terminator is one
more line, unless it is empty. -/
def rows (e : Eol) (bodies : List Text) (last : Text) : List Text :=
  bodies.map (· ++ e.text) ++ lines last

/-- Bodies and an open line of which rows can be made. -/
structure Bare (bodies : List Text) (last : Text) : Prop where
  bodies : ∀ b ∈ bodies, Unbroken b
  last : Unbroken last

section
variable {e : Eol} {bodies : List Text} {last : Text}

theorem eol_terminated {b : Text} (hb : Unbroken b) : Terminated (b ++ e.text) := by
  refine ⟨b, hb.1, ?_⟩
  cases e <;> simp [Eol.text]

theorem eol_untorn {a b : Text} (hb : Unbroken b) : ¬ Torn (a ++ e.text) (b ++ e.text) := by
  rintro ⟨hr, hn⟩
  -- Only the lone return could be torn, and behind it comes a body or another return.
  cases e with
  | lf => simp [Eol.text] at hr
  | crlf => simp [Eol.text] at hr
  | cr =>
    cases b with
    | nil => simp [Eol.text] at hn
    | cons c b => exact (hb.1 c (by simp)).1 (by simpa using hn)

theorem cut_rows (h : Bare bodies last) : Cut (rows e bodies last) := by
  refine ⟨bodies.map (· ++ e.text), last, ⟨?_, ?_⟩, h.last.1, rfl⟩
  · intro l hl
    obtain ⟨b, hb, rfl⟩ := List.mem_map.mp hl
    exact eol_terminated (h.bodies b hb)
  · rw [List.isChain_map]
    apply List.Pairwise.isChain
    apply List.pairwise_of_forall_mem_list
    intro a _ b hb
    exact eol_untorn (h.bodies b hb)

theorem eol_narrow : Narrow e.text := by
  cases e <;> decide

theorem ruled_rows (h : Bare bodies last) : Ruled (rows e bodies last) := by
  refine ⟨cut_rows h, ?_⟩
  intro l hl
  rcases List.mem_append.mp hl with hl | hl
  · obtain ⟨b, hb, rfl⟩ := List.mem_map.mp hl
    intro c hc
    rcases List.mem_append.mp hc with hc | hc
    · exact (h.bodies b hb).2 c hc
    · exact eol_narrow c hc
  · intro c hc
    apply h.last.2
    rw [← lines_flatten last]
    exact List.mem_flatten.mpr ⟨l, hl, hc⟩

end

/-! ### Taking the margin off -/

/-- The margin that the first line of a text sets. -/
def marginBy (first : Text) : Text := if isBlankLine first then [] else indentOf first

/-- The line without the margin, if it has that. -/
def outdent (margin line : Text) : Text := (after? margin line).getD line

theorem outdent_append (margin t : Text) : outdent margin (margin ++ t) = t := by
  rw [outdent, after?_eq_some.mpr rfl, Option.getD_some]

theorem marginBy_isIndent {c : Char} {first : Text} (h : c ∈ marginBy first) : isIndent c = true := by
  rw [marginBy] at h
  split_ifs at h
  · simp at h
  · exact indentOf_isIndent h

/-- What is taken off a line is indentation, if the margin is. -/
theorem outdent_split {margin : Text} (hm : ∀ c ∈ margin, isIndent c = true) (line : Text) :
    ∃ front, (∀ c ∈ front, isIndent c = true) ∧ line = front ++ outdent margin line := by
  rw [outdent]
  rcases hrest : after? margin line with _ | rest
  · exact ⟨[], by simp, rfl⟩
  · exact ⟨margin, hm, after?_eq_some.mp hrest⟩

theorem isBlankLine_outdent {margin : Text} (hm : ∀ c ∈ margin, isIndent c = true) (line : Text) :
    isBlankLine (outdent margin line) = isBlankLine line := by
  obtain ⟨front, hfront, hline⟩ := outdent_split hm line
  conv_rhs => rw [hline]
  rw [isBlankLine_append, isBlankLine_indent hfront, Bool.true_and]

/-- The margin of the first display line is taken off each of them. -/
theorem dedent_display (code : Text) :
    Python.dedent code =
      ((displayLines code).map (outdent (marginBy ((displayLines code).headD [])))).flatten := by
  have hflatten := displayLines_flatten code
  rw [Python.dedent]
  generalize displayLines code = ls at hflatten ⊢
  rcases ls with _ | ⟨first, rest⟩
  · exact hflatten.symm
  · rw [List.headD_cons]
    dsimp only
    split_ifs with hplain
    · have hmargin : marginBy first = [] := by
        rcases Bool.or_eq_true_iff.mp hplain with hempty | hblank
        · rw [marginBy, List.isEmpty_iff.mp hempty, ite_self]
        · rw [marginBy, if_pos hblank]
      have hmap : (first :: rest).map (outdent []) = first :: rest := List.map_id _
      rw [hmargin, hmap, hflatten]
    · have hmargin : marginBy first = indentOf first := by
        rw [marginBy, if_neg fun hblank => hplain (by rw [hblank, Bool.or_true])]
      rw [hmargin]
      rfl

/-- Taking the margin off a ruled text, line by line. -/
theorem dedent_ruled {ls : List Text} (h : Ruled ls) :
    Python.dedent ls.flatten = (ls.map (outdent (marginBy (ls.headD [])))).flatten := by
  rw [dedent_display, displayLines_ruled h]

end Excerpt
