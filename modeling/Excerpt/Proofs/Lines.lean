import Excerpt.Feed
import Mathlib.Data.List.Chain

/-! What a cut into lines is, said without the functions that cut: every line but the last has its
terminator, and no cut goes between a carriage return and the line feed behind it. -/
namespace Excerpt

/-- Text without line feeds and carriage returns. -/
def NoBreak (t : Text) : Prop := ∀ c ∈ t, c ≠ '\n' ∧ c ≠ '\r'

/-- One line with its terminator: a line feed, the pair, or a carriage return. -/
def Terminated (line : Text) : Prop :=
  ∃ body, NoBreak body ∧
    (line = body ++ ['\n'] ∨ line = body ++ ['\r', '\n'] ∨ line = body ++ ['\r'])

/-- A carriage return ends `u` and its line feed starts `v`. -/
def Torn (u v : Text) : Prop := u.getLast? = some '\r' ∧ v.head? = some '\n'

/-- Terminated lines in a row, no pair torn between two of them. -/
structure Whole (ls : List Text) : Prop where
  terminated : ∀ l ∈ ls, Terminated l
  untorn : ls.IsChain fun a b => ¬ Torn a b

/-- Lines in a row, of which the last may lack its terminator. -/
def Cut (ls : List Text) : Prop :=
  ∃ closed opened, Whole closed ∧ NoBreak opened ∧ ls = closed ++ lines opened

theorem terminated_ne_nil {l : Text} (h : Terminated l) : l ≠ [] := by
  rcases h with ⟨body, _, rfl | rfl | rfl⟩ <;> simp

theorem terminated_cons {c : Char} {l : Text} (hc : c ≠ '\n' ∧ c ≠ '\r') (h : Terminated l) :
    Terminated (c :: l) := by
  obtain ⟨body, hb, hl⟩ := h
  refine ⟨c :: body, ?_, ?_⟩
  · intro x hx
    rcases List.mem_cons.mp hx with rfl | hx
    · exact hc
    · exact hb x hx
  · rcases hl with rfl | rfl | rfl <;> simp

theorem torn_cons {c : Char} {l v : Text} (hl : l ≠ []) : Torn (c :: l) v ↔ Torn l v := by
  obtain ⟨d, r, rfl⟩ := List.exists_cons_of_ne_nil hl
  simp only [Torn, List.getLast?_cons_cons]

theorem not_torn_noBreak {u v : Text} (hv : NoBreak v) : ¬ Torn u v := by
  rintro ⟨_, h⟩
  exact (hv '\n' (List.mem_of_mem_head? h)).1 rfl

theorem closedLines_flatten (t : Text) :
    (closedLines t).1.flatten ++ (closedLines t).2 = t := by
  fun_induction closedLines t with
  | case1 => rfl
  | case2 r ls o he ih => simpa [he] using ih
  | case3 r ls o he ih => simpa [he] using ih
  | case4 r _ ls o he ih => simpa [he] using ih
  | case5 c r _ _ _ o he ih => simpa [he] using ih
  | case6 c r _ _ _ line ls o he ih => simpa [he] using ih

theorem closedLines_open_noBreak (t : Text) : NoBreak (closedLines t).2 := by
  fun_induction closedLines t with
  | case1 => simp [NoBreak]
  | case2 r ls o he ih => simpa only [he] using ih
  | case3 r ls o he ih => simpa only [he] using ih
  | case4 r _ ls o he ih => simpa only [he] using ih
  | case5 c r h1 _ h2 o he ih =>
    rw [he] at ih
    intro x hx
    rcases List.mem_cons.mp hx with rfl | hx
    · exact ⟨h1, h2⟩
    · exact ih x hx
  | case6 c r _ _ _ line ls o he ih => simpa only [he] using ih

theorem whole_nil : Whole [] := ⟨by simp, by simp⟩

theorem whole_cons {l : Text} {ls : List Text} (hl : Terminated l) (hs : Whole ls)
    (hn : ∀ b ∈ ls.head?, ¬ Torn l b) : Whole (l :: ls) := by
  refine ⟨?_, List.isChain_cons.mpr ⟨hn, hs.untorn⟩⟩
  intro x hx
  rcases List.mem_cons.mp hx with rfl | hx
  · exact hl
  · exact hs.terminated x hx

/-- The lines that a text closes are whole. -/
theorem closedLines_whole (t : Text) : Whole (closedLines t).1 := by
  fun_induction closedLines t with
  | case1 => exact whole_nil
  | case2 r ls o he ih =>
    rw [he] at ih
    exact whole_cons ⟨[], by simp [NoBreak], by simp⟩ ih (by simp [Torn])
  | case3 r ls o he ih =>
    rw [he] at ih
    exact whole_cons ⟨[], by simp [NoBreak], by simp⟩ ih (by simp [Torn])
  | case4 r hr ls o he ih =>
    -- The next line starts where `r` does, and that is not at a line feed.
    have hf := closedLines_flatten r
    rw [he] at ih hf
    refine whole_cons ⟨[], by simp [NoBreak], by simp⟩ ih ?_
    -- A line feed behind this return would have been taken with it.
    rintro b hb ⟨_, ht⟩
    obtain ⟨ls', rfl⟩ : ∃ ls', ls = b :: ls' := List.head?_eq_some_iff.mp hb
    obtain ⟨b', rfl⟩ : ∃ b', b = '\n' :: b' := List.head?_eq_some_iff.mp ht
    exact hr _ hf.symm
  | case5 c r _ _ _ o he ih => exact whole_nil
  | case6 c r h1 _ h2 line ls o he ih =>
    rw [he] at ih
    have hline := ih.terminated line (by simp)
    refine whole_cons (terminated_cons ⟨h1, h2⟩ hline) ⟨?_, ih.untorn.tail⟩ ?_
    · exact fun l hl => ih.terminated l (List.mem_cons_of_mem _ hl)
    · intro b hb
      rw [torn_cons (terminated_ne_nil hline)]
      exact (List.isChain_cons.mp ih.untorn).1 b hb

/-- A plain character joins the first line behind it. -/
theorem closedLines_cons {c : Char} (hc : c ≠ '\n' ∧ c ≠ '\r') (r : Text) :
    closedLines (c :: r) =
      match closedLines r with
      | ([], t) => ([], c :: t)
      | (line :: ls, t) => ((c :: line) :: ls, t) := by
  rcases hr : closedLines r with ⟨_ | ⟨line, ls⟩, t⟩ <;> simp [closedLines, hc, hr]

/-- One terminated line in front of any text is closed first, unless its pair is torn. -/
theorem closedLines_terminated_append {l v : Text} (hl : Terminated l) (hv : ¬ Torn l v) :
    closedLines (l ++ v) = (l :: (closedLines v).1, (closedLines v).2) := by
  obtain ⟨body, hb, hl⟩ := hl
  induction body generalizing l with
  | nil =>
    rcases hl with rfl | rfl | rfl
    · simp [closedLines]
    · simp [closedLines]
    · have hn : ∀ r, v = '\n' :: r → False := by
        rintro r rfl
        exact hv (by simp [Torn])
      simp only [List.nil_append, List.cons_append]
      rw [closedLines]
      exact hn
  | cons c body ih =>
    have hc := hb c (by simp)
    have hb' : NoBreak body := fun x hx => hb x (List.mem_cons_of_mem _ hx)
    obtain ⟨m, rfl, hm⟩ : ∃ m, l = c :: m ∧
        (m = body ++ ['\n'] ∨ m = body ++ ['\r', '\n'] ∨ m = body ++ ['\r']) := by
      rcases hl with rfl | rfl | rfl
      · exact ⟨_, rfl, Or.inl rfl⟩
      · exact ⟨_, rfl, Or.inr (Or.inl rfl)⟩
      · exact ⟨_, rfl, Or.inr (Or.inr rfl)⟩
    rw [torn_cons (terminated_ne_nil ⟨body, hb', hm⟩)] at hv
    rw [List.cons_append, closedLines_cons hc, ih hv hb' hm]

theorem closedLines_noBreak {o : Text} (ho : NoBreak o) : closedLines o = ([], o) := by
  induction o with
  | nil => rfl
  | cons c o ih =>
    rw [closedLines_cons (ho c (by simp)), ih (fun x hx => ho x (List.mem_cons_of_mem _ hx))]

theorem torn_append {u v w : Text} (hv : v ≠ []) : Torn (u ++ v) w ↔ Torn v w := by
  simp only [Torn, List.getLast?_append_of_ne_nil u hv]

/-- Everything about closed lines follows from this: whole lines in front of a text stay as they are. -/
theorem closedLines_whole_append {ls : List Text} {v : Text} (hs : Whole ls)
    (hv : ¬ Torn ls.flatten v) :
    closedLines (ls.flatten ++ v) = (ls ++ (closedLines v).1, (closedLines v).2) := by
  induction ls with
  | nil => simp
  | cons l ls ih =>
    have hl := hs.terminated l (by simp)
    have hs' : Whole ls :=
      ⟨fun x hx => hs.terminated x (List.mem_cons_of_mem _ hx), hs.untorn.tail⟩
    -- Behind `l` comes the next line of `ls`, or `v` if there is none.
    have hcut : ¬ Torn l (ls.flatten ++ v) := by
      cases ls with
      | nil => simpa using hv
      | cons m ls =>
        have hm : m ≠ [] := terminated_ne_nil (hs'.terminated m (by simp))
        obtain ⟨c, r, rfl⟩ := List.exists_cons_of_ne_nil hm
        have hn := (List.isChain_cons.mp hs.untorn).1 (c :: r) (by simp)
        simpa [Torn] using hn
    have hrest : ¬ Torn ls.flatten v := by
      by_cases he : ls.flatten = []
      · simp [Torn, he]
      · rwa [List.flatten_cons, torn_append he] at hv
    rw [List.flatten_cons, List.append_assoc, closedLines_terminated_append hl hcut,
      ih hs' hrest, List.cons_append]

/-- A whole list of lines and an open line are what their text is cut into. -/
theorem closedLines_whole_open {ls : List Text} {o : Text} (hs : Whole ls) (ho : NoBreak o) :
    closedLines (ls.flatten ++ o) = (ls, o) := by
  rw [closedLines_whole_append hs (not_torn_noBreak ho), closedLines_noBreak ho, List.append_nil]

/-- Closing lines piece by piece: only the open line is looked at again. -/
theorem closedLines_append {u v : Text} (huv : ¬ Torn u v) :
    closedLines (u ++ v) =
      ((closedLines u).1 ++ (closedLines ((closedLines u).2 ++ v)).1,
        (closedLines ((closedLines u).2 ++ v)).2) := by
  have hu := closedLines_flatten u
  have hcut : ¬ Torn (closedLines u).1.flatten ((closedLines u).2 ++ v) := by
    cases ho : (closedLines u).2 with
    | nil =>
      rw [ho, List.append_nil] at hu
      rwa [hu]
    | cons c o =>
      have hn := closedLines_open_noBreak u c (by simp [ho])
      simp [Torn, hn.1]
  calc
    _ = closedLines ((closedLines u).1.flatten ++ ((closedLines u).2 ++ v)) := by
      rw [← List.append_assoc, hu]
    _ = _ := closedLines_whole_append (closedLines_whole u) hcut

theorem lines_cons {c : Char} (hc : c ≠ '\n' ∧ c ≠ '\r') (r : Text) :
    lines (c :: r) =
      match lines r with
      | [] => [[c]]
      | line :: more => (c :: line) :: more := by
  rcases hr : lines r with _ | ⟨line, more⟩ <;> simp [lines, hc, hr]

theorem lines_noBreak {o : Text} (ho : NoBreak o) : lines o = if o = [] then [] else [o] := by
  induction o with
  | nil => rfl
  | cons c o ih =>
    rw [lines_cons (ho c (by simp)), ih (fun x hx => ho x (List.mem_cons_of_mem _ hx))]
    by_cases he : o = [] <;> simp [he]

theorem lines_noBreak_length {o : Text} (ho : NoBreak o) : (lines o).length ≤ 1 := by
  rw [lines_noBreak ho]
  split_ifs <;> simp

/-- The lines of a text are those it closes, then the one it leaves open. -/
theorem lines_eq_closed (t : Text) : lines t = (closedLines t).1 ++ lines (closedLines t).2 := by
  fun_induction closedLines t with
  | case1 => rfl
  | case2 r ls o he ih => rw [lines, ih, he, List.cons_append]
  | case3 r ls o he ih => rw [lines, ih, he, List.cons_append]
  | case4 r hr ls o he ih =>
    rw [lines, ih, he, List.cons_append]
    exact hr
  | case5 c r h1 _ h2 o he ih =>
    rw [lines_cons ⟨h1, h2⟩, ih, he, List.nil_append, List.nil_append, lines_cons ⟨h1, h2⟩]
  | case6 c r h1 _ h2 line ls o he ih =>
    rw [lines_cons ⟨h1, h2⟩, ih, he, List.cons_append, List.cons_append]

theorem lines_flatten (t : Text) : (lines t).flatten = t := by
  have ho : (lines (closedLines t).2).flatten = (closedLines t).2 := by
    rw [lines_noBreak (closedLines_open_noBreak t)]
    split_ifs with he <;> simp [he]
  rw [lines_eq_closed, List.flatten_append, ho, closedLines_flatten]

theorem lines_append {u v : Text} (huv : ¬ Torn u v) :
    lines (u ++ v) = (closedLines u).1 ++ lines ((closedLines u).2 ++ v) := by
  rw [lines_eq_closed (u ++ v), closedLines_append huv, List.append_assoc, ← lines_eq_closed]

theorem cut_lines (t : Text) : Cut (lines t) :=
  ⟨(closedLines t).1, (closedLines t).2, closedLines_whole t, closedLines_open_noBreak t,
    lines_eq_closed t⟩

theorem cut_whole {ls : List Text} (hs : Whole ls) : Cut ls :=
  ⟨ls, [], hs, by simp [NoBreak], by simp [lines]⟩

/-- A cut is the only way to cut its text. -/
theorem lines_cut {ls : List Text} (h : Cut ls) : lines ls.flatten = ls := by
  obtain ⟨closed, o, hs, ho, rfl⟩ := h
  rw [List.flatten_append, lines_flatten, lines_eq_closed, closedLines_whole_open hs ho]

theorem whole_take {ls : List Text} (hs : Whole ls) (n : ℕ) : Whole (ls.take n) :=
  ⟨fun l hl => hs.terminated l (List.mem_of_mem_take hl), hs.untorn.take n⟩

theorem whole_drop {ls : List Text} (hs : Whole ls) (n : ℕ) : Whole (ls.drop n) :=
  ⟨fun l hl => hs.terminated l (List.mem_of_mem_drop hl), hs.untorn.drop n⟩

theorem cut_drop {ls : List Text} (h : Cut ls) (n : ℕ) : Cut (ls.drop n) := by
  obtain ⟨closed, o, hs, ho, rfl⟩ := h
  rw [List.drop_append]
  rcases Nat.lt_or_ge closed.length n with hn | hn
  · have he : closed.drop n = [] := List.drop_eq_nil_of_le hn.le
    have hd : (lines o).drop (n - closed.length) = [] := by
      apply List.drop_eq_nil_of_le
      have := lines_noBreak_length ho
      omega
    rw [he, hd]
    exact cut_whole whole_nil
  · rw [Nat.sub_eq_zero_of_le hn, List.drop_zero]
    exact ⟨closed.drop n, o, whole_drop hs n, ho, rfl⟩

theorem cut_take {ls : List Text} (h : Cut ls) (n : ℕ) : Cut (ls.take n) := by
  obtain ⟨closed, o, hs, ho, rfl⟩ := h
  rw [List.take_append]
  rcases Nat.lt_or_ge closed.length n with hn | hn
  · have ht : (lines o).take (n - closed.length) = lines o := by
      apply List.take_of_length_le
      have := lines_noBreak_length ho
      omega
    rw [List.take_of_length_le hn.le, ht]
    exact ⟨closed, o, hs, ho, rfl⟩
  · rw [Nat.sub_eq_zero_of_le hn, List.take_zero, List.append_nil]
    exact cut_whole (whole_take hs n)

/-- Every line that another one follows has its terminator. -/
theorem cut_take_whole {ls : List Text} (h : Cut ls) {n : ℕ} (hn : n < ls.length) :
    Whole (ls.take n) := by
  obtain ⟨closed, o, hs, ho, rfl⟩ := h
  have hlen := lines_noBreak_length ho
  rw [List.length_append] at hn
  rw [List.take_append_of_le_length (by omega)]
  exact whole_take hs n

theorem cut_chain {ls : List Text} (h : Cut ls) :
    (ls.IsChain fun a b => ¬ Torn a b) ∧ ∀ l ∈ ls, l ≠ [] := by
  obtain ⟨closed, o, hs, ho, rfl⟩ := h
  rw [lines_noBreak ho]
  have hclosed (l : Text) (hl : l ∈ closed) : l ≠ [] := terminated_ne_nil (hs.terminated l hl)
  split_ifs with he
  · rw [List.append_nil]
    exact ⟨hs.untorn, hclosed⟩
  · refine ⟨List.isChain_append.mpr ⟨hs.untorn, List.isChain_singleton o, ?_⟩, ?_⟩
    · intro a _ b hb
      obtain rfl : o = b := by simpa using hb
      exact not_torn_noBreak ho
    · intro l hl
      rcases List.mem_append.mp hl with hl | hl
      · exact hclosed l hl
      · rwa [List.mem_singleton.mp hl]

theorem cut_flatten_ne_nil {ls : List Text} (h : Cut ls) (hne : ls ≠ []) : ls.flatten ≠ [] := by
  obtain ⟨l, ls, rfl⟩ := List.exists_cons_of_ne_nil hne
  have hl : l ≠ [] := (cut_chain h).2 l (by simp)
  simp [hl]

/-- Where a cut is split in two, no pair is torn. -/
theorem cut_split_untorn {u v : List Text} (h : Cut (u ++ v)) : ¬ Torn u.flatten v.flatten := by
  obtain ⟨hchain, hne⟩ := cut_chain h
  obtain ⟨_, _, hmid⟩ := List.isChain_append.mp hchain
  cases v with
  | nil => simp [Torn]
  | cons b v =>
    induction u using List.reverseRecOn with
    | nil => simp [Torn]
    | append_singleton u a _ =>
      have ha : a ≠ [] := hne a (by simp)
      obtain ⟨c, r, rfl⟩ := List.exists_cons_of_ne_nil (hne b (by simp))
      rw [List.flatten_append, List.flatten_singleton, torn_append ha]
      simpa [Torn] using hmid a (by simp) (c :: r) (by simp)

end Excerpt
