import Excerpt.Registry
import Excerpt.Proofs.BalancedStatements

/-! Which braces a JavaScript unit may have. A unit that is a program has its braces in pairs. One that is
the inside of a class may instead close that class and leave another one open. -/
namespace Excerpt.JavaScript

/-! ### Where a text may be cut -/

section
variable {m n : ℕ} {u v : Text}

theorem falls_rest (h : Falls n (u ++ v)) (hu : u.count '{' + n = u.count '}' + m) : Falls m v := by
  obtain ⟨hp, ht⟩ := h
  rw [List.count_append, List.count_append] at ht
  constructor
  · intro q hq
    have hle := hp (u ++ q) ((List.prefix_append_right_inj u).mpr hq)
    rw [List.count_append, List.count_append] at hle
    omega
  · omega

theorem falls_front (h : Falls n (u ++ v)) (hu : u.count '{' + n = u.count '}') : Falls n u := by
  refine ⟨?_, hu⟩
  intro p hp
  exact h.1 p (hp.trans (List.prefix_append u v))

/-- What the first character does. -/
theorem falls_cons {c : Char} (h : Falls n (c :: v)) :
    c = '{' ∧ Falls (n + 1) v ∨ (∃ k, n = k + 1 ∧ c = '}' ∧ Falls k v) ∨
      isPlain c = true ∧ Falls n v := by
  have hrest {m : ℕ} (hc : [c].count '{' + n = [c].count '}' + m) : Falls m v :=
    falls_rest (u := [c]) h hc
  by_cases hopen : c = '{'
  · subst hopen
    exact .inl ⟨rfl, hrest (by simp [Nat.add_comm])⟩
  · by_cases hclose : c = '}'
    · subst hclose
      have hle : 1 ≤ n := by simpa using h.1 ['}'] (List.prefix_append ['}'] v)
      obtain ⟨k, rfl⟩ := Nat.exists_eq_add_of_le' hle
      exact .inr (.inl ⟨k, rfl, rfl, hrest (by simp [Nat.add_comm])⟩)
    · have hzero : [c].count '{' = 0 ∧ [c].count '}' = 0 := by simp [hopen, hclose]
      exact .inr (.inr ⟨by simp [isPlain, hopen, hclose], hrest (by omega)⟩)

end

theorem falls_pair {a : Text} (ha : Falls 0 a) : Falls 0 ('{' :: (a ++ ['}'])) :=
  falls_opening (falls_append ha falls_closing)

/-- Text that closes braces from outside closes a first one, behind balanced text. -/
theorem first_closing {n : ℕ} {t : Text} (h : Falls (n + 1) t) :
    ∃ a b, t = a ++ '}' :: b ∧ Falls 0 a ∧ Falls n b := by
  induction hlen : t.length using Nat.strong_induction_on generalizing t n with
  | _ k ih =>
    subst hlen
    cases t with
    | nil => exact absurd h.2 (by simp)
    | cons c t =>
      rcases falls_cons h with ⟨rfl, ht⟩ | ⟨k, hk, rfl, ht⟩ | ⟨hc, ht⟩
      · -- The brace that is opened here is closed before the one from outside.
        obtain ⟨a, s, rfl, ha, hs⟩ := ih _ (by simp) ht rfl
        have hshort : s.length < ('{' :: (a ++ '}' :: s)).length := by
          simp only [List.length_cons, List.length_append]
          omega
        obtain ⟨a', b, rfl, ha', hb⟩ := ih _ hshort hs rfl
        have hboth := falls_append (falls_pair ha) ha'
        exact ⟨'{' :: (a ++ ['}']) ++ a', b, by simp, hboth, hb⟩
      · obtain rfl : n = k := by omega
        exact ⟨[], t, rfl, falls_nil, ht⟩
      · obtain ⟨a, b, rfl, ha, hb⟩ := ih _ (by simp) ht rfl
        have hfront : Falls 0 ([c] ++ a) := falls_append (falls_plain (by simpa using hc)) ha
        exact ⟨c :: a, b, rfl, hfront, hb⟩

/-- The last brace of a balanced text closes one that has balanced text around it. -/
theorem last_opening {s : Text} (h : Falls 0 (s ++ ['}'])) :
    ∃ m b, s = m ++ '{' :: b ∧ Falls 0 m ∧ Falls 0 b := by
  induction hlen : s.length using Nat.strong_induction_on generalizing s with
  | _ k ih =>
    subst hlen
    cases s with
    | nil => exact absurd h.2 (by decide)
    | cons c s =>
      rcases falls_cons h with ⟨rfl, ht⟩ | ⟨k, hk, _⟩ | ⟨hc, ht⟩
      · obtain ⟨a, b, heq, ha, hb⟩ := first_closing ht
        rcases List.eq_nil_or_concat b with rfl | ⟨b', d, rfl⟩
        · obtain rfl := List.append_cancel_right heq
          exact ⟨[], s, rfl, falls_nil, ha⟩
        · -- The brace that is opened here is closed before the last one.
          have hsplit : s ++ ['}'] = (a ++ '}' :: b') ++ [d] := by simpa using heq
          obtain ⟨rfl, hd⟩ := List.append_inj' hsplit rfl
          obtain rfl : '}' = d := by simpa using hd
          have hshort : b'.length < ('{' :: (a ++ '}' :: b')).length := by
            simp only [List.length_cons, List.length_append]
            omega
          obtain ⟨m, b, rfl, hm, hb⟩ := ih _ hshort (by simpa using hb) rfl
          exact ⟨'{' :: (a ++ ['}']) ++ m, b, by simp, falls_append (falls_pair ha) hm, hb⟩
      · exact absurd hk (by simp)
      · obtain ⟨m, b, rfl, hm, hb⟩ := ih _ (by simp) ht rfl
        have hfront : Falls 0 ([c] ++ m) := falls_append (falls_plain (by simpa using hc)) hm
        exact ⟨c :: m, b, rfl, hfront, hb⟩

/-! ### Inside a class -/

/-- What a class may be put around: balanced text, or text that closes the class and opens a brace which
is left to the end of the class. -/
theorem inside_braces {code : Text} (h : Falls 1 (code ++ ['\n', '}'])) :
    Balanced code ∨ ∃ a m b, code = a ++ '}' :: (m ++ '{' :: b) ∧
      Balanced a ∧ Balanced m ∧ Balanced b := by
  simp only [balanced_iff]
  obtain ⟨a, s, heq, ha, hs⟩ := first_closing h
  rcases List.eq_nil_or_concat s with rfl | ⟨s', d, rfl⟩
  · have hcode : (code ++ ['\n']) ++ ['}'] = a ++ ['}'] := by simpa using heq
    obtain rfl := List.append_cancel_right hcode
    left
    exact falls_front ha (by simpa using ha.2)
  · -- The first brace that goes to the class is in the text, so the last one goes to the text.
    right
    have hsplit : (code ++ ['\n']) ++ ['}'] = (a ++ '}' :: s') ++ [d] := by simpa using heq
    obtain ⟨hcode, hd⟩ := List.append_inj' hsplit rfl
    obtain rfl : '}' = d := by simpa using hd
    obtain ⟨m, b, rfl, hm, hb⟩ := last_opening (by simpa using hs)
    rcases List.eq_nil_or_concat b with rfl | ⟨b', d, rfl⟩
    · have hend : code ++ ['\n'] = (a ++ '}' :: m) ++ ['{'] := by simpa using hcode
      exact absurd (List.append_inj' hend rfl).2 (by decide)
    · have hend : code ++ ['\n'] = (a ++ '}' :: (m ++ '{' :: b')) ++ [d] := by simpa using hcode
      obtain ⟨rfl, hd⟩ := List.append_inj' hend rfl
      obtain rfl : '\n' = d := by simpa using hd
      rw [List.concat_eq_append] at hb
      exact ⟨a, m, b', rfl, ha, hm, falls_front hb (by simpa using hb.2)⟩

/-- The opening of the class that a text is put into. -/
def classOpening : Text := ['c', 'l', 'a', 's', 's', ' ', '_', ' ', '{', '\n']

theorem inClass_eq (code : Text) : inClass code = classOpening ++ (code ++ ['\n', '}']) :=
  calc
    inClass code = classOpening ++ code ++ ['\n', '}'] := rfl
    _ = classOpening ++ (code ++ ['\n', '}']) := List.append_assoc _ _ _

/-- An arrow in the class is an arrow of the text. -/
theorem arrow_inClass {code r : Text} (h : ('-' :: '-' :: '>' :: r) <:+ inClass code) :
    ∃ s, r = s ++ ['\n', '}'] ∧ ('-' :: '-' :: '>' :: s) <:+ code := by
  obtain ⟨u, hu⟩ := h
  rw [inClass_eq] at hu
  -- It does not start in the opening,
  have hstart : ∃ v, v ++ '-' :: '-' :: '>' :: r = code ++ ['\n', '}'] := by
    rcases List.append_eq_append_iff.mp hu with ⟨v, hv, heq⟩ | ⟨v, _, heq⟩
    · cases v with
      | nil => exact ⟨[], heq⟩
      | cons c v =>
        obtain rfl : '-' = c := (List.cons.inj heq).1
        have hmem : '-' ∈ classOpening := hv ▸ (by simp)
        exact absurd hmem (by decide)
    · exact ⟨v, heq.symm⟩
  -- nor does it reach the end.
  obtain ⟨v, hv⟩ := hstart
  rcases List.append_eq_append_iff.mp hv with ⟨w, rfl, heq⟩ | ⟨w, _, heq⟩
  · rcases w with _ | ⟨x, _ | ⟨y, _ | ⟨z, s⟩⟩⟩
    · exact absurd heq (by simp)
    · exact absurd heq (by simp)
    · exact absurd heq (by simp)
    · simp only [List.cons_append, List.cons.injEq] at heq
      obtain ⟨rfl, rfl, rfl, rfl⟩ := heq
      exact ⟨s, rfl, List.suffix_append _ _⟩
  · have hmem : '-' ∈ ['\n', '}'] := heq ▸ (by simp)
    exact absurd hmem (by decide)

theorem notMem_of {marks t : Text} (h : (t.all fun c => !marks.contains c) = true) :
    ∀ c ∈ t, c ∉ marks := by
  intro c hc
  have hfree := List.all_eq_true.mp h c hc
  simpa using hfree

theorem clean_inClass {code : Text} (h : Clean code) : Clean (inClass code) where
  noMark := by
    intro c hc
    rw [inClass_eq, List.mem_append, List.mem_append] at hc
    rcases hc with hc | hc | hc
    · exact notMem_of (by decide) c hc
    · exact h.noMark c hc
    · exact notMem_of (by decide) c hc
  arrow := by
    intro r hr
    obtain ⟨s, rfl, hs⟩ := arrow_inClass hr
    have hline := h.arrow s hs
    have hsame : (s ++ ['\n', '}']).takeWhile (fun c => !isLineBreak c) =
        s.takeWhile fun c => !isLineBreak c := by
      rw [List.takeWhile_append]
      split_ifs with hlen
      · have hall := (List.takeWhile_prefix fun c => !isLineBreak c).eq_of_length hlen
        rw [hall]
        exact List.append_nil s
      · rfl
    rw [hsame]
    exact hline

theorem isProgram_of_isComplete {code : Text} {e : Evidence}
    (h : Language.javaScript.isComplete code e = true) :
    isProgram code = true ∨ isProgram (inClass code) = true := by
  rw [Language.isComplete] at h
  split at h
  · cases h
  · exact (Bool.or_eq_true _ _).mp h

theorem clean_of {t : Text} (h : (t.all fun c => !('-' :: foreignMarks).contains c) = true) :
    Clean t where
  noMark := fun c hc hmark => notMem_of h c hc (List.mem_cons_of_mem _ hmark)
  arrow := by
    intro r hr
    have hmem : '-' ∈ t := hr.subset List.mem_cons_self
    exact absurd List.mem_cons_self (notMem_of h '-' hmem)

end Excerpt.JavaScript
