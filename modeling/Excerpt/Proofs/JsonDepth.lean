import Excerpt.Proofs.JsonSteps

/-! What the readers of JSON do with a text, whatever it is: one that succeeds leaves a shorter end of
it, and one that fails at the nesting has met more opening brackets than may nest. -/
namespace Excerpt.Json

/-- How many arrays and objects a text can open. -/
def openings (t : Text) : ℕ := t.countP isOpening

/-- What comes of reading `t` inside `depth` brackets: a shorter end of it is left, or else the
nesting is to blame only if its opening brackets suffice to go too deep. -/
def Bounded {α : Type} (depth : ℕ) (t : Text) : Except Fault (α × Cursor) → Prop
  | .ok (_, c) => c.rest <:+ t ∧ c.rest.length < t.length
  | .error f => f.problem.isDepth = true → maxDepth < depth + openings t

section
variable {α β : Type} {depth depth' : ℕ} {t t' : Text}

theorem openings_suffix (h : t' <:+ t) : openings t' ≤ openings t := h.sublist.countP_le

theorem Bounded.mono {x : Except Fault (α × Cursor)} (h : Bounded depth' t' x) (hend : t' <:+ t)
    (hdepth : depth' + openings t' ≤ depth + openings t) : Bounded depth t x := by
  rcases x with f | ⟨a, c⟩
  · intro hdeep
    exact lt_of_lt_of_le (h hdeep) hdepth
  · exact ⟨h.1.trans hend, lt_of_lt_of_le h.2 hend.length_le⟩

theorem Bounded.of_suffix {x : Except Fault (α × Cursor)} (h : Bounded depth t' x) (hend : t' <:+ t) :
    Bounded depth t x :=
  h.mono hend (Nat.add_le_add_left (openings_suffix hend) depth)

/-- Inside one more bracket. -/
theorem Bounded.of_open {x : Except Fault (α × Cursor)} {b : Char} (h : Bounded (depth + 1) t' x)
    (hb : isOpening b = true) (hend : t' <:+ t) : Bounded depth (b :: t) x := by
  have hcount : openings (b :: t) = openings t + 1 := List.countP_cons_of_pos hb
  have hle := openings_suffix hend
  exact h.mono (hend.trans (List.suffix_cons b t)) (by omega)

theorem Bounded.bind {x : Except Fault (α × Cursor)} {f : α × Cursor → Except Fault (β × Cursor)}
    (hx : Bounded depth t x)
    (hf : ∀ a c, c.rest <:+ t → c.rest.length < t.length → Bounded depth t (f (a, c))) :
    Bounded depth t (x >>= f) := by
  rcases x with e | ⟨a, c⟩
  · exact hx
  · exact hf a c hx.1 hx.2

theorem bounded_fail {problem : Problem} (p : ℕ) (h : problem.isDepth = false) :
    Bounded depth t (fail (α := α) problem p) := by
  intro hdeep
  rw [h] at hdeep
  cases hdeep

theorem bounded_ite {P : Prop} [Decidable P] {x y : Except Fault (α × Cursor)}
    (hx : Bounded depth t x) (hy : Bounded depth t y) : Bounded depth t (if P then x else y) := by
  split_ifs
  · exact hx
  · exact hy

theorem bounded_deep {b : Char} {problem : Problem} (p : ℕ) (hb : isOpening b = true)
    (h : maxDepth ≤ depth) : Bounded depth (b :: t) (fail (α := α) problem p) := by
  -- The bracket that goes too deep stands in the text itself.
  intro _
  have hcount : openings (b :: t) = openings t + 1 := List.countP_cons_of_pos hb
  omega

end

/-! ### Strings -/

theorem unit?_suffix {t r : Text} {n : ℕ} (h : unit? t = some (n, r)) : r <:+ t := by
  obtain ⟨a, b, c, d, rfl⟩ := hex4?_eq_some (unit?_eq_some.mp h).1
  exact List.suffix_append [a, b, c, d] r

theorem secondUnit_suffix {n : ℕ} {t r : Text} {c : Option Char} (h : secondUnit n t = .ok (c, r)) :
    r <:+ t := by
  have hlone {t : Text} (h : Except.ok (ε := Problem) (some (charOf n), t) = .ok (c, r)) : r <:+ t := by
    cases h
    exact List.suffix_refl r
  unfold secondUnit at h
  split at h
  swap
  · exact hlone h
  split_ifs at h with hhigh
  swap
  · exact hlone h
  split at h
  · cases h
  · next m r' hu =>
    split_ifs at h with hlow
    · cases h
      exact (unit?_suffix hu).trans (List.suffix_append ['\\', 'u'] _)
    · exact hlone h

theorem secondUnit_error {n : ℕ} {t : Text} {problem : Problem} (h : secondUnit n t = .error problem) :
    problem = .unicodeEscape := by
  unfold secondUnit at h
  split at h
  swap
  · cases h
  split_ifs at h with hhigh
  split at h
  · cases h
    rfl
  · split_ifs at h

/-- No piece is empty. -/
theorem piece_ok {t r : Text} {c : Option Char} (h : piece t = .ok (c, r)) :
    r <:+ t ∧ r.length < t.length := by
  -- The rest is an end of what stands behind the first character.
  obtain ⟨d, u, rfl, hend⟩ : ∃ d u, t = d :: u ∧ r <:+ u := by
    revert h
    fun_cases piece t with
    | case1 | case2 | case4 | case6 | case8 =>
      intro h
      cases h
    | case3 u | case9 d u =>
      intro h
      cases h
      exact ⟨_, r, rfl, List.suffix_refl r⟩
    | case5 u n u' hu =>
      intro h
      have hend := (secondUnit_suffix h).trans (unit?_suffix hu)
      exact ⟨_, _, rfl, hend.trans (List.suffix_cons 'u' u)⟩
    | case7 e u =>
      intro h
      cases h
      exact ⟨_, _, rfl, List.suffix_cons e r⟩
  refine ⟨hend.trans (List.suffix_cons d u), ?_⟩
  have hle := hend.length_le
  rw [List.length_cons]
  omega

/-- Trouble with a piece is never the nesting. -/
theorem piece_error {t : Text} {problem : Problem} (h : piece t = .error problem) :
    problem.isDepth = false := by
  revert h
  fun_cases piece t with
  | case3 | case7 | case9 =>
    intro h
    cases h
  | case1 | case2 | case4 | case6 | case8 =>
    intro h
    cases h
    rfl
  | case5 =>
    intro h
    rw [secondUnit_error h]
    rfl

theorem bounded_stringBody {depth : ℕ} (start : ℕ) {fuel : ℕ} (acc : Text) (c : Cursor)
    (hfuel : c.rest.length < fuel) : Bounded depth c.rest (stringBody start fuel acc c) := by
  obtain ⟨t, p⟩ := c
  induction fuel generalizing acc t p with
  | zero => exact absurd hfuel (Nat.not_lt_zero _)
  | succ fuel ih =>
    have hstep := stringStep start acc p (Nat.le_of_lt_succ hfuel)
    generalize stringBody start (fuel + 1) acc ⟨t, p⟩ = x at hstep ⊢
    cases hstep with
    | fault q h => exact bounded_fail q (piece_error h)
    | quote q h => exact piece_ok h
    | @char e r q h =>
      -- The piece took a character, so the fuel suffices for the rest.
      obtain ⟨hend, hlen⟩ := piece_ok h
      have hroom : r.length < fuel := lt_of_lt_of_le hlen (Nat.le_of_lt_succ hfuel)
      exact (ih (e :: acc) r q hroom).of_suffix hend

theorem bounded_string (depth : ℕ) (c : Cursor) : Bounded depth c.rest (string c) :=
  (bounded_stringBody _ [] c (Nat.lt_succ_self _)).bind fun _ _ hend hlen => ⟨hend, hlen⟩

/-! ### Numbers and words -/

theorem advance_suffix (c : Cursor) (n : ℕ) : (c.advance n).rest <:+ c.rest := List.drop_suffix n c.rest

theorem skipBlank_suffix (c : Cursor) : c.skipBlank.rest <:+ c.rest := List.drop_suffix _ c.rest

theorem advance_shorter {c : Cursor} {n : ℕ} (hc : c.rest ≠ []) (hn : 0 < n) :
    (c.advance n).rest.length < c.rest.length := by
  have hpos := List.length_pos_iff.mpr hc
  rw [Cursor.advance, List.length_drop]
  omega

theorem bounded_number (depth : ℕ) (c : Cursor) : Bounded depth c.rest (number c) := by
  by_cases hwhole : (wholeDigits (signOf c.rest).2).isEmpty = true
  · simp only [number, hwhole, if_true]
    exact bounded_fail c.position rfl
  have hc : c.rest ≠ [] := by
    intro hnil
    rw [hnil] at hwhole
    exact hwhole rfl
  have hpos : 0 < (wholeDigits (signOf c.rest).2).length := by
    rw [List.length_pos_iff]
    simpa using hwhole
  -- A number takes at least its whole digits, whatever its fraction and its power.
  have htaken {α : Type} (a : α) {x y z : ℕ} :
      Bounded depth c.rest (.ok (a, c.advance (x + (wholeDigits (signOf c.rest).2).length + y + z))) :=
    ⟨advance_suffix c _, advance_shorter hc (by omega)⟩
  simp only [number, hwhole, Bool.false_eq_true, if_false]
  apply bounded_ite
  · exact bounded_ite (bounded_fail c.position rfl) (htaken _)
  · exact htaken _

theorem bounded_scalar (depth : ℕ) (c : Cursor) : Bounded depth c.rest (scalar c) := by
  rw [scalar, word?_eq]
  rcases hword : words.find? fun w => startsWith w.1 c.rest with _ | w
  · rw [hword]
    exact bounded_number depth c
  · rw [hword]
    have hlong : ∀ w ∈ words, 0 < w.1.length ∧ startsWith w.1 [] = false := by decide
    obtain ⟨hpos, hnil⟩ := hlong w (List.mem_of_find?_eq_some hword)
    have hc : c.rest ≠ [] := by
      intro hc
      have hstart := List.find?_some hword
      rw [hc, hnil] at hstart
      cases hstart
    exact ⟨advance_suffix c _, advance_shorter hc hpos⟩

/-! ### Values, items and fields -/

section
variable {α : Type} {depth : ℕ} {t : Text} {c : Cursor}

theorem bounded_entryEnd (close : Char) (all : α) {more : Cursor → Except Fault (α × Cursor)}
    (hend : c.rest <:+ t) (hlen : c.rest.length < t.length)
    (hmore : ∀ c, Bounded depth c.rest (more c)) : Bounded depth t (entryEnd close all more c) := by
  have hnext := (advance_suffix c 1).trans hend
  rw [entryEnd]
  apply bounded_ite
  · exact ⟨hnext, lt_of_le_of_lt (advance_suffix c 1).length_le hlen⟩
  apply bounded_ite
  · exact (hmore _).of_suffix ((skipBlank_suffix _).trans hnext)
  · exact bounded_fail c.position rfl

theorem bounded_opened {b : Char} (close : Char) (empty : Json) (deep : Problem)
    {inner : Cursor → Except Fault (Json × Cursor)} (p : ℕ) (hb : isOpening b = true)
    (hinner : ∀ c, Bounded (depth + 1) c.rest (inner c)) :
    Bounded depth (b :: t) (if maxDepth ≤ depth then fail deep p
      else opened close empty inner (Cursor.skipBlank ⟨t, p + 1⟩)) := by
  have hblank : (Cursor.skipBlank ⟨t, p + 1⟩).rest <:+ t := skipBlank_suffix ⟨t, p + 1⟩
  split_ifs with hdeep
  · exact bounded_deep p hb hdeep
  rw [opened]
  apply bounded_ite
  · have hend := (advance_suffix (Cursor.skipBlank ⟨t, p + 1⟩) 1).trans hblank
    exact ⟨hend.trans (List.suffix_cons b t), Nat.lt_succ_of_le hend.length_le⟩
  · exact (hinner _).of_open hb hblank

end

/-- The readers that call each other, all with the same fuel. -/
structure BoundedReaders (fuel : ℕ) : Prop where
  value : ∀ depth c, Bounded depth c.rest (value fuel depth c)
  items : ∀ depth acc c, Bounded depth c.rest (items fuel depth acc c)
  fields : ∀ depth acc c, Bounded depth c.rest (fields fuel depth acc c)

section
variable {fuel : ℕ} (h : BoundedReaders fuel) (depth : ℕ)

include h

theorem bounded_value (c : Cursor) : Bounded depth c.rest (value (fuel + 1) depth c) := by
  obtain ⟨t, p⟩ := c
  by_cases hscalar : ∀ b ∈ t.head?, b ≠ '"' ∧ isOpening b = false
  · rw [value_scalar fuel depth hscalar]
    exact bounded_scalar depth ⟨t, p⟩
  rcases t with _ | ⟨b, t⟩
  · simp at hscalar
  by_cases hquote : b = '"'
  · subst hquote
    rw [value_string]
    have hstring := (bounded_string depth ⟨t, p + 1⟩).of_suffix (List.suffix_cons '"' t)
    exact hstring.bind fun _ _ hend hlen => ⟨hend, hlen⟩
  have hopen : b = '[' ∨ b = '{' := by
    simpa [hquote, isOpening, or_iff_not_imp_left] using hscalar
  rcases hopen with rfl | rfl
  · rw [value_bracket]
    apply bounded_opened ']' (.arr []) .deepArray p rfl
    intro c
    exact (h.items (depth + 1) [] c).bind fun _ _ hend hlen => ⟨hend, hlen⟩
  · rw [value_brace]
    apply bounded_opened '}' (.obj []) .deepObject p rfl
    intro c
    exact (h.fields (depth + 1) [] c).bind fun _ _ hend hlen => ⟨hend, hlen⟩

theorem bounded_items (acc : List Json) (c : Cursor) :
    Bounded depth c.rest (items (fuel + 1) depth acc c) := by
  rw [items_succ]
  apply (h.value depth c).bind
  intro v c' hend hlen
  have hblank := skipBlank_suffix c'
  exact bounded_entryEnd ']' _ (hblank.trans hend) (lt_of_le_of_lt hblank.length_le hlen)
    (h.items depth (v :: acc))

theorem bounded_fields (acc : List (String × Json)) (c : Cursor) :
    Bounded depth c.rest (fields (fuel + 1) depth acc c) := by
  rw [fields_succ]
  refine bounded_ite ?_ (bounded_fail c.position rfl)
  have hname := (bounded_string depth (c.advance 1)).of_suffix (advance_suffix c 1)
  apply hname.bind
  intro key c₁ hend₁ _
  refine bounded_ite ?_ (bounded_fail _ rfl)
  -- The value starts behind the colon and the blanks on both sides of it.
  have hcolon : (c₁.skipBlank.advance 1).skipBlank.rest <:+ c.rest :=
    (skipBlank_suffix _).trans ((advance_suffix _ 1).trans ((skipBlank_suffix c₁).trans hend₁))
  apply ((h.value depth _).of_suffix hcolon).bind
  intro v c₂ hend₂ hlen₂
  have hblank := skipBlank_suffix c₂
  exact bounded_entryEnd '}' _ (hblank.trans hend₂) (lt_of_le_of_lt hblank.length_le hlen₂)
    (h.fields depth (put key v acc))

end

theorem boundedReaders (fuel : ℕ) : BoundedReaders fuel := by
  -- A reader out of fuel fails, but not at the nesting, so the claim needs no bound on the fuel.
  induction fuel with
  | zero =>
    exact ⟨fun _ c => bounded_fail c.position rfl, fun _ _ c => bounded_fail c.position rfl,
      fun _ _ c => bounded_fail c.position rfl⟩
  | succ fuel ih => exact ⟨bounded_value ih, bounded_items ih, bounded_fields ih⟩

/-- Where the nesting is too deep, there are more opening brackets than may nest. -/
theorem maxDepth_lt_openings {t : Text} {f : Fault} (h : read t = .error f)
    (hdeep : f.problem.isDepth = true) : maxDepth < openings t := by
  by_cases hmark : IsMarked t
  · rw [read_marked hmark] at h
    cases h
    cases hdeep
  rw [read_unmarked hmark] at h
  have hbound := ((boundedReaders (2 * t.length + 1)).value 0 (Cursor.skipBlank ⟨t, 0⟩)).of_suffix
    (skipBlank_suffix ⟨t, 0⟩)
  rcases hvalue : value (2 * t.length + 1) 0 (Cursor.skipBlank ⟨t, 0⟩) with e | r
  · rw [hvalue] at h hbound
    cases h
    simpa using hbound hdeep
  · rw [hvalue] at h
    simp only [bind, Except.bind] at h
    split_ifs at h
    cases h
    cases hdeep

/-! ### Brackets in a row -/

theorem skipBlank_brackets (n : ℕ) (t : Text) (p : ℕ) :
    Cursor.skipBlank ⟨List.replicate (n + 1) '[' ++ t, p⟩ = ⟨List.replicate (n + 1) '[' ++ t, p⟩ := by
  rw [List.replicate_succ]
  exact skipBlank_solid p (startsSolid_cons _ rfl)

/-- More brackets in a row than may nest stop the reader, whatever follows them. -/
theorem value_brackets {fuel depth n : ℕ} (t : Text) (p : ℕ) (hdepth : depth ≤ maxDepth)
    (hn : maxDepth < depth + n) (hfuel : 2 * n ≤ fuel) :
    ∃ q, value fuel depth ⟨List.replicate n '[' ++ t, p⟩ = .error ⟨.deepArray, q⟩ := by
  induction n generalizing fuel depth p with
  | zero => omega
  | succ n ih =>
    -- A bracket costs two steps, one of the value and one of its items.
    obtain ⟨fuel, rfl⟩ : ∃ f, fuel = f + 2 := ⟨fuel - 2, by omega⟩
    rw [List.replicate_succ, List.cons_append, value_bracket]
    by_cases hlast : maxDepth ≤ depth
    · exact ⟨p, if_pos hlast⟩
    rw [if_neg hlast]
    -- The next bracket is the first item.
    obtain ⟨m, rfl⟩ : ∃ m, n = m + 1 := ⟨n - 1, by omega⟩
    have hclose : (List.replicate (m + 1) '[' ++ t).head? ≠ some ']' := by
      simp [List.replicate_succ]
    obtain ⟨q, hitem⟩ : ∃ q, value fuel (depth + 1) ⟨List.replicate (m + 1) '[' ++ t, p + 1⟩ =
        .error ⟨.deepArray, q⟩ := ih (p + 1) (by omega) (by omega) (by omega)
    refine ⟨q, ?_⟩
    rw [skipBlank_brackets, opened, if_neg hclose, items_succ, hitem]
    rfl

theorem read_brackets {n : ℕ} (hn : maxDepth < n) (t : Text) :
    ∃ q, read (List.replicate n '[' ++ t) = .error ⟨.deepArray, q⟩ := by
  obtain ⟨m, rfl⟩ : ∃ m, n = m + 1 := ⟨n - 1, by omega⟩
  have hunmarked : ¬ IsMarked (List.replicate (m + 1) '[' ++ t) := by
    rw [List.replicate_succ]
    intro hmark
    obtain ⟨c, hc, hnat⟩ := hmark
    cases hc
    revert hnat
    decide
  have hfuel : 2 * (m + 1) ≤ 2 * (List.replicate (m + 1) '[' ++ t).length + 1 := by
    rw [List.length_append, List.length_replicate]
    omega
  have hdeep : maxDepth < 0 + (m + 1) := by omega
  obtain ⟨q, hvalue⟩ := value_brackets t 0 (Nat.zero_le maxDepth) hdeep hfuel
  refine ⟨q, ?_⟩
  rw [read_unmarked hunmarked, skipBlank_brackets, hvalue]
  rfl

end Excerpt.Json
