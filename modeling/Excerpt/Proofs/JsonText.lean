import Excerpt.Proofs.JsonScalars

/-! Every JSON value without floating-point numbers reads back from the text the printer writes for
it, if it has one. -/
namespace Excerpt.Json

/-- No floating-point number occurs, and no object has two fields of one name. -/
inductive Exact : Json → Prop
  | null : Exact .null
  | bool (b : Bool) : Exact (.bool b)
  | int (n : ℤ) : Exact (.int n)
  | str (s : String) : Exact (.str s)
  | arr {vs : List Json} (values : ∀ v ∈ vs, Exact v) : Exact (.arr vs)
  | obj {fs : List (String × Json)} (distinct : (fs.map Prod.fst).Nodup)
      (values : ∀ f ∈ fs, Exact f.2) : Exact (.obj fs)

/-! ### What can be written -/

section
variable {depth : ℕ}

theorem obstacleAt_int {n : ℤ} :
    obstacleAt depth (.int n) = none ↔ ¬ (toString n.natAbs).length > maxDigits := by
  simp [obstacleAt]

theorem obstacleAt_arr {vs : List Json} :
    obstacleAt depth (.arr vs) = none ↔ depth < maxDepth ∧ itemsObstacle (depth + 1) vs = none := by
  rw [obstacleAt]
  split_ifs with hdeep
  · simp [Nat.not_lt.mpr hdeep]
  · simp [Nat.not_le.mp hdeep]

theorem obstacleAt_obj {fs : List (String × Json)} :
    obstacleAt depth (.obj fs) = none ↔
      depth < maxDepth ∧ fieldsObstacle (depth + 1) fs = none := by
  rw [obstacleAt]
  split_ifs with hdeep
  · simp [Nat.not_lt.mpr hdeep]
  · simp [Nat.not_le.mp hdeep]

theorem fieldsObstacle_eq_none_iff {fs : List (String × Json)} :
    fieldsObstacle depth fs = none ↔ ∀ f ∈ fs, obstacleAt depth f.2 = none := by
  induction fs with
  | nil => simp [fieldsObstacle]
  | cons f fs ih => rw [fieldsObstacle, Option.or_eq_none_iff, ih, List.forall_mem_cons]

end

theorem written_eq_ok_iff {v : Json} {t : Text} :
    v.written = .ok t ↔ obstacleAt 0 v = none ∧ t = v.text := by
  rw [written]
  cases obstacleAt 0 v with
  | none => simp [eq_comm]
  | some p => simp

/-! ### Blanks -/

/-- No blank stands in front. -/
def StartsSolid (t : Text) : Prop := ∀ c ∈ t.head?, isJsonBlank c = false

theorem startsSolid_cons {c : Char} (t : Text) (h : isJsonBlank c = false) :
    StartsSolid (c :: t) := by
  rintro d ⟨⟩
  exact h

theorem skipBlank_append {b t : Text} (p : ℕ) (hb : ∀ c ∈ b, isJsonBlank c = true)
    (ht : StartsSolid t) : Cursor.skipBlank ⟨b ++ t, p⟩ = ⟨t, p + b.length⟩ := by
  have hblank : (b ++ t).takeWhile isJsonBlank = b := by
    rw [List.takeWhile_append_of_pos hb]
    cases t with
    | nil => simp
    | cons c t => simp [ht c rfl]
  simp only [Cursor.skipBlank, hblank, List.drop_left]

theorem skipBlank_solid {t : Text} (p : ℕ) (ht : StartsSolid t) :
    Cursor.skipBlank ⟨t, p⟩ = ⟨t, p⟩ :=
  skipBlank_append (b := []) p (by simp) ht

theorem skipBlank_newLine (level : ℕ) {t : Text} (p : ℕ) (ht : StartsSolid t) :
    Cursor.skipBlank ⟨newLine level ++ t, p⟩ = ⟨t, p + (newLine level).length⟩ := by
  refine skipBlank_append p (fun c hc => ?_) ht
  rcases List.mem_cons.mp hc with rfl | hc
  · rfl
  · rw [(List.mem_replicate.mp hc).2]
    rfl

/-! ### First characters -/

/-- What a value can start with. -/
theorem textAt_head (level : ℕ) {v : Json} (hv : Exact v) :
    ∃ c t, textAt level v = c :: t ∧ isJsonBlank c = false ∧ c ≠ ']' := by
  cases hv with
  | null => exact ⟨'n', "ull".toList, rfl, rfl, by decide⟩
  | bool b =>
    cases b with
    | true => exact ⟨'t', "rue".toList, rfl, rfl, by decide⟩
    | false => exact ⟨'f', "alse".toList, rfl, rfl, by decide⟩
  | int n =>
    obtain ⟨c, ds, hds, hc⟩ := toDigits_cons n.natAbs
    rw [textAt, toString_signed, signed, hds]
    split_ifs
    · exact ⟨'-', c :: ds, rfl, by decide⟩
    · exact ⟨c, ds, rfl, by simp [isJsonBlank, hc], hc ']' rfl⟩
  | str s => exact ⟨'"', _, by rw [textAt, stringText]; rfl, rfl, by decide⟩
  | @arr vs _ =>
    cases vs with
    | nil => exact ⟨'[', _, by rw [textAt], rfl, by decide⟩
    | cons v vs => exact ⟨'[', _, by rw [textAt]; rfl, rfl, by decide⟩
  | @obj fs _ _ =>
    rcases fs with _ | ⟨⟨k, v⟩, fs⟩
    · exact ⟨'{', _, by rw [textAt], rfl, by decide⟩
    · exact ⟨'{', _, by rw [textAt]; rfl, rfl, by decide⟩

/-! ### Values by their first character -/

section
variable (fuel depth : ℕ) (t : Text) (p : ℕ)

theorem value_quote {s : String} {c : Cursor} (h : string ⟨t, p + 1⟩ = .ok (s, c)) :
    value (fuel + 1) depth ⟨'"' :: t, p⟩ = .ok (.str s, c) := by
  simp only [value, Cursor.advance, List.drop_one, List.tail_cons, h, bind, Except.bind]

theorem value_emptyArray (hd : depth < maxDepth) :
    value (fuel + 1) depth ⟨'[' :: ']' :: t, p⟩ = .ok (.arr [], ⟨t, p + 2⟩) := by
  have hskip := skipBlank_solid (p + 1) (startsSolid_cons (c := ']') t rfl)
  simp only [value, ge_iff_le, Nat.not_le.mpr hd, if_false, Cursor.advance, List.drop_one,
    List.tail_cons, hskip]

theorem value_array {level : ℕ} {c : Char} {vs : List Json} {next : Cursor} (hd : depth < maxDepth)
    (hblank : isJsonBlank c = false) (hne : c ≠ ']')
    (h : items fuel (depth + 1) [] ⟨c :: t, p + 1 + (newLine level).length⟩ = .ok (vs, next)) :
    value (fuel + 1) depth ⟨'[' :: (newLine level ++ c :: t), p⟩ = .ok (.arr vs, next) := by
  have hskip := skipBlank_newLine level (p + 1) (startsSolid_cons t hblank)
  simp only [value, ge_iff_le, Nat.not_le.mpr hd, if_false, Cursor.advance, List.drop_one,
    List.tail_cons, hskip]
  split
  · next heq => exact absurd (List.cons.inj heq).1 hne
  · simp only [h, bind, Except.bind]

theorem value_emptyObject (hd : depth < maxDepth) :
    value (fuel + 1) depth ⟨'{' :: '}' :: t, p⟩ = .ok (.obj [], ⟨t, p + 2⟩) := by
  have hskip := skipBlank_solid (p + 1) (startsSolid_cons (c := '}') t rfl)
  simp only [value, ge_iff_le, Nat.not_le.mpr hd, if_false, Cursor.advance, List.drop_one,
    List.tail_cons, hskip]

theorem value_object {level : ℕ} {fs : List (String × Json)} {next : Cursor}
    (hd : depth < maxDepth)
    (h : fields fuel (depth + 1) [] ⟨'"' :: t, p + 1 + (newLine level).length⟩ = .ok (fs, next)) :
    value (fuel + 1) depth ⟨'{' :: (newLine level ++ '"' :: t), p⟩ = .ok (.obj fs, next) := by
  have hskip := skipBlank_newLine level (p + 1) (startsSolid_cons (c := '"') t rfl)
  simp only [value, ge_iff_le, Nat.not_le.mpr hd, if_false, Cursor.advance, List.drop_one,
    List.tail_cons, hskip, h, bind, Except.bind]
  rfl

theorem value_null : value (fuel + 1) depth ⟨"null".toList ++ t, p⟩ = .ok (.null, ⟨t, p + 4⟩) :=
  rfl

theorem value_true :
    value (fuel + 1) depth ⟨"true".toList ++ t, p⟩ = .ok (.bool true, ⟨t, p + 4⟩) :=
  rfl

theorem value_false :
    value (fuel + 1) depth ⟨"false".toList ++ t, p⟩ = .ok (.bool false, ⟨t, p + 5⟩) :=
  rfl

theorem value_other {c : Char} (hq : c ≠ '"') (ha : c ≠ '[') (ho : c ≠ '{')
    (hword : word? ⟨c :: t, p⟩ = none) :
    value (fuel + 1) depth ⟨c :: t, p⟩ = number ⟨c :: t, p⟩ := by
  simp only [value, hword]
  split
  · next heq => exact absurd (List.cons.inj heq).1 hq
  · next heq => exact absurd (List.cons.inj heq).1 ha
  · next heq => exact absurd (List.cons.inj heq).1 ho
  · rfl

/-- No word starts like a whole number. -/
theorem value_toString (n : ℤ) :
    value (fuel + 1) depth ⟨(toString n).toList ++ t, p⟩ =
      number ⟨(toString n).toList ++ t, p⟩ := by
  obtain ⟨c, ds, hds, hc⟩ := toDigits_cons n.natAbs
  have hc' {d : Char} (hd : d.isDigit = false) : d ≠ c := (hc d hd).symm
  rw [toString_signed, signed, hds]
  split_ifs
  · exact value_other fuel depth _ p (by decide) (by decide) (by decide)
      (by simp [word?, words, startsWith, hc'])
  · exact value_other fuel depth _ p (hc _ rfl) (hc _ rfl) (hc _ rfl)
      (by simp [word?, words, startsWith, hc'])

end

/-! ### Items and fields -/

/-- A value is read back from its text at any level, if enough fuel is left and nothing behind the
text can go on with a number. -/
def ReadsBack (v : Json) : Prop :=
  ∀ {level depth fuel : ℕ} {r : Text} (p : ℕ), obstacleAt depth v = none →
    (textAt level v).length ≤ fuel → EndsNumber r →
    ∃ q, value fuel depth ⟨textAt level v ++ r, p⟩ = .ok (v, ⟨r, q⟩)

theorem endsNumber_cons {c : Char} (t : Text) (hd : c.isDigit = false) (hp : c ≠ '.') (he : c ≠ 'e')
    (hE : c ≠ 'E') : EndsNumber (c :: t) := by
  rintro d ⟨⟩
  exact ⟨hd, hp, he, hE⟩

theorem endsNumber_newLine (level : ℕ) (t : Text) : EndsNumber (newLine level ++ t) :=
  endsNumber_cons _ rfl (by decide) (by decide) (by decide)

theorem endsNumber_comma (t : Text) : EndsNumber (',' :: t) :=
  endsNumber_cons t rfl (by decide) (by decide) (by decide)

section
variable {fuel depth : ℕ} {t : Text} {p : ℕ} {v : Json}

theorem items_last {r : Text} {q : ℕ} (level : ℕ) (acc : List Json)
    (h : value fuel depth ⟨t, p⟩ = .ok (v, ⟨newLine level ++ ']' :: r, q⟩)) :
    ∃ q', items (fuel + 1) depth acc ⟨t, p⟩ = .ok ((v :: acc).reverse, ⟨r, q'⟩) := by
  have hskip := skipBlank_newLine level q (startsSolid_cons (c := ']') r rfl)
  exact ⟨q + (newLine level).length + 1,
    by simp [items, h, hskip, bind, Except.bind, Cursor.advance]⟩

theorem items_comma {r : Text} {q : ℕ} (level : ℕ) (acc : List Json) (hr : StartsSolid r)
    (h : value fuel depth ⟨t, p⟩ = .ok (v, ⟨',' :: (newLine level ++ r), q⟩)) :
    ∃ q', items (fuel + 1) depth acc ⟨t, p⟩ = items fuel depth (v :: acc) ⟨r, q'⟩ := by
  have hcomma := skipBlank_solid q (startsSolid_cons (c := ',') (newLine level ++ r) rfl)
  have hskip := skipBlank_newLine level (q + 1) hr
  exact ⟨q + 1 + (newLine level).length,
    by simp [items, h, hcomma, hskip, bind, Except.bind, Cursor.advance]⟩

/-- The name of a field is read, with its colon and the blank behind that. -/
theorem string_name (k : String) (p : ℕ) (ht : StartsSolid t) :
    ∃ q, string ⟨k.toList.flatMap escapeChar ++ '"' :: ':' :: ' ' :: t, p⟩ =
        .ok (k, ⟨':' :: ' ' :: t, q⟩) ∧
      Cursor.skipBlank ⟨':' :: ' ' :: t, q⟩ = ⟨':' :: ' ' :: t, q⟩ ∧
      Cursor.skipBlank ⟨' ' :: t, q + 1⟩ = ⟨t, q + 2⟩ := by
  obtain ⟨q, hname⟩ := string_stringText k (':' :: ' ' :: t) p
  exact ⟨q, hname, skipBlank_solid q (startsSolid_cons _ rfl),
    skipBlank_append (b := [' ']) (q + 1) (by simp [isJsonBlank]) ht⟩

theorem fields_last {r : Text} (level : ℕ) (k : String) (acc : List (String × Json)) (p : ℕ)
    (ht : StartsSolid t)
    (h : ∀ p, ∃ q, value fuel depth ⟨t, p⟩ = .ok (v, ⟨newLine level ++ '}' :: r, q⟩)) :
    ∃ q, fields (fuel + 1) depth acc ⟨stringText k ++ ':' :: ' ' :: t, p⟩ =
      .ok (put k v acc, ⟨r, q⟩) := by
  obtain ⟨q, hname, hcolon, hspace⟩ := string_name k (p + 1) ht
  obtain ⟨q', hvalue⟩ := h (q + 2)
  have hskip := skipBlank_newLine level q' (startsSolid_cons (c := '}') r rfl)
  exact ⟨q' + (newLine level).length + 1, by
    simp [stringText, fields, Cursor.advance, hname, hcolon, hspace, hvalue, hskip, bind,
      Except.bind]⟩

theorem fields_comma {r : Text} (level : ℕ) (k : String) (acc : List (String × Json)) (p : ℕ)
    (ht : StartsSolid t) (hr : StartsSolid r)
    (h : ∀ p, ∃ q, value fuel depth ⟨t, p⟩ = .ok (v, ⟨',' :: (newLine level ++ r), q⟩)) :
    ∃ q, fields (fuel + 1) depth acc ⟨stringText k ++ ':' :: ' ' :: t, p⟩ =
      fields fuel depth (put k v acc) ⟨r, q⟩ := by
  obtain ⟨q, hname, hcolon, hspace⟩ := string_name k (p + 1) ht
  obtain ⟨q', hvalue⟩ := h (q + 2)
  have hcomma := skipBlank_solid q' (startsSolid_cons (c := ',') (newLine level ++ r) rfl)
  have hskip := skipBlank_newLine level (q' + 1) hr
  exact ⟨q' + 1 + (newLine level).length, by
    simp [stringText, fields, Cursor.advance, hname, hcolon, hspace, hvalue, hcomma, hskip, bind,
      Except.bind]⟩

/-- A field with a new name goes to the end. -/
theorem put_new {k : String} {acc fs : List (String × Json)}
    (h : ((acc ++ (k, v) :: fs).map Prod.fst).Nodup) : put k v acc = acc ++ [(k, v)] := by
  induction acc with
  | nil => rfl
  | cons f acc ih =>
    rw [List.cons_append, List.map_cons, List.nodup_cons] at h
    have hne : f.1 ≠ k := by
      rintro rfl
      exact h.1 (by simp)
    simp [put, hne, ih h.2]

end

theorem startsSolid_textAt (level : ℕ) {v : Json} (hv : Exact v) (t : Text) :
    StartsSolid (textAt level v ++ t) := by
  obtain ⟨c, u, hu, hblank, -⟩ := textAt_head level hv
  rw [hu]
  exact startsSolid_cons _ hblank

theorem startsSolid_stringText (s : String) (t : Text) : StartsSolid (stringText s ++ t) :=
  startsSolid_cons _ rfl

theorem items_itemsText {level depth fuel : ℕ} (close : ℕ) {v : Json} {vs : List Json}
    (acc : List Json) (r : Text) (p : ℕ) (hexact : ∀ w ∈ v :: vs, Exact w)
    (hreads : ∀ w ∈ v :: vs, ReadsBack w) (hnone : itemsObstacle depth (v :: vs) = none)
    (hfuel : (textAt level v).length + (itemsText level vs).length < fuel) :
    ∃ q, items fuel depth acc
        ⟨textAt level v ++ (itemsText level vs ++ (newLine close ++ ']' :: r)), p⟩ =
      .ok (acc.reverse ++ v :: vs, ⟨r, q⟩) := by
  induction vs generalizing v acc fuel p with
  | nil =>
    obtain ⟨fuel, rfl⟩ := Nat.exists_eq_succ_of_ne_zero (Nat.ne_zero_of_lt hfuel)
    obtain ⟨hv, -⟩ := Option.or_eq_none_iff.mp hnone
    have hroom : (textAt level v).length ≤ fuel := by omega
    obtain ⟨q, hvalue⟩ := hreads v (by simp) p hv hroom (endsNumber_newLine close (']' :: r))
    obtain ⟨q', hlast⟩ := items_last close acc hvalue
    exact ⟨q', by simpa [itemsText] using hlast⟩
  | cons w vs ih =>
    obtain ⟨fuel, rfl⟩ := Nat.exists_eq_succ_of_ne_zero (Nat.ne_zero_of_lt hfuel)
    obtain ⟨hv, hvs⟩ := Option.or_eq_none_iff.mp hnone
    rw [itemsText, List.length_append, List.length_append, List.length_cons] at hfuel
    have hroom : (textAt level v).length ≤ fuel := by omega
    have hroom' : (textAt level w).length + (itemsText level vs).length < fuel := by omega
    obtain ⟨q, hvalue⟩ := hreads v (by simp) p hv hroom
      (endsNumber_comma (newLine level ++ (textAt level w ++
        (itemsText level vs ++ (newLine close ++ ']' :: r)))))
    obtain ⟨q', hcomma⟩ := items_comma level acc
      (startsSolid_textAt level (hexact w (by simp)) _) hvalue
    obtain ⟨q'', hrest⟩ := ih (v :: acc) q' (fun u hu => hexact u (List.mem_cons_of_mem v hu))
      (fun u hu => hreads u (List.mem_cons_of_mem v hu)) hvs hroom'
    refine ⟨q'', ?_⟩
    rw [hrest] at hcomma
    simpa [itemsText] using hcomma

theorem fields_fieldsText {level depth fuel : ℕ} (close : ℕ) {k : String} {v : Json}
    {fs : List (String × Json)} (acc : List (String × Json)) (r : Text) (p : ℕ)
    (hexact : ∀ f ∈ (k, v) :: fs, Exact f.2) (hreads : ∀ f ∈ (k, v) :: fs, ReadsBack f.2)
    (hdistinct : ((acc ++ (k, v) :: fs).map Prod.fst).Nodup)
    (hnone : fieldsObstacle depth ((k, v) :: fs) = none)
    (hfuel : (textAt level v).length + (fieldsText level fs).length < fuel) :
    ∃ q, fields fuel depth acc
        ⟨stringText k ++ ':' :: ' ' ::
          (textAt level v ++ (fieldsText level fs ++ (newLine close ++ '}' :: r))), p⟩ =
      .ok (acc ++ (k, v) :: fs, ⟨r, q⟩) := by
  induction fs generalizing k v acc fuel p with
  | nil =>
    obtain ⟨fuel, rfl⟩ := Nat.exists_eq_succ_of_ne_zero (Nat.ne_zero_of_lt hfuel)
    obtain ⟨hv, -⟩ := Option.or_eq_none_iff.mp hnone
    have hroom : (textAt level v).length ≤ fuel := by omega
    obtain ⟨q, hlast⟩ := fields_last close k acc p
      (startsSolid_textAt level (hexact (k, v) (by simp)) _)
      fun p => hreads (k, v) (by simp) p hv hroom (endsNumber_newLine close ('}' :: r))
    exact ⟨q, by simpa [fieldsText, put_new hdistinct] using hlast⟩
  | cons f fs ih =>
    obtain ⟨l, w⟩ := f
    obtain ⟨fuel, rfl⟩ := Nat.exists_eq_succ_of_ne_zero (Nat.ne_zero_of_lt hfuel)
    obtain ⟨hv, hvs⟩ := Option.or_eq_none_iff.mp hnone
    simp only [fieldsText, List.length_append, List.length_cons] at hfuel
    have hroom : (textAt level v).length ≤ fuel := by omega
    have hroom' : (textAt level w).length + (fieldsText level fs).length < fuel := by omega
    obtain ⟨q, hcomma⟩ := fields_comma level k acc p
      (startsSolid_textAt level (hexact (k, v) (by simp)) _) (startsSolid_stringText l _)
      fun p => hreads (k, v) (by simp) p hv hroom
        (endsNumber_comma (newLine level ++ (stringText l ++ ':' :: ' ' ::
          (textAt level w ++ (fieldsText level fs ++ (newLine close ++ '}' :: r))))))
    obtain ⟨q', hrest⟩ := ih (acc ++ [(k, v)]) q
      (fun g hg => hexact g (List.mem_cons_of_mem _ hg))
      (fun g hg => hreads g (List.mem_cons_of_mem _ hg)) (by simpa using hdistinct) hvs hroom'
    refine ⟨q', ?_⟩
    rw [put_new hdistinct] at hcomma
    simpa [fieldsText] using hcomma.trans hrest

/-! ### Values -/

theorem fuel_of_textAt {level fuel : ℕ} {v : Json} (hv : Exact v)
    (hfuel : (textAt level v).length ≤ fuel) : ∃ f, fuel = f + 1 := by
  obtain ⟨c, t, ht, -⟩ := textAt_head level hv
  rw [ht, List.length_cons] at hfuel
  exact ⟨fuel - 1, by omega⟩

/-- Every value that can be written reads back from its text, at every level. -/
theorem readsBack {v : Json} (hv : Exact v) : ReadsBack v := by
  -- The values inside an array or an object stand one level further in and lie one deeper, so both
  -- numbers must stay free in the induction.
  induction hv with
  | null =>
    intro level depth fuel r p _ hfuel _
    obtain ⟨fuel, rfl⟩ := fuel_of_textAt .null hfuel
    exact ⟨p + 4, by rw [textAt, value_null]⟩
  | bool b =>
    intro level depth fuel r p _ hfuel _
    obtain ⟨fuel, rfl⟩ := fuel_of_textAt (.bool b) hfuel
    cases b with
    | true => exact ⟨p + 4, by rw [textAt, if_pos rfl, value_true]⟩
    | false => exact ⟨p + 5, by rw [textAt, if_neg (by decide), value_false]⟩
  | int n =>
    intro level depth fuel r p hnone hfuel hr
    obtain ⟨fuel, rfl⟩ := fuel_of_textAt (.int n) hfuel
    rw [textAt, value_toString]
    exact number_toString p (obstacleAt_int.mp hnone) hr
  | str s =>
    intro level depth fuel r p _ hfuel _
    obtain ⟨fuel, rfl⟩ := fuel_of_textAt (.str s) hfuel
    obtain ⟨q, hstring⟩ := string_stringText s r (p + 1)
    have hvalue := value_quote fuel depth _ p hstring
    exact ⟨q, by simpa [textAt, stringText] using hvalue⟩
  | @arr vs values ih =>
    intro level depth fuel r p hnone hfuel _
    obtain ⟨fuel, rfl⟩ := fuel_of_textAt (.arr values) hfuel
    obtain ⟨hdepth, hnone⟩ := obstacleAt_arr.mp hnone
    cases vs with
    | nil => exact ⟨p + 2, by simpa [textAt] using value_emptyArray fuel depth r p hdepth⟩
    | cons v vs =>
      -- The bracket and the new line pay for the step from the array to its items.
      have hroom : (textAt (level + 1) v).length + (itemsText (level + 1) vs).length < fuel := by
        simp only [textAt, newLine, List.length_append, List.length_cons] at hfuel
        omega
      obtain ⟨c, t, ht, hblank, hne⟩ := textAt_head (level + 1) (values v (by simp))
      obtain ⟨q, hitems⟩ := items_itemsText level [] r (p + 1 + (newLine (level + 1)).length)
        values ih hnone hroom
      rw [ht, List.cons_append] at hitems
      have hvalue := value_array fuel depth _ p hdepth hblank hne hitems
      exact ⟨q, by simpa [textAt, ht] using hvalue⟩
  | @obj fs distinct values ih =>
    intro level depth fuel r p hnone hfuel _
    obtain ⟨fuel, rfl⟩ := fuel_of_textAt (.obj distinct values) hfuel
    obtain ⟨hdepth, hnone⟩ := obstacleAt_obj.mp hnone
    rcases fs with _ | ⟨⟨k, v⟩, fs⟩
    · exact ⟨p + 2, by simpa [textAt] using value_emptyObject fuel depth r p hdepth⟩
    · have hroom : (textAt (level + 1) v).length + (fieldsText (level + 1) fs).length < fuel := by
        simp only [textAt, newLine, List.length_append, List.length_cons] at hfuel
        omega
      obtain ⟨q, hfields⟩ := fields_fieldsText level [] r (p + 1 + (newLine (level + 1)).length)
        values ih distinct hnone hroom
      have hvalue := value_object fuel depth _ p hdepth hfields
      exact ⟨q, by simpa [textAt, stringText] using hvalue⟩

/-! ### Characters -/

/-- A line feed, or a printing character of ASCII. -/
def IsPlain (c : Char) : Prop := c = '\n' ∨ 32 ≤ c.toNat ∧ c.toNat < 127

instance : DecidablePred IsPlain := fun _ => inferInstanceAs (Decidable (_ ∨ _))

theorem isPlain_of_all {t : Text} (h : t.all (fun c => decide (IsPlain c)) = true) :
    ∀ c ∈ t, IsPlain c := by
  simpa only [List.all_eq_true, decide_eq_true_eq] using h

theorem isPlain_hex (w n : ℕ) : ∀ c ∈ hex w n, IsPlain c := by
  have hdigit : ∀ m, m < 16 → IsPlain (hexDigit m) := by decide
  induction w generalizing n with
  | zero => simp [hex]
  | succ w ih =>
    simp only [hex, List.forall_mem_append, List.forall_mem_singleton]
    exact ⟨ih (n / 16), hdigit _ (Nat.mod_lt _ (by omega))⟩

theorem isPlain_escapeChar (c : Char) : ∀ d ∈ escapeChar c, IsPlain d := by
  have hunit (n : ℕ) : ∀ d ∈ '\\' :: 'u' :: hex 4 n, IsPlain d := by
    simp only [List.forall_mem_cons]
    exact ⟨by decide, by decide, isPlain_hex 4 n⟩
  simp only [escapeChar]
  split_ifs with _ _ _ _ _ _ _ hplain _
  iterate 7 exact isPlain_of_all rfl
  · simp only [Bool.and_eq_true, decide_eq_true_eq] at hplain
    rw [List.forall_mem_singleton]
    exact .inr hplain
  · exact hunit _
  · exact List.forall_mem_append.mpr ⟨hunit _, hunit _⟩

theorem isPlain_stringText (s : String) : ∀ c ∈ stringText s, IsPlain c := by
  simp only [stringText, List.cons_append, List.forall_mem_cons, List.forall_mem_append,
    List.mem_flatMap]
  refine ⟨by decide, ?_, by decide, by simp⟩
  rintro d ⟨c, -, hd⟩
  exact isPlain_escapeChar c d hd

theorem isPlain_newLine (level : ℕ) : ∀ c ∈ newLine level, IsPlain c := by
  simp only [newLine, List.forall_mem_cons]
  refine ⟨by decide, fun c hc => ?_⟩
  rw [(List.mem_replicate.mp hc).2]
  decide

theorem isPlain_toString (n : ℤ) : ∀ c ∈ (toString n).toList, IsPlain c := by
  have hdigits : ∀ c ∈ Nat.toDigits 10 n.natAbs, IsPlain c := by
    intro c hc
    have hdigit := Nat.isDigit_of_mem_toDigits (by omega) (by omega) hc
    obtain ⟨hlow, hhigh⟩ := Char.isDigit_iff_toNat.mp hdigit
    have hzero : '0'.toNat = 48 := rfl
    have hnine : '9'.toNat = 57 := rfl
    exact .inr ⟨by omega, by omega⟩
  rw [toString_signed, signed]
  split_ifs
  · exact List.forall_mem_cons.mpr ⟨by decide, hdigits⟩
  · exact hdigits

section
variable {level : ℕ}

theorem isPlain_itemsText {vs : List Json} (h : ∀ v ∈ vs, ∀ c ∈ textAt level v, IsPlain c) :
    ∀ c ∈ itemsText level vs, IsPlain c := by
  induction vs with
  | nil => simp [itemsText]
  | cons v vs ih =>
    rw [List.forall_mem_cons] at h
    simp only [itemsText, List.cons_append, List.forall_mem_cons, List.forall_mem_append]
    exact ⟨by decide, ⟨isPlain_newLine level, h.1⟩, ih h.2⟩

theorem isPlain_fieldsText {fs : List (String × Json)}
    (h : ∀ f ∈ fs, ∀ c ∈ textAt level f.2, IsPlain c) :
    ∀ c ∈ fieldsText level fs, IsPlain c := by
  induction fs with
  | nil => simp [fieldsText]
  | cons f fs ih =>
    rw [List.forall_mem_cons] at h
    simp only [fieldsText, List.cons_append, List.forall_mem_cons, List.forall_mem_append]
    exact ⟨by decide, ⟨⟨⟨isPlain_newLine level, isPlain_stringText f.1⟩,
      by decide, by decide, by simp⟩, h.1⟩, ih h.2⟩

end

/-- A settings file is a plain text. -/
theorem isPlain_textAt (level : ℕ) {v : Json} (hv : Exact v) : ∀ c ∈ textAt level v, IsPlain c := by
  induction hv generalizing level with
  | null => exact isPlain_of_all rfl
  | bool b =>
    cases b with
    | true => exact isPlain_of_all rfl
    | false => exact isPlain_of_all rfl
  | int n => exact isPlain_toString n
  | str s => exact isPlain_stringText s
  | @arr vs values ih =>
    cases vs with
    | nil => exact isPlain_of_all rfl
    | cons v vs =>
      have hfirst := ih v List.mem_cons_self (level + 1)
      have hrest := isPlain_itemsText fun w hw => ih w (List.mem_cons_of_mem v hw) (level + 1)
      simp only [textAt, List.cons_append, List.forall_mem_cons, List.forall_mem_append]
      exact ⟨by decide, ⟨⟨⟨isPlain_newLine _, hfirst⟩, hrest⟩, isPlain_newLine _⟩, by decide,
        by simp⟩
  | @obj fs distinct values ih =>
    rcases fs with _ | ⟨⟨k, v⟩, fs⟩
    · exact isPlain_of_all rfl
    · have hfirst := ih (k, v) List.mem_cons_self (level + 1)
      have hrest := isPlain_fieldsText fun f hf => ih f (List.mem_cons_of_mem _ hf) (level + 1)
      have hcolon := isPlain_of_all (t := [':', ' ']) rfl
      rw [textAt]
      simp only [List.cons_append, List.forall_mem_cons, List.forall_mem_append] at hcolon ⊢
      exact ⟨by decide, ⟨⟨⟨⟨⟨isPlain_newLine _, isPlain_stringText k⟩, hcolon⟩, hfirst⟩, hrest⟩,
        isPlain_newLine _⟩, by decide, by simp⟩

/-- The text of a value reads back as that value. -/
theorem read_text {v : Json} (hv : Exact v) (hnone : obstacleAt 0 v = none) :
    read v.text = .ok v := by
  obtain ⟨c, u, hu, hblank, -⟩ := textAt_head 0 hv
  have htext : v.text = c :: u := hu
  have hmark : c.toNat ≠ 0xFEFF := by
    rcases isPlain_textAt 0 hv c (by simp [hu]) with rfl | ⟨-, hc⟩
    · decide
    · omega
  have hread : read v.text = read.readValue v.text := by
    rw [htext]
    simp [read, hmark]
  have hstart : Cursor.skipBlank ⟨v.text, 0⟩ = ⟨v.text, 0⟩ := by
    rw [htext]
    exact skipBlank_solid 0 (startsSolid_cons u hblank)
  have hfuel : v.text.length ≤ 2 * v.text.length + 1 := by omega
  obtain ⟨q, hvalue⟩ : ∃ q, value (2 * v.text.length + 1) 0 ⟨v.text ++ [], 0⟩ = .ok (v, ⟨[], q⟩) :=
    readsBack hv 0 hnone hfuel (by simp [EndsNumber])
  rw [List.append_nil] at hvalue
  have hend := skipBlank_solid (t := []) q (by simp [StartsSolid])
  simp only [hread, read.readValue, hstart, hvalue, hend, bind, Except.bind, List.isEmpty_nil,
    if_true]

end Excerpt.Json
