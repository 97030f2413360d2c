import Excerpt.Proofs.Outcome
import Excerpt.Proofs.Unwrapping

/-! Where the text of code and classes starts. A place is given only for a real file and a positive
whole number, and asking for it fails in one case only: a class whose first line is a truth value. -/
namespace Excerpt.Entity

/-- The name of a file that text can come from: there is one, and it is not in angle brackets. -/
def RealFile (file : String) : Prop := file ≠ "" ∧ ∀ inner, file ≠ "<" ++ inner ++ ">"

/-- The file of a class's module, empty when it has none. -/
def moduleFile (modules : ModuleTable) (module : Option String) : String :=
  ((modules.find? fun m => m.1 == module.getD "").bind (·.2)).getD ""

/-- The file and the line that code and classes give for themselves. -/
inductive Declares (modules : ModuleTable) : Entity → String → Json → Prop
  | code (info : CodeInfo) : Declares modules (code info) info.file (.int info.line)
  | frame (info : CodeInfo) : Declares modules (frame info) info.file (.int info.line)
  | function (info : FunctionInfo) :
      Declares modules (function info) info.code.file (.int info.code.line)
  | running (info : FunctionInfo) :
      Declares modules (running info) info.code.file (.int info.code.line)
  | classObject (module : Option String) (name : String) (v : Json) :
      Declares modules (classObject module name (some v)) (moduleFile modules module) v

/-- What a declared file and line come to. -/
def placeOf (file : String) (v : Json) : Except Fault (Option (Located Json)) :=
  match lineNumber? v with
  | none => .ok none
  | some n =>
    if n < 1 || isSynthetic file then .ok none else (Located.check (.str file) v).map some

/-- Text in angle brackets, by its first and last character. -/
theorem angled_iff (t : Text) :
    (t.head? = some '<' ∧ t.getLast? = some '>') ↔ ∃ inner, t = '<' :: inner ++ ['>'] := by
  constructor
  · rintro ⟨hhead, hlast⟩
    obtain ⟨r, rfl⟩ : ∃ r, t = '<' :: r := List.head?_eq_some_iff.mp hhead
    rcases List.eq_nil_or_concat' r with rfl | ⟨inner, c, rfl⟩
    · -- One character is not both brackets.
      simp at hlast
    · rw [← List.cons_append, List.getLast?_concat] at hlast
      cases hlast
      exact ⟨inner, rfl⟩
  · rintro ⟨inner, rfl⟩
    exact ⟨rfl, List.getLast?_concat⟩

theorem isSynthetic_eq_false_iff (file : String) : isSynthetic file = false ↔ RealFile file := by
  have hempty : file.toList = [] ↔ file = "" := by simp
  have hangle : (∃ inner, file.toList = '<' :: inner ++ ['>']) ↔
      ∃ inner, file = "<" ++ inner ++ ">" := by
    constructor
    · rintro ⟨inner, h⟩
      refine ⟨String.ofList inner, String.toList_injective ?_⟩
      simp [h]
    · rintro ⟨inner, rfl⟩
      exact ⟨inner.toList, by simp⟩
  rw [← angled_iff] at hangle
  rw [RealFile, ← not_exists, ← hangle, Ne, ← hempty]
  simp [isSynthetic]

/-! ### A file and a line -/

/-- What a declared file and line come to, case by case: a place for a positive whole number in a real
file, a fault for the truth value that passes for the number one, and nothing for all else. -/
theorem placeOf_cases (file : String) (v : Json) :
    (∃ n : ℤ, ∃ loc, RealFile file ∧ v = .int n ∧ 1 ≤ n ∧ loc.file = .str file ∧ loc.line = n ∧
      placeOf file v = .ok (some loc)) ∨
    (RealFile file ∧ v = .bool true ∧ placeOf file v = .error (.lineNotWhole (.bool true))) ∨
    (placeOf file v = .ok none ∧
      ¬ (RealFile file ∧ (v = .bool true ∨ ∃ n : ℤ, v = .int n ∧ 1 ≤ n))) := by
  by_cases hreal : RealFile file
  swap
  · have hsyn : isSynthetic file = true := by
      rw [← isSynthetic_eq_false_iff] at hreal
      simpa using hreal
    refine Or.inr (Or.inr ⟨?_, fun h => hreal h.1⟩)
    rw [placeOf]
    rcases lineNumber? v with _ | n
    · rfl
    · simp [hsyn]
  have hsyn : isSynthetic file = false := (isSynthetic_eq_false_iff file).mpr hreal
  cases v with
  | int n =>
    rcases Int.lt_or_le n 1 with hlt | hge
    · refine Or.inr (Or.inr ⟨?_, ?_⟩)
      · simp [placeOf, lineNumber?, hlt]
      · rintro ⟨-, h | ⟨m, hm, hle⟩⟩
        · cases h
        · cases hm
          omega
    · have hpos : 0 < n.toNat := by omega
      refine Or.inl ⟨n, ⟨.str file, n.toNat, hpos⟩, hreal, rfl, hge, rfl, by simp; omega, ?_⟩
      simp [placeOf, lineNumber?, hsyn, Located.check, hpos, Except.map, Int.not_lt.mpr hge]
  | bool b =>
    cases b with
    | true => exact Or.inr (Or.inl ⟨hreal, rfl, by simp [placeOf, lineNumber?, hsyn]; rfl⟩)
    | false => exact Or.inr (Or.inr ⟨rfl, by simp⟩)
  | _ => exact Or.inr (Or.inr ⟨rfl, by simp⟩)

/-- There is a place just for a positive whole number in a real file. -/
theorem placeOf_eq_some_iff {file : String} {v : Json} {loc : Located Json} :
    placeOf file v = .ok (some loc) ↔
      RealFile file ∧ ∃ n : ℤ, v = .int n ∧ 1 ≤ n ∧ loc.file = .str file ∧ loc.line = n := by
  rcases placeOf_cases file v with ⟨n, loc', hreal, rfl, hn, hfile, hline, hplace⟩ |
    ⟨_, rfl, hplace⟩ | ⟨hplace, hno⟩
  · constructor
    · intro h
      rw [hplace] at h
      cases h
      exact ⟨hreal, n, rfl, hn, hfile, hline⟩
    · rintro ⟨-, m, hm, -, hfile', hline'⟩
      cases hm
      -- A file and a line make one location.
      have hsame : loc' = loc := by
        rcases loc' with ⟨file', line', _⟩
        rcases loc with ⟨file'', line'', _⟩
        obtain rfl : line' = line'' := by simp only at hline hline'; omega
        obtain rfl : file' = file'' := hfile.trans hfile'.symm
        rfl
      rw [hplace, hsame]
  · rw [hplace]
    simp
  · rw [hplace]
    refine iff_of_false (by simp) ?_
    rintro ⟨hreal, n, hv, hn, -⟩
    exact hno ⟨hreal, Or.inr ⟨n, hv, hn⟩⟩

/-- There is a fault just for a truth value that passes for the number one, in a real file. -/
theorem placeOf_eq_error_iff {file : String} {v : Json} {f : Fault} :
    placeOf file v = .error f ↔
      RealFile file ∧ v = .bool true ∧ f = .lineNotWhole (.bool true) := by
  rcases placeOf_cases file v with ⟨n, loc, _, rfl, _, _, _, hplace⟩ | ⟨hreal, rfl, hplace⟩ |
    ⟨hplace, hno⟩
  · rw [hplace]
    simp
  · rw [hplace]
    simp [hreal, eq_comm]
  · rw [hplace]
    refine iff_of_false (by simp) ?_
    rintro ⟨hreal, hv, -⟩
    exact hno ⟨hreal, Or.inl hv⟩

/-! ### The place of an entity -/

section
variable {modules : ModuleTable}

theorem declares_silent {c : Entity} {file : String} {v : Json} (h : Declares modules c file v) :
    c.wrapped? = none := by
  cases h <;> rfl

/-- Code and classes come to what they declare. -/
theorem declares_origin {c : Entity} {file : String} {v : Json} (h : Declares modules c file v) :
    ∃ o, origin modules c = .ok o ∧ o.place = placeOf file v := by
  have hcode (info : CodeInfo) (name : Option String) :
      (originOfCode info name).place = placeOf info.file (.int info.line) := by
    simp only [originOfCode, placeOf, lineNumber?, Bool.or_comm]
  cases h with
  | code info => exact ⟨_, rfl, hcode info none⟩
  | frame info => exact ⟨_, rfl, hcode info none⟩
  | function info => exact ⟨_, rfl, hcode info.code _⟩
  | running info => exact ⟨_, rfl, hcode info.code _⟩
  | classObject module name v => exact ⟨_, rfl, rfl⟩

/-- An entity that is no layer around another one. -/
def Bare (c : Entity) : Prop := ∀ (layer : Layer) inner, c ≠ layer.around inner

theorem bare_tower {e : Entity} (layer : Layer) (h : ∃ layers core, e = tower layers core ∧ Bare core) :
    ∃ layers core, layer.around e = tower layers core ∧ Bare core := by
  obtain ⟨layers, core, rfl, hcore⟩ := h
  exact ⟨layer :: layers, core, rfl, hcore⟩

/-- Every entity is a tower around a bare one. -/
theorem exists_tower (e : Entity) : ∃ layers core, e = tower layers core ∧ Bare core := by
  induction e with
  | wrapper info inner ih => exact bare_tower (.wrapper info) ih
  | classMethod f ih => exact bare_tower .classMethod ih
  | staticMethod f ih => exact bare_tower .staticMethod ih
  | boundMethod f ih => exact bare_tower .boundMethod ih
  | property f ih => exact bare_tower .property ih
  | _ =>
    refine ⟨[], _, rfl, ?_⟩
    intro layer inner h
    cases layer <;> cases h

theorem except_map_fixed {x : Except Fault (Located Json)} {o : Origin}
    (h : (x.map fun loc => fixed (some loc) none) = .ok o) : o.form = .fixed := by
  rcases x with e | loc
  · cases h
  · cases h
    rfl

theorem originOfTuple_fixed {items : List TupleItem} {o : Origin} (h : originOfTuple items = .ok o) :
    o.form = .fixed := by
  unfold originOfTuple at h
  dsimp only at h
  split at h
  · split at h
    · exact except_map_fixed h
    · cases h
      rfl
  · cases h
    rfl

theorem originOfValue_fixed (v : Json) : (originOfValue v).form = .fixed := by
  cases v <;> rfl

/-- An entity that wraps nothing has a fixed answer unless it is code or a class, and a class that
declares nothing has no place. -/
theorem plainOrigin_cases {core : Entity} {o : Origin} (h : plainOrigin modules core = .ok o) :
    o.form = .fixed ∨ (∃ file v, Declares modules core file v) ∨ o.place = .ok none := by
  cases core with
  | located file line => exact Or.inl (except_map_fixed h)
  | tuple items => exact Or.inl (originOfTuple_fixed h)
  | value v =>
    cases h
    exact Or.inl (originOfValue_fixed v)
  | code info => exact Or.inr (Or.inl ⟨_, _, .code info⟩)
  | frame info => exact Or.inr (Or.inl ⟨_, _, .frame info⟩)
  | function info => exact Or.inr (Or.inl ⟨_, _, .function info⟩)
  | running info => exact Or.inr (Or.inl ⟨_, _, .running info⟩)
  | classObject module name firstLine =>
    cases firstLine with
    | some v => exact Or.inr (Or.inl ⟨_, _, .classObject module name v⟩)
    | none =>
      cases h
      exact Or.inr (Or.inr rfl)
  | builtinClass name =>
    cases h
    exact Or.inr (Or.inr rfl)
  | absent | emptyProperty | partialCall _ | builtin _ | object _ _ =>
    cases h
    exact Or.inl rfl
  | _ => cases h

/-- A bare entity is looked at for what it is; only an object can say that it wraps a value, and a
value has a fixed answer. -/
theorem bare_plain {core : Entity} {o : Origin} (hbare : Bare core)
    (h : origin modules core = .ok o ∨ originUnwrapped modules core = .ok o) :
    plainOrigin modules core = .ok o ∨ o.form = .fixed := by
  cases core with
  | object attributes shown =>
    rcases h with h | h
    · exact Or.inl h
    · rw [originUnwrapped] at h
      rcases hv : Json.field? "__wrapped__" attributes with _ | v <;> rw [hv] at h
      · exact Or.inl h
      · cases h
        exact Or.inr (originOfValue_fixed v)
  | wrapper info inner => exact absurd rfl (hbare (.wrapper info) inner)
  | classMethod f => exact absurd rfl (hbare .classMethod f)
  | staticMethod f => exact absurd rfl (hbare .staticMethod f)
  | boundMethod f => exact absurd rfl (hbare .boundMethod f)
  | property f => exact absurd rfl (hbare .property f)
  | _ => exact Or.inl (or_self_iff.mp h)

/-- What stands at the core of a tower decides about its place. -/
theorem place_of_declared {layers : List Layer} {core : Entity} {file : String} {v : Json} {o : Origin}
    (hdecl : Declares modules core file v) (h : origin modules (tower layers core) = .ok o) :
    o.place = placeOf file v := by
  obtain ⟨o', ho', hplace⟩ := declares_origin hdecl
  rw [origin_tower modules (declares_silent hdecl), ho'] at h
  cases h
  exact hplace

/-- Code or a class, inside whatever layers, has the place it declares, or none. -/
theorem origin_declared {e : Entity} {o : Origin} (h : origin modules e = .ok o)
    (hform : o.form ≠ .fixed) :
    (∃ layers core file v, e = tower layers core ∧ Declares modules core file v ∧
      o.place = placeOf file v) ∨ o.place = .ok none := by
  obtain ⟨layers, core, rfl, hbare⟩ := exists_tower e
  have hreached : origin modules core = .ok o ∨ originUnwrapped modules core = .ok o := by
    rcases (tower_reached modules layers core).1 with heq | heq
    · exact Or.inl (heq ▸ h)
    · exact Or.inr (heq ▸ h)
  have hplain : plainOrigin modules core = .ok o := (bare_plain hbare hreached).resolve_right hform
  rcases plainOrigin_cases hplain with hfixed | ⟨file, v, hdecl⟩ | hnone
  · exact absurd hfixed hform
  · exact Or.inl ⟨layers, core, file, v, rfl, hdecl, place_of_declared hdecl h⟩
  · exact Or.inr hnone

end

/-! ### What follows for the two questions -/

theorem sourceOf_unplaced {modules : ModuleTable} {e : Entity} {o : Origin}
    (h : origin modules e = .ok o) (hplace : o.place = .ok none) (d : Desk) :
    sourceOf modules e d = (.error (.noLocation o.name), d) := by
  rw [sourceOf, h, op_bind]
  change ((Op.ofExcept o.place >>= _) : Op Text) d = _
  rw [hplace]
  rfl

theorem commentOfEntity_unplaced {modules : ModuleTable} {e : Entity} {o : Origin}
    (h : origin modules e = .ok o) (hplace : o.place = .ok none) (d : Desk) :
    commentOfEntity modules e d = (.ok [], d) := by
  rw [commentOfEntity, h, op_bind]
  change ((Op.ofExcept o.place >>= _) : Op Text) d = _
  rw [hplace]
  rfl

/-- The place of code or of a class is the file and line that it declares, if the file is real and the
line a positive whole number. Asking for it fails in one case, a class in a real file whose first line
is the truth value `true`; in all others there is no place, and then the source is missing by the name
of the entity, and the comment is empty. -/
theorem place_exact {modules : ModuleTable} {e : Entity} {o : Origin} (h : origin modules e = .ok o)
    (hform : o.form = .code ∨ o.form = .classObject) :
    (∀ loc, o.place = .ok (some loc) ↔ ∃ layers core file, ∃ n : ℤ, e = tower layers core ∧
      Declares modules core file (.int n) ∧ RealFile file ∧ 1 ≤ n ∧
      loc.file = .str file ∧ loc.line = n) ∧
    (∀ f, o.place = .error f ↔ f = .lineNotWhole (.bool true) ∧ ∃ layers module name,
      e = tower layers (classObject module name (some (.bool true))) ∧
      RealFile (moduleFile modules module)) ∧
    (o.place = .ok none → ∀ d, sourceOf modules e d = (.error (.noLocation o.name), d) ∧
      commentOfEntity modules e d = (.ok [], d)) := by
  have hdeclared := origin_declared h (by rcases hform with hf | hf <;> rw [hf] <;> decide)
  refine ⟨?_, ?_, ?_⟩
  · intro loc
    constructor
    · intro hloc
      rcases hdeclared with ⟨layers, core, file, v, he, hdecl, hplace⟩ | hnone
      · rw [hplace] at hloc
        obtain ⟨hreal, n, rfl, hn⟩ := placeOf_eq_some_iff.mp hloc
        exact ⟨layers, core, file, n, he, hdecl, hreal, hn⟩
      · rw [hnone] at hloc
        cases hloc
    · rintro ⟨layers, core, file, n, rfl, hdecl, hreal, hn⟩
      rw [place_of_declared hdecl h]
      exact placeOf_eq_some_iff.mpr ⟨hreal, n, rfl, hn⟩
  · intro f
    constructor
    · intro hf
      rcases hdeclared with ⟨layers, core, file, v, he, hdecl, hplace⟩ | hnone
      · rw [hplace] at hf
        obtain ⟨hreal, rfl, rfl⟩ := placeOf_eq_error_iff.mp hf
        -- Only a class declares anything but a whole number.
        cases hdecl with
        | classObject module name => exact ⟨rfl, layers, module, name, he, hreal⟩
      · rw [hnone] at hf
        cases hf
    · rintro ⟨rfl, layers, module, name, rfl, hreal⟩
      rw [place_of_declared (.classObject module name (.bool true)) h]
      exact placeOf_eq_error_iff.mpr ⟨hreal, rfl, rfl⟩
  · intro hplace d
    exact ⟨sourceOf_unplaced h hplace d, commentOfEntity_unplaced h hplace d⟩

/-- A class inside a property: with its first line it has a place, and without one neither source nor
comment. -/
theorem class_place_exact :
    let modules : ModuleTable := [("m", some "m.py")]
    let placed := property (classObject (some "m") "C" (some (.int 2)))
    let unplaced := property (classObject (some "m") "C" none)
    (∃ o, origin modules placed = .ok o ∧ o.form = .classObject ∧
      o.place = .ok (some ⟨.str "m.py", 2, by decide⟩)) ∧
    ∃ o, origin modules unplaced = .ok o ∧ o.form = .classObject ∧ o.place = .ok none ∧
      ∀ d, sourceOf modules unplaced d = (.error (.noLocation (some "C")), d) ∧
        commentOfEntity modules unplaced d = (.ok [], d) := by
  intro modules placed unplaced
  have hfile : moduleFile modules (some "m") = "m.py" := by decide
  have hreal : RealFile "m.py" := (isSynthetic_eq_false_iff _).mp (by decide)
  constructor
  · obtain ⟨hsome, -, -⟩ := @place_exact modules placed _ rfl (Or.inr rfl)
    refine ⟨_, rfl, rfl, (hsome _).mpr ⟨[.property], _, "m.py", 2, rfl, ?_, hreal, by decide, rfl, rfl⟩⟩
    exact hfile ▸ Declares.classObject (some "m") "C" (.int 2)
  · obtain ⟨-, -, hnone⟩ := @place_exact modules unplaced _ rfl (Or.inr rfl)
    exact ⟨_, rfl, rfl, rfl, hnone rfl⟩

/-- A class that gives `true` for its first line is neither without a place nor placed: asking where
its text starts fails, and so does asking for the text. -/
theorem true_line_fails :
    let modules : ModuleTable := [("m", some "m.py")]
    let e := classObject (some "m") "C" (some (.bool true))
    ∃ o, origin modules e = .ok o ∧ o.form = .classObject ∧
      o.place = .error (.lineNotWhole (.bool true)) ∧
      ∀ d, sourceOf modules e d = (.error (.lineNotWhole (.bool true)), d) := by
  intro modules e
  have hfile : moduleFile modules (some "m") = "m.py" := by decide
  have hreal : RealFile (moduleFile modules (some "m")) := by
    rw [hfile]
    exact (isSynthetic_eq_false_iff _).mp (by decide)
  have hplace : (originOfClass modules (some "m") "C" (some (.bool true))).place =
      .error (.lineNotWhole (.bool true)) := placeOf_eq_error_iff.mpr ⟨hreal, rfl, rfl⟩
  refine ⟨_, rfl, rfl, hplace, ?_⟩
  intro d
  change ((Op.ofExcept (originOfClass modules (some "m") "C" (some (.bool true))).place >>= _) :
    Op Text) d = _
  rw [hplace]
  rfl

end Excerpt.Entity
