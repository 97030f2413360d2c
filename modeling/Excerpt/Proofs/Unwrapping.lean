import Excerpt.Entity

/-! Entities wrapped in entities. Two mechanisms look through them: an entity of a known kind gives way
to the one it holds, and a function that wraps another gives way to the end of the chain of what each
says it wraps, which passes several layers at once. Whatever the order of the layers, both end at the
same core. -/
namespace Excerpt.Entity

/-- What an entity says it wraps. A bound method says what its function says. -/
def wrapped? : Entity → Option Entity
  | wrapper _ inner => some inner
  | loop info => some (loop info)
  | classMethod f | staticMethod f => some f
  | boundMethod f => f.wrapped?
  | object attributes _ => (Json.field? "__wrapped__" attributes).map value
  | _ => none

/-- One layer around an entity. -/
inductive Layer where
  | classMethod
  | staticMethod
  | boundMethod
  | property
  | wrapper (info : FunctionInfo)

def Layer.around : Layer → Entity → Entity
  | classMethod => Entity.classMethod
  | staticMethod => Entity.staticMethod
  | boundMethod => Entity.boundMethod
  | property => Entity.property
  | wrapper info => Entity.wrapper info

/-- An entity inside layers, the outermost one first. -/
def tower (layers : List Layer) (core : Entity) : Entity := layers.foldr Layer.around core

section
variable (modules : ModuleTable)

/-- A bound method adds nothing to the chain of its function. -/
theorem originThrough_eq (f : Entity) : originThrough modules f = originUnwrapped modules f := by
  cases f <;> rfl

/-- The chain, link by link: what an entity says it wraps comes next, and one that says nothing is
looked at for what it is. -/
theorem originUnwrapped_eq (e : Entity) :
    originUnwrapped modules e =
      match e.wrapped? with
      | some next => originUnwrapped modules next
      | none => origin modules e := by
  induction e with
  | boundMethod f ih =>
    -- A silent function is the end of the chain, and the method gives way to it.
    have hthrough : originUnwrapped modules (boundMethod f) = originUnwrapped modules f :=
      originThrough_eq modules f
    rw [hthrough, ih]
    rfl
  | object attributes shown =>
    rw [originUnwrapped, wrapped?]
    rcases Json.field? "__wrapped__" attributes with _ | v <;> rfl
  | _ => rfl

theorem originUnwrapped_silent {e : Entity} (h : e.wrapped? = none) :
    originUnwrapped modules e = origin modules e := by
  rw [originUnwrapped_eq, h]

/-- Either mechanism goes down a tower to its core, by what holds it or by what says it wraps it. -/
theorem tower_reached (layers : List Layer) (core : Entity) :
    (origin modules (tower layers core) = origin modules core ∨
      origin modules (tower layers core) = originUnwrapped modules core) ∧
    (originUnwrapped modules (tower layers core) = origin modules core ∨
      originUnwrapped modules (tower layers core) = originUnwrapped modules core) := by
  induction layers with
  | nil => exact ⟨Or.inl rfl, Or.inr rfl⟩
  | cons layer layers ih =>
    obtain ⟨hheld, hchain⟩ := ih
    cases layer with
    | classMethod => exact ⟨hheld, hchain⟩
    | staticMethod => exact ⟨hheld, hchain⟩
    | boundMethod =>
      have hthrough : originUnwrapped modules (tower (.boundMethod :: layers) core) =
          originUnwrapped modules (tower layers core) := originThrough_eq modules _
      exact ⟨hheld, hthrough ▸ hchain⟩
    | property =>
      -- A property says nothing, so here the chain ends and looking at its getter starts again.
      exact ⟨hheld, hheld⟩
    | wrapper info => exact ⟨hchain, hchain⟩

/-- A tower around an entity that says nothing comes to what the entity comes to. -/
theorem origin_tower {core : Entity} (h : core.wrapped? = none) (layers : List Layer) :
    origin modules (tower layers core) = origin modules core := by
  rcases (tower_reached modules layers core).1 with hheld | hchain
  · exact hheld
  · rw [hchain, originUnwrapped_silent modules h]

end

/-- The cores without text behind them. -/
inductive Textless : Entity → Prop
  | partialCall (func : Entity) : Textless (partialCall func)
  | builtin (name : String) : Textless (builtin name)
  | emptyProperty : Textless emptyProperty

theorem textless_origin {core : Entity} (h : Textless core) (modules : ModuleTable) :
    ∃ name, origin modules core = .ok ⟨.fixed, name, .ok none⟩ := by
  cases h with
  | partialCall func => exact ⟨some (partialName func), rfl⟩
  | builtin name => exact ⟨some name, rfl⟩
  | emptyProperty => exact ⟨none, rfl⟩

/-- Every tower around a function has the function's own origin, name and place alike, and every tower
around a core without text has the core's name and no place. The layers may come in any order: the
chain of a wrapping function ends at an entity that says nothing, and that one is looked at in turn. -/
theorem tower_origin (modules : ModuleTable) (layers : List Layer) :
    (∀ info, ∃ o, origin modules (function info) = .ok o ∧ o.form = .code ∧
      origin modules (tower layers (function info)) = .ok o) ∧
    (∀ core, Textless core → ∃ o, origin modules core = .ok o ∧ o.place = .ok none ∧
      origin modules (tower layers core) = .ok o) ∧
    ∀ info inner, origin modules (wrapper info inner) =
      match inner.wrapped? with
      | some next => origin modules (wrapper info next)
      | none => origin modules inner := by
  refine ⟨?_, ?_, ?_⟩
  · intro info
    have hplain : origin modules (function info) =
        .ok (originOfCode info.code (some info.qualifiedName)) := rfl
    refine ⟨_, hplain, rfl, ?_⟩
    rw [origin_tower modules rfl, hplain]
  · intro core hcore
    obtain ⟨name, hname⟩ := textless_origin hcore modules
    have hsilent : core.wrapped? = none := by
      cases hcore <;> rfl
    refine ⟨_, hname, rfl, ?_⟩
    rw [origin_tower modules hsilent, hname]
  · intro info inner
    exact originUnwrapped_eq modules inner

/-- A property, a wrapping function, a method and another wrapping function around a function that
stands on the second line, and around a partial call. -/
theorem decorated_origin :
    let named (name : String) (line : Int) : FunctionInfo :=
      ⟨⟨"m.py", line, name, name⟩, name, name⟩
    let layers : List Layer :=
      [.property, .wrapper (named "g" 9), .classMethod, .boundMethod, .wrapper (named "h" 5), .property]
    (∃ o, origin [] (tower layers (function (named "f" 2))) = .ok o ∧ o.name = some "f" ∧
      o.place = .ok (some ⟨.str "m.py", 2, by decide⟩)) ∧
    Textless (partialCall (builtin "len")) ∧
    ∃ o, origin [] (tower layers (partialCall (builtin "len"))) = .ok o ∧ o.name = some "len" ∧
      o.place = .ok none := by
  intro named layers
  obtain ⟨hfunction, htextless, -⟩ := tower_origin [] layers
  refine ⟨?_, Textless.partialCall _, ?_⟩
  · obtain ⟨o, ho, -, htower⟩ := hfunction (named "f" 2)
    cases ho
    have hfile : isSynthetic "m.py" = false := by decide
    refine ⟨_, htower, rfl, ?_⟩
    simp [originOfCode, named, hfile, Located.check, Except.map]
  · obtain ⟨o, ho, hplace, htower⟩ := htextless _ (Textless.partialCall (builtin "len"))
    cases ho
    exact ⟨_, htower, rfl, hplace⟩

end Excerpt.Entity
