import Excerpt.JavaScript.Grammar
import Excerpt.Proofs.Braces

/-! The rules for expressions keep braces in pairs, if the rules that they call do. -/
namespace Excerpt.JavaScript

/-- What a rule does to the braces of clean text. The inside of braces closes one, and all else is
balanced. Rules that are called behind a foreign mark only are never reached. -/
def Rule.Keeps : Rule → Text → Text → Prop
  | .block, t, r | .object, t, r => Closes 1 t r
  | .items close, t, r => isPlain close = true → Closes 0 t r
  | .template, _, _ | .element, _, _ | .children, _, _ => True
  | _, t, r => Closes 0 t r

/-- Every rule does to braces what it should. -/
def Sound (self : Self) : Prop := ∀ rule t s r, self rule t = some (s, r) → rule.Keeps t r

section
variable {c : Char} {t r s : Text}

theorem skip_eq (h : skip t = r) : Closes 0 t r := h ▸ closes_skip t

theorem mark_eq (h : mark? c t = some r) : Closes 0 t (c :: r) := by
  unfold mark? at h
  split at h
  · next heq =>
    split_ifs at h with hc
    cases h
    rw [beq_iff_eq] at hc
    exact skip_eq (hc ▸ heq)
  · cases h

theorem closes_mark (h : mark? c t = some r) (hc : isPlain c = true) : Closes 0 t r :=
  (mark_eq h).past hc

theorem closes_next {w : String} (h : next? w t = some r) : Closes 0 t r :=
  (closes_skip t).trans (closes_keyword h)

end

section
variable {self : Self} (hs : Sound self) {t r : Text}

/-- An outcome that is taken only if its shape is fit for it. -/
theorem fit_eq {o : Outcome} {fit : Shape → Bool}
    (h : (o.bind fun p => if fit p.1 then some p.2 else none) = some r) : ∃ s, o = some (s, r) := by
  obtain ⟨⟨s, u⟩, hu, h⟩ := Option.bind_eq_some_iff.mp h
  dsimp only at h
  split_ifs at h
  cases h
  exact ⟨s, hu⟩

theorem plain_eq {o : Option Text} {s : Shape} (h : plain o = some (s, r)) : o = some r := by
  obtain ⟨u, hu, h⟩ := Option.map_eq_some_iff.mp h
  cases h
  exact hu

include hs

theorem value_keeps {rule : Rule} (h : value self rule t = some r) : rule.Keeps t r := by
  obtain ⟨s, hself⟩ := fit_eq h
  exact hs _ _ _ _ hself

theorem closes_item {i : Item} (h : item self t = some (i, r)) : Closes 0 t r := by
  unfold item at h
  split at h
  · next heq =>
    obtain ⟨⟨s, u⟩, hu, h⟩ := Option.map_eq_some_iff.mp h
    cases h
    have hdots := ((skip_eq heq).past (by decide)).past (by decide)
    exact (hdots.past (by decide)).trans (hs _ _ _ _ hu)
  · split_ifs at h
    · cases h
      exact closes_skip t
    · obtain ⟨⟨s, u⟩, hu, h⟩ := Option.map_eq_some_iff.mp h
      cases h
      exact (closes_skip t).trans (hs _ _ _ _ hu)

theorem closes_itemsUpTo {close : Char} (hclose : isPlain close = true) {bound : Text}
    {acc : List Item} {s : Shape} (h : itemsUpTo self close bound acc t = some (s, r)) :
    Closes 0 t r := by
  induction bound generalizing acc t with
  | nil => cases h
  | cons _ bound ih =>
    obtain ⟨⟨i, u⟩, hi, h⟩ := Option.bind_eq_some_iff.mp h
    have hitem := closes_item hs hi
    dsimp only at h
    split at h
    · next heq => exact (hitem.trans ((skip_eq heq).past (by decide))).trans (ih h)
    · next heq =>
      split_ifs at h with hc
      cases h
      rw [beq_iff_eq] at hc
      exact hitem.trans ((skip_eq heq).past (hc ▸ hclose))
    · cases h

theorem closes_arguments (h : arguments self t = some r) : Closes 0 t r :=
  value_keeps hs h (by decide)

theorem closes_parameters (h : parameters self t = some r) : Closes 0 t r := by
  obtain ⟨u, hu, h⟩ := Option.bind_eq_some_iff.mp h
  obtain ⟨s, hitems⟩ := fit_eq h
  exact (closes_mark hu (by decide)).trans (hs _ _ _ _ hitems (by decide))

theorem closes_braces (h : braces self t = some r) : Closes 0 t r := by
  obtain ⟨u, hu, h⟩ := Option.bind_eq_some_iff.mp h
  obtain ⟨⟨s, v⟩, hv, h⟩ := Option.bind_eq_some_iff.mp h
  cases h
  exact (mark_eq hu).opened (hs _ _ _ _ hv)

theorem closes_parenthesized (h : parenthesized self t = some r) : Closes 0 t r := by
  obtain ⟨u, hu, h⟩ := Option.bind_eq_some_iff.mp h
  obtain ⟨v, hv, h⟩ := Option.bind_eq_some_iff.mp h
  exact ((closes_mark hu (by decide)).trans (value_keeps hs hv)).trans (closes_mark h (by decide))

theorem closes_subscript (h : subscript self t = some r) : Closes 0 t r := by
  obtain ⟨u, hu, h⟩ := Option.bind_eq_some_iff.mp h
  exact (value_keeps hs hu).trans (closes_mark h (by decide))

omit hs in
theorem closes_property (h : property? t = some r) : Closes 0 t r := by
  unfold property? at h
  split at h
  · next heq => exact (skip_eq heq).foreign (by decide)
  · obtain ⟨⟨w, u⟩, hu, h⟩ := Option.map_eq_some_iff.mp h
    cases h
    exact (closes_skip t).trans (closes_word hu)

/-- A part of a value, and whatever follows it in turn. -/
theorem closes_thenTail {ends calls : Bool} {s s' : Shape} {o : Option Text} {v : Text}
    (hv : Closes 0 t v) (h : o.bind (self (.tail ends calls s)) = some (s', r))
    (ho : ∀ u, o = some u → Closes 0 v u) : Closes 0 t r := by
  obtain ⟨u, hu, h⟩ := Option.bind_eq_some_iff.mp h
  exact (hv.trans (ho u hu)).trans (hs _ _ _ _ h)

theorem closes_tail {ends calls : Bool} {s s' : Shape} (h : tail self ends calls s t = some (s', r)) :
    Closes 0 t r := by
  unfold tail at h
  split at h
  · cases h
    exact closes_refl t
  · next v heq =>
    have hv := closes_pause heq
    split at h
    -- A property,
    · split_ifs at h
      exact closes_thenTail hs (hv.past (by decide)) h fun _ => closes_property
    -- a part that may be missing,
    · have hdot := (hv.past (by decide)).past (by decide)
      split_ifs at h
      · cases h
        exact closes_refl t
      · split at h
        · next heq =>
          have hin := hdot.trans ((skip_eq heq).past (by decide))
          exact closes_thenTail hs hin h fun _ => closes_subscript hs
        · next heq =>
          have hin := hdot.trans ((skip_eq heq).past (by decide))
          exact closes_thenTail hs hin h fun _ => closes_arguments hs
        · exact closes_thenTail hs (hdot.trans (closes_skip _)) h fun _ => closes_property
    -- an item,
    · split_ifs at h
      exact closes_thenTail hs (hv.past (by decide)) h fun _ => closes_subscript hs
    · exact hv.foreign (by decide)
    -- and what the name of a constructor does not have: calls, steps and assignments.
    · split at h
      · cases h
        exact closes_refl t
      · split at h
        · split_ifs at h
          exact closes_thenTail hs (hv.past (by decide)) h fun _ => closes_arguments hs
        · split_ifs at h
          exact ((hv.past (by decide)).past (by decide)).trans (hs _ _ _ _ h)
        · split_ifs at h
          exact ((hv.past (by decide)).past (by decide)).trans (hs _ _ _ _ h)
        · split at h
          · next heq =>
            split_ifs at h
            obtain ⟨u, hu, h⟩ := Option.map_eq_some_iff.mp h
            cases h
            exact (hv.trans (closes_equals heq)).trans (value_keeps hs hu)
          · split at h
            · next heq =>
              split_ifs at h
              exact (hv.trans (closes_augmented heq)).trans (value_keeps hs (plain_eq h))
            · cases h
              exact closes_refl t

theorem closes_operators {ends : Bool} {bound : Text} {s s' : Shape}
    (h : operators self ends bound s t = some (s', r)) : Closes 0 t r := by
  induction bound generalizing s t with
  | nil => cases h
  | cons _ bound ih =>
    unfold operators at h
    split at h
    · cases h
      exact closes_refl r
    · next v heq =>
      have hv := closes_pause heq
      split at h
      · next heq =>
        split_ifs at h
        obtain ⟨u, hu, h⟩ := Option.bind_eq_some_iff.mp h
        exact ((hv.trans (closes_binary heq)).trans (value_keeps hs hu)).trans (ih h)
      · split at h
        · next heq =>
          split_ifs at h
          obtain ⟨u, hu, h⟩ := Option.bind_eq_some_iff.mp h
          obtain ⟨w, hw, h⟩ := Option.bind_eq_some_iff.mp h
          have hthen := (hv.trans (closes_question heq)).trans (value_keeps hs hu)
          have helse := hthen.trans (closes_mark hw (by decide))
          exact helse.trans (value_keeps hs (plain_eq h))
        · cases h
          exact closes_refl r

theorem closes_expression {ends : Bool} {s : Shape} (h : expression self ends t = some (s, r)) :
    Closes 0 t r := by
  obtain ⟨⟨s', u⟩, hu, h⟩ := Option.bind_eq_some_iff.mp h
  have hoperand : Closes 0 t u := hs _ _ _ _ hu
  exact hoperand.trans (closes_operators hs h)

theorem closes_expressions {ends : Bool} {bound : Text} (h : expressions self ends bound t = some r) :
    Closes 0 t r := by
  induction bound generalizing t with
  | nil => cases h
  | cons _ bound ih =>
    obtain ⟨u, hu, h⟩ := Option.bind_eq_some_iff.mp h
    have hfirst : Closes 0 t u := value_keeps hs hu
    split at h
    · next heq => exact (hfirst.trans ((closes_pause heq).past (by decide))).trans (ih h)
    · cases h
      exact hfirst

/-! ### Operands -/

theorem closes_arrowBody {ends : Bool} {s : Shape} (h : arrow self ends t = some (s, r)) :
    Closes 0 t r := by
  unfold arrow at h
  split at h
  · next heq =>
    split at h
    · next hblock =>
      cases h
      exact (skip_eq heq).opened (hs _ _ _ _ hblock)
    · split_ifs at h
      exact (skip_eq heq).trans (value_keeps hs (plain_eq h))
  · exact (closes_skip t).trans (value_keeps hs (plain_eq h))

/-- Behind the mark of an arrow function. -/
theorem closes_afterArrow {ends : Bool} {s : Shape} {u : Text} (ht : Closes 0 t ('=' :: '>' :: u))
    (h : arrow self ends u = some (s, r)) : Closes 0 t r :=
  ((ht.past (by decide)).past (by decide)).trans (closes_arrowBody hs h)

theorem closes_group {ends : Bool} {s : Shape} (h : group self ends t = some (s, r)) :
    Closes 0 t r := by
  obtain ⟨⟨s', u⟩, hu, h⟩ := Option.bind_eq_some_iff.mp h
  have hitems : Closes 0 t u := hs _ _ _ _ hu (by decide)
  dsimp only at h
  split at h
  · next heq =>
    split_ifs at h
    exact closes_afterArrow hs (hitems.trans (closes_pause heq)) h
  · split_ifs at h
    cases h
    exact hitems

theorem closes_named {ends : Bool} {s : Shape} (h : named self ends t = some (s, r)) :
    Closes 0 t r := by
  unfold named at h
  split at h
  · next heq => exact closes_afterArrow hs (closes_pause heq) h
  · cases h
    exact closes_refl t

theorem closes_async {ends : Bool} {s : Shape} (h : async self ends t = some (s, r)) :
    Closes 0 t r := by
  unfold async at h
  split at h
  · cases h
    exact closes_refl t
  · next heq =>
    -- Items that are parameters or arguments, as an arrow comes or not.
    obtain ⟨⟨s', u⟩, hu, h⟩ := Option.bind_eq_some_iff.mp h
    have hitems := ((closes_pause heq).past (by decide)).trans (hs _ _ _ _ hu (by decide))
    dsimp only at h
    split at h
    · next heq =>
      split_ifs at h
      exact closes_afterArrow hs (hitems.trans (closes_pause heq)) h
    · split_ifs at h
      cases h
      exact hitems
  · next heq => exact closes_afterArrow hs (closes_pause heq) h
  · next heq =>
    split at h
    · next hword => exact ((closes_pause heq).trans (closes_word hword)).trans (hs _ _ _ _ h)
    · next hword =>
      split at h
      · next hskip =>
        split_ifs at h
        have hname := (closes_pause heq).trans (closes_word hword)
        exact closes_afterArrow hs (hname.trans (skip_eq hskip)) h
      · cases h
        exact closes_refl t
    · cases h
      exact closes_refl t

theorem closes_called {ends : Bool} (h : construction.called self ends t = some r) :
    Closes 0 t r := by
  unfold construction.called at h
  split at h
  · next heq => exact ((closes_pause heq).past (by decide)).trans (closes_arguments hs h)
  · cases h
    exact closes_refl t

theorem closes_construction {ends : Bool} {bound : Text}
    (h : construction self ends bound t = some r) : Closes 0 t r := by
  induction bound generalizing t r with
  | nil => cases h
  | cons _ bound ih =>
    unfold construction at h
    split at h
    · next hnew =>
      have hword := closes_next hnew
      dsimp only at h
      split at h
      · next heq =>
        obtain ⟨u, hu, h⟩ := Option.bind_eq_some_iff.mp h
        have hdot := hword.trans ((skip_eq heq).past (by decide))
        exact (hdot.trans (closes_next hu)).trans (closes_called hs h)
      · obtain ⟨u, hu, h⟩ := Option.bind_eq_some_iff.mp h
        exact ((hword.trans (closes_skip _)).trans (ih hu)).trans (closes_called hs h)
    · obtain ⟨⟨s, u⟩, hu, h⟩ := Option.bind_eq_some_iff.mp h
      obtain ⟨v, hv, h⟩ := Option.bind_eq_some_iff.mp h
      have hatom : Closes 0 t u := hs _ _ _ _ hu
      exact (hatom.trans (value_keeps hs hv)).trans (closes_called hs h)

omit hs in
theorem closes_decoratorPath {bound : Text} (h : decorators.members bound t = some r) :
    Closes 0 t r := by
  induction bound generalizing t with
  | nil =>
    cases h
    exact closes_refl r
  | cons _ bound ih =>
    unfold decorators.members at h
    split at h
    · next heq =>
      obtain ⟨u, hu, h⟩ := Option.bind_eq_some_iff.mp h
      exact (((skip_eq heq).past (by decide)).trans (closes_property hu)).trans (ih h)
    · cases h
      exact closes_refl r

theorem closes_decorators {bound : Text} (h : decorators self bound t = some r) : Closes 0 t r := by
  induction bound generalizing t with
  | nil =>
    cases h
    exact closes_refl r
  | cons _ bound ih =>
    unfold decorators at h
    split at h
    · next heq =>
      obtain ⟨u, hu, h⟩ := Option.bind_eq_some_iff.mp h
      obtain ⟨v, hv, h⟩ := Option.bind_eq_some_iff.mp h
      have hname := (((skip_eq heq).past (by decide)).trans (closes_skip _)).trans (closes_name hu)
      have hpath := hname.trans (closes_decoratorPath hv)
      dsimp only at h
      split at h
      · next heq =>
        obtain ⟨w, hw, h⟩ := Option.bind_eq_some_iff.mp h
        have hin := hpath.trans ((skip_eq heq).past (by decide))
        exact (hin.trans (closes_arguments hs hw)).trans (ih h)
      · exact hpath.trans (ih h)
    · cases h
      exact closes_skip t

theorem closes_importCall {s : Shape} (h : importCall self t = some (s, r)) : Closes 0 t r := by
  have hproperty {u v : Text} {w : String} (hu : Closes 0 t u) (hword : word? (skip u) = some (w, v)) :
      Closes 0 t v :=
    (hu.trans (closes_skip u)).trans (closes_word hword)
  unfold importCall at h
  split at h
  · next heq => exact ((skip_eq heq).past (by decide)).trans (closes_arguments hs (plain_eq h))
  · next heq =>
    have hdot := (skip_eq heq).past (by decide)
    split at h
    · next hword =>
      cases h
      exact hproperty hdot hword
    · next hword =>
      cases h
      exact hproperty hdot hword
    · cases h
  · next heq =>
    have hdot := ((skip_eq heq).past (by decide)).past (by decide)
    split at h
    · next hword =>
      cases h
      exact hproperty hdot hword
    · next hword =>
      cases h
      exact hproperty hdot hword
    · cases h
  · cases h

theorem closes_atom {ends : Bool} {s : Shape} (h : atom self ends t = some (s, r)) :
    Closes 0 t r := by
  unfold atom at h
  split at h
  · next heq => exact ((skip_eq heq).past (by decide)).trans (closes_group hs h)
  · next heq => exact ((skip_eq heq).past (by decide)).trans (hs _ _ _ _ h (by decide))
  · next heq => exact (skip_eq heq).opened (hs _ _ _ _ h)
  · next heq => exact (skip_eq heq).foreign (by decide)
  · next heq => exact (skip_eq heq).foreign (by decide)
  · next heq =>
    obtain ⟨u, hu, h⟩ := Option.bind_eq_some_iff.mp h
    obtain ⟨v, hv, h⟩ := Option.bind_eq_some_iff.mp h
    have hmarks := (skip_eq heq).trans (closes_decorators hs hu)
    exact (hmarks.trans (closes_next hv)).trans (hs _ _ _ _ h)
  · refine (closes_skip t).trans ?_
    split at h
    · next w u hword =>
      refine (closes_word hword).trans ?_
      -- Words that stand for more than themselves come first, then those that start no operand.
      split at h
      case h_6 | h_7 => exact hs _ _ _ _ h
      case h_8 => exact closes_importCall hs h
      case h_9 => exact closes_async hs h
      case h_13 =>
        split_ifs at h
        exact closes_named hs h
      case h_11 | h_12 => cases h
      all_goals
        cases h
        exact closes_refl r
    · split at h
      · next hlit => exact closes_literal hlit
      · exact closes_number (plain_eq h)

theorem closes_yielding {ends : Bool} {s : Shape} (h : yielding self ends t = some (s, r)) :
    Closes 0 t r := by
  unfold yielding at h
  split at h
  · cases h
    exact closes_refl t
  · next heq =>
    have hv := closes_pause heq
    split at h
    · cases h
      exact closes_refl t
    · exact (hv.past (by decide)).trans (value_keeps hs (plain_eq h))
    · split_ifs at h
      · exact hv.trans (value_keeps hs (plain_eq h))
      · cases h
        exact closes_refl t

theorem closes_operand {ends : Bool} {s : Shape} (h : operand self ends t = some (s, r)) :
    Closes 0 t r := by
  unfold operand at h
  dsimp only at h
  split at h
  case h_1 heq | h_2 heq =>
    exact (((skip_eq heq).past (by decide)).past (by decide)).trans (value_keeps hs (plain_eq h))
  case h_3 heq | h_4 heq | h_5 heq | h_6 heq =>
    exact ((skip_eq heq).past (by decide)).trans (value_keeps hs (plain_eq h))
  case h_7 heq | h_8 heq => exact (skip_eq heq).foreign (by decide)
  case h_9 =>
    -- No mark in front, but perhaps a word that works on a value.
    refine (closes_skip t).trans ?_
    split at h
    case h_1 hword | h_2 hword | h_3 hword | h_4 hword =>
      exact (closes_word hword).trans (value_keeps hs (plain_eq h))
    case h_5 hword =>
      obtain ⟨⟨s', u⟩, hu, h⟩ := Option.bind_eq_some_iff.mp h
      exact ((closes_word hword).trans (closes_yielding hs hu)).trans (hs _ _ _ _ h)
    case h_6 hword =>
      split at h
      · next heq =>
        have hdot := (closes_word hword).trans ((skip_eq heq).past (by decide))
        exact closes_thenTail hs hdot h fun _ => closes_next
      · exact closes_thenTail hs (closes_word hword) h fun _ => closes_construction hs
    case h_7 =>
      obtain ⟨⟨s', u⟩, hu, h⟩ := Option.bind_eq_some_iff.mp h
      have hatom : Closes 0 (skip t) u := hs _ _ _ _ hu
      exact hatom.trans (hs _ _ _ _ h)

/-! ### Functions, objects and classes -/

omit hs in
theorem closes_optionalStar (t : Text) : Closes 0 t ((mark? '*' t).getD t) :=
  closes_getD (closes_refl t) fun _ h => closes_mark h (by decide)

omit hs in
theorem closes_optionalName (t : Text) : Closes 0 t ((name? (skip t)).getD t) :=
  closes_getD (closes_refl t) fun _ h => (closes_skip t).trans (closes_name h)

theorem closes_method (h : method self t = some r) : Closes 0 t r := by
  obtain ⟨u, hu, h⟩ := Option.bind_eq_some_iff.mp h
  exact (closes_parameters hs hu).trans (closes_braces hs h)

theorem closes_functionRest (h : functionRest self t = some r) : Closes 0 t r := by
  have hhead := (closes_optionalStar t).trans (closes_optionalName _)
  exact hhead.trans (closes_method hs h)

theorem closes_memberName {k : NameKind} {s : Shape} (h : memberName self t = some (k, s, r)) :
    Closes 0 t r := by
  unfold memberName at h
  split at h
  · next heq =>
    obtain ⟨⟨s', u⟩, hu, h⟩ := Option.map_eq_some_iff.mp h
    cases h
    exact ((skip_eq heq).past (by decide)).trans (hs _ _ _ _ hu (by decide))
  · next heq => exact (skip_eq heq).foreign (by decide)
  · refine (closes_skip t).trans ?_
    split at h
    · next hword =>
      cases h
      exact closes_word hword
    · split at h
      · next hlit => exact closes_literal hlit
      · obtain ⟨u, hu, h⟩ := Option.map_eq_some_iff.mp h
        cases h
        exact closes_number hu

omit hs in
theorem closes_modifiers (ends : Bool) (bound stage : ℕ) (p : Prefixed) (t : Text) :
    Closes 0 t (modifiers ends bound stage p t).2 := by
  fun_induction modifiers ends bound stage p t with
  | case1 => exact closes_refl _
  | case2 _ _ _ t _ u heq => exact (skip_eq heq).past (by decide)
  | case4 _ _ _ t _ _ _ _ _ _ _ _ _ hword ih =>
    exact ((closes_skip t).trans (closes_word hword)).trans ih
  | _ => exact closes_skip _

/-- A member from its name on. -/
theorem closes_methodNamed {k : NameKind} {s s' : Shape} {u : Text}
    (hname : memberName self t = some (k, s, u)) (h : plain (method self u) = some (s', r)) :
    Closes 0 t r :=
  (closes_memberName hs hname).trans (closes_method hs (plain_eq h))

theorem closes_member {s : Shape} (h : member self t = some (s, r)) : Closes 0 t r := by
  unfold member at h
  split at h
  · next heq =>
    obtain ⟨⟨s', u⟩, hu, h⟩ := Option.map_eq_some_iff.mp h
    cases h
    have hdots := ((skip_eq heq).past (by decide)).past (by decide)
    exact (hdots.past (by decide)).trans (hs _ _ _ _ hu)
  · next heq =>
    -- A pattern within the pattern, with its default.
    obtain ⟨⟨s', u⟩, hu, h⟩ := Option.bind_eq_some_iff.mp h
    obtain ⟨v, hv, h⟩ := Option.bind_eq_some_iff.mp h
    obtain ⟨w, hw, h⟩ := Option.bind_eq_some_iff.mp h
    split_ifs at h
    cases h
    have hobject : Closes 0 t u := (skip_eq heq).opened (hs _ _ _ _ hu)
    have hequals := (hobject.trans (closes_skip u)).trans (closes_equals hv)
    exact hequals.trans (value_keeps hs hw)
  · next heq =>
    obtain ⟨u, hu, h⟩ := Option.bind_eq_some_iff.mp h
    obtain ⟨⟨k, s', v⟩, hv, h⟩ := Option.bind_eq_some_iff.mp h
    have hmarks := (skip_eq heq).trans (closes_decorators hs hu)
    have hwords := hmarks.trans (closes_modifiers false 3 0 .bare u)
    exact hwords.trans (closes_methodNamed hs hv h)
  · have hwords := (closes_skip t).trans (closes_modifiers false 3 0 .bare (skip t))
    split at h
    · next heq =>
      -- Only a name without words in front may have a value, or be one.
      rw [heq] at hwords
      obtain ⟨⟨k, s', u⟩, hu, h⟩ := Option.bind_eq_some_iff.mp h
      have hname := hwords.trans (closes_memberName hs hu)
      dsimp only at h
      split at h
      · split_ifs at h
        exact hname.trans (closes_method hs (plain_eq h))
      · next heq =>
        split_ifs at h
        obtain ⟨⟨s', v⟩, hv, h⟩ := Option.map_eq_some_iff.mp h
        cases h
        exact (hname.trans ((skip_eq heq).past (by decide))).trans (hs _ _ _ _ hv)
      · split at h
        · next heq =>
          split_ifs at h
          obtain ⟨v, hv, h⟩ := Option.map_eq_some_iff.mp h
          cases h
          have hequals := (hname.trans (closes_skip u)).trans (closes_equals heq)
          exact hequals.trans (value_keeps hs hv)
        · split_ifs at h
          cases h
          exact hname
    · next heq =>
      rw [heq] at hwords
      obtain ⟨⟨k, s', u⟩, hu, h⟩ := Option.bind_eq_some_iff.mp h
      dsimp only at h
      split_ifs at h
      exact hwords.trans (closes_methodNamed hs hu h)

theorem closes_members {bound : Text} {s s' : Shape} (h : members self s bound t = some (s', r)) :
    Closes 1 t r := by
  induction bound generalizing s t with
  | nil => cases h
  | cons _ bound ih =>
    unfold members at h
    split at h
    · next heq =>
      cases h
      exact (skip_eq heq).shut
    · next heq => exact ((skip_eq heq).past (by decide)).trans (ih h)
    · obtain ⟨⟨m, u⟩, hu, h⟩ := Option.bind_eq_some_iff.mp h
      have hmember := (closes_skip t).trans (closes_member hs hu)
      dsimp only at h
      split at h
      · next heq => exact (hmember.trans ((skip_eq heq).past (by decide))).trans (ih h)
      · next heq =>
        cases h
        exact (hmember.trans (skip_eq heq)).shut
      · cases h

theorem closes_classMember (h : classMember self t = some r) : Closes 0 t r := by
  obtain ⟨u, hu, h⟩ := Option.bind_eq_some_iff.mp h
  have hwords := (closes_decorators hs hu).trans (closes_modifiers true 3 0 .bare u)
  generalize modifiers true 3 0 .bare u = m at h hwords
  obtain ⟨p, w⟩ := m
  obtain ⟨⟨k, s, v⟩, hv, h⟩ := Option.bind_eq_some_iff.mp h
  have hname := hwords.trans (closes_memberName hs hv)
  dsimp only at h
  split at h
  · cases h
  · split at h
    · split_ifs at h
      cases h
      exact hname
    · exact hname.trans (closes_method hs h)
    · next heq =>
      split at h
      · cases h
      · split at h
        · next hequals =>
          obtain ⟨w, hw, h⟩ := Option.bind_eq_some_iff.mp h
          have hleft := (hname.trans (closes_pause heq)).trans (closes_equals hequals)
          exact (hleft.trans (value_keeps hs hw)).trans (closes_finish h)
        · exact hname.trans (closes_finish h)

theorem closes_classMembers {bound : Text} (h : classMembers self bound t = some r) :
    Closes 1 t r := by
  induction bound generalizing t with
  | nil => cases h
  | cons _ bound ih =>
    unfold classMembers at h
    split at h
    · next heq =>
      cases h
      exact (skip_eq heq).shut
    · next heq => exact ((skip_eq heq).past (by decide)).trans (ih h)
    · have hskip := closes_skip t
      split at h
      · next heq =>
        -- A block that runs when the class is made.
        obtain ⟨u, hu, hv⟩ := Option.bind_eq_some_iff.mp heq
        obtain ⟨⟨s, v⟩, hblock, h⟩ := Option.bind_eq_some_iff.mp h
        have hbrace := (hskip.trans (closes_keyword hu)).trans (closes_pause hv)
        exact (hbrace.opened (hs _ _ _ _ hblock)).trans (ih h)
      · obtain ⟨u, hu, h⟩ := Option.bind_eq_some_iff.mp h
        exact (hskip.trans (closes_classMember hs hu)).trans (ih h)

theorem closes_classRest (h : classRest self t = some r) : Closes 0 t r := by
  have hname := closes_optionalName t
  unfold classRest at h
  extract_lets _ body at h
  have hbody {u : Text} (hu : Closes 0 t u) (h : body u = some r) : Closes 0 t r := by
    obtain ⟨v, hv, h⟩ := Option.bind_eq_some_iff.mp h
    exact (hu.trans (mark_eq hv)).opened (closes_classMembers hs h)
  split at h
  · next hext =>
    obtain ⟨v, hv, h⟩ := Option.bind_eq_some_iff.mp h
    exact hbody ((hname.trans (closes_next hext)).trans (value_keeps hs hv)) h
  · exact hbody hname h

end

end Excerpt.JavaScript
