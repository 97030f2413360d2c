import Excerpt.Proofs.BalancedExpressions

/-! The rules for statements keep braces in pairs as well, so the braces of a clean program are
balanced. -/
namespace Excerpt.JavaScript

section
variable {self : Self} (hs : Sound self) {whole t r : Text}
include hs

theorem rest_keeps {rule : Rule} (h : (self rule t).map (·.2) = some r) : rule.Keeps t r := by
  obtain ⟨⟨s, u⟩, hu, h⟩ := Option.map_eq_some_iff.mp h
  cases h
  exact hs _ _ _ _ hu

/-! ### Declarations -/

theorem closes_binding (h : binding self t = some r) : Closes 0 t r := by
  unfold binding at h
  split at h
  · next heq =>
    obtain ⟨s, hitems⟩ := fit_eq h
    exact ((skip_eq heq).past (by decide)).trans (hs _ _ _ _ hitems (by decide))
  · next heq =>
    obtain ⟨s, hobject⟩ := fit_eq h
    exact (skip_eq heq).opened (hs _ _ _ _ hobject)
  · exact (closes_skip t).trans (closes_name h)

omit hs in
/-- The mark of an assignment on the same line or a later one. -/
theorem closes_pauseEquals {afterValue : Bool} (h : (pause true afterValue t).bind equals? = some r) :
    Closes 0 t r := by
  obtain ⟨u, hu, h⟩ := Option.bind_eq_some_iff.mp h
  exact (closes_pause hu).trans (closes_equals h)

theorem closes_declarations {bound : Text} (h : declarations self bound t = some r) :
    Closes 0 t r := by
  induction bound generalizing t with
  | nil => cases h
  | cons _ bound ih =>
    obtain ⟨u, hu, h⟩ := Option.bind_eq_some_iff.mp h
    have hname := closes_binding hs hu
    extract_lets more at h
    -- What comes after a name and its value, if it has one.
    have hmore {v : Text} {valued : Bool} (hv : Closes 0 t v) (h : more (v, valued) = some r) :
        Closes 0 t r := by
      dsimp only [more] at h
      split at h
      · cases h
        exact hv
      · next heq => exact (hv.trans ((closes_pause heq).past (by decide))).trans (ih h)
      · next heq =>
        cases h
        exact hv.trans ((closes_pause heq).past (by decide))
      · cases h
    split at h
    · next heq =>
      obtain ⟨⟨v, valued⟩, hv, h⟩ := Option.bind_eq_some_iff.mp h
      obtain ⟨w, hw, hv⟩ := Option.map_eq_some_iff.mp hv
      cases hv
      have hvalue := (hname.trans (closes_pauseEquals heq)).trans (value_keeps hs hw)
      exact hmore hvalue h
    · exact hmore hname h

theorem closes_declaration (h : declaration self t = some r) : Closes 0 t r :=
  closes_declarations hs h

theorem closes_expressionStatement (h : expressionStatement self t = some r) : Closes 0 t r := by
  obtain ⟨u, hu, h⟩ := Option.bind_eq_some_iff.mp h
  exact (value_keeps hs hu).trans (closes_finish h)

theorem closes_selfStanding {hasName : Bool} {rest : Option Text}
    (h : selfStanding self whole hasName rest = some r)
    (hrest : ∀ u, rest = some u → Closes 0 whole u) : Closes 0 whole r := by
  obtain ⟨u, hu, h⟩ := Option.bind_eq_some_iff.mp h
  split_ifs at h
  · exact closes_expressionStatement hs h
  · cases h
    exact hrest _ hu

theorem closes_functionStatement (ht : Closes 0 whole t)
    (h : functionStatement self whole t = some r) : Closes 0 whole r :=
  closes_selfStanding hs h fun _ hu => ht.trans (rest_keeps hs hu)

theorem closes_classStatement (ht : Closes 0 whole t) (h : classStatement self whole t = some r) :
    Closes 0 whole r :=
  closes_selfStanding hs h fun _ hu => ht.trans (rest_keeps hs hu)

theorem closes_braceStatement (h : braceStatement self ('{' :: t) t = some r) :
    Closes 0 ('{' :: t) r := by
  unfold braceStatement at h
  split at h
  · next heq =>
    split_ifs at h
    · exact closes_expressionStatement hs h
    · cases h
      exact (closes_refl _).opened (hs _ _ _ _ heq)
  · split_ifs at h
    exact closes_expressionStatement hs h

theorem closes_statementAfter (h : statementAfter self t = some r) : Closes 0 t r :=
  rest_keeps hs h

/-! ### Choices and loops -/

omit hs in
theorem closes_either {a b : Option Text} (h : (a <|> b) = some r) (ha : a = some r → Closes 0 t r)
    (hb : b = some r → Closes 0 t r) : Closes 0 t r := by
  cases a with
  | none => exact hb h
  | some u => exact ha h

theorem closes_conditional (h : conditional self t = some r) : Closes 0 t r := by
  obtain ⟨u, hu, h⟩ := Option.bind_eq_some_iff.mp h
  obtain ⟨v, hv, h⟩ := Option.bind_eq_some_iff.mp h
  have hthen := (closes_parenthesized hs hu).trans (closes_statementAfter hs hv)
  split at h
  · next helse => exact (hthen.trans (closes_next helse)).trans (closes_statementAfter hs h)
  · cases h
    exact hthen

theorem closes_iteration (h : iteration self t = some r) : Closes 0 t r := by
  have hskip := closes_skip t
  unfold iteration at h
  extract_lets _ declared inOrOf at h
  -- The variable of the loop, if it is declared there,
  have hdeclared {u : Text} (hu : declared = some u) : Closes 0 t u := by
    refine hskip.trans ?_
    dsimp only [declared] at hu
    split at hu
    · next hword =>
      obtain ⟨v, hv, hu⟩ := Option.bind_eq_some_iff.mp hu
      have hname := (closes_word hword).trans (closes_binding hs hv)
      split at hu
      · next heq => exact (hname.trans (closes_pauseEquals heq)).trans (value_keeps hs hu)
      · exact hname.trans (closes_pause hu)
    · next hword => exact (closes_word hword).trans (closes_binding hs hu)
    · next hword => exact (closes_word hword).trans (closes_binding hs hu)
    · cases hu
  -- and what the loop goes over.
  have hover {u v : Text} (hv : inOrOf u = some v) : Closes 0 u v := by
    obtain ⟨w, hw, hv⟩ := Option.bind_eq_some_iff.mp hv
    obtain ⟨x, hx, hv⟩ := Option.bind_eq_some_iff.mp hv
    have hword : Closes 0 u w := closes_either hw closes_next closes_next
    exact (hword.trans (value_keeps hs hx)).trans (closes_mark hv (by decide))
  split at h
  · next heq =>
    cases h
    obtain ⟨v, hv, heq⟩ := Option.bind_eq_some_iff.mp heq
    exact (hdeclared hv).trans (hover heq)
  · obtain ⟨⟨s, u⟩, hu, h⟩ := Option.bind_eq_some_iff.mp h
    dsimp only at h
    split_ifs at h
    have htarget : Closes 0 t u := hskip.trans (hs _ _ _ _ hu)
    exact htarget.trans (hover h)

theorem closes_counting (h : counting self t = some r) : Closes 0 t r := by
  have hskip := closes_skip t
  unfold counting at h
  extract_lets _ part more at h
  have hpart {u v : Text} (hv : part u = some v) : Closes 0 u v := by
    dsimp only [part] at hv
    split at hv
    · next heq =>
      cases hv
      exact (skip_eq heq).past (by decide)
    · obtain ⟨w, hw, hv⟩ := Option.bind_eq_some_iff.mp hv
      exact ((closes_skip u).trans (value_keeps hs hw)).trans (closes_mark hv (by decide))
  -- What comes after the first part.
  have hmore {u : Text} (hu : Closes 0 t u) (h : more u = some r) : Closes 0 t r := by
    obtain ⟨v, hv, h⟩ := Option.bind_eq_some_iff.mp h
    have htest := hu.trans (hpart hv)
    split at h
    · next heq =>
      cases h
      exact htest.trans (closes_mark heq (by decide))
    · obtain ⟨w, hw, h⟩ := Option.bind_eq_some_iff.mp h
      exact (htest.trans (value_keeps hs hw)).trans (closes_mark h (by decide))
  split at h
  · next hword =>
    obtain ⟨u, hu, h⟩ := Option.bind_eq_some_iff.mp h
    exact hmore ((hskip.trans (closes_word hword)).trans (closes_declaration hs hu)) h
  · next hword =>
    obtain ⟨u, hu, h⟩ := Option.bind_eq_some_iff.mp h
    exact hmore ((hskip.trans (closes_word hword)).trans (closes_declaration hs hu)) h
  · next hword =>
    split at h
    · next hu => exact hmore ((hskip.trans (closes_word hword)).trans (closes_declaration hs hu)) h
    · obtain ⟨u, hu, h⟩ := Option.bind_eq_some_iff.mp h
      exact hmore (hskip.trans (hpart hu)) h
  · obtain ⟨u, hu, h⟩ := Option.bind_eq_some_iff.mp h
    exact hmore (hskip.trans (hpart hu)) h

theorem closes_loop (h : loop self t = some r) : Closes 0 t r := by
  unfold loop at h
  split at h
  · next hawait =>
    obtain ⟨u, hu, h⟩ := Option.bind_eq_some_iff.mp h
    obtain ⟨v, hv, h⟩ := Option.bind_eq_some_iff.mp h
    have hopen := (closes_next hawait).trans (closes_mark hu (by decide))
    exact (hopen.trans (closes_iteration hs hv)).trans (closes_statementAfter hs h)
  · obtain ⟨u, hu, h⟩ := Option.bind_eq_some_iff.mp h
    obtain ⟨v, hv, h⟩ := Option.bind_eq_some_iff.mp h
    have hopen := closes_mark hu (by decide)
    have hhead : Closes 0 u v := closes_either hv (closes_iteration hs) (closes_counting hs)
    exact (hopen.trans hhead).trans (closes_statementAfter hs h)

theorem closes_afterwards (h : afterwards self t = some r) : Closes 0 t r := by
  obtain ⟨u, hu, h⟩ := Option.bind_eq_some_iff.mp h
  obtain ⟨v, hv, h⟩ := Option.bind_eq_some_iff.mp h
  obtain ⟨w, hw, h⟩ := Option.bind_eq_some_iff.mp h
  have hbody := (closes_statementAfter hs hu).trans (closes_next hv)
  have htest := hbody.trans (closes_parenthesized hs hw)
  split at h
  · next heq =>
    cases h
    exact htest.trans ((closes_pause heq).past (by decide))
  · cases h
    exact htest

theorem closes_cases {bound : Text} (h : cases self bound t = some r) : Closes 1 t r := by
  induction bound generalizing t with
  | nil => cases h
  | cons _ bound ih =>
    unfold cases at h
    split at h
    · next heq =>
      cases h
      exact (skip_eq heq).shut
    · extract_lets body at h
      -- What comes after the value of a case.
      have hbody {u : Text} (hu : Closes 0 t u) (h : body u = some r) : Closes 1 t r := by
        obtain ⟨v, hv, h⟩ := Option.bind_eq_some_iff.mp h
        obtain ⟨⟨s, w⟩, hw, h⟩ := Option.bind_eq_some_iff.mp h
        have hcolon := hu.trans (closes_mark hv (by decide))
        have hthen : Closes 0 t w := hcolon.trans (hs _ _ _ _ hw)
        exact hthen.trans (ih h)
      split at h
      · next hcase =>
        obtain ⟨u, hu, h⟩ := Option.bind_eq_some_iff.mp h
        have hword := (closes_skip t).trans (closes_keyword hcase)
        exact hbody (hword.trans (value_keeps hs hu)) h
      · obtain ⟨u, hu, h⟩ := Option.bind_eq_some_iff.mp h
        exact hbody ((closes_skip t).trans (closes_keyword hu)) h

theorem closes_choice (h : choice self t = some r) : Closes 0 t r := by
  obtain ⟨u, hu, h⟩ := Option.bind_eq_some_iff.mp h
  obtain ⟨v, hv, h⟩ := Option.bind_eq_some_iff.mp h
  exact ((closes_parenthesized hs hu).trans (mark_eq hv)).opened (closes_cases hs h)

theorem closes_attempt (h : attempt self t = some r) : Closes 0 t r := by
  obtain ⟨u, hu, h⟩ := Option.bind_eq_some_iff.mp h
  have htry := closes_braces hs hu
  extract_lets afterCatch afterName at h
  have hfinally {v : Text} (hv : Closes 0 t v) (h : afterCatch v = some r) : Closes 0 t r := by
    dsimp only [afterCatch] at h
    split at h
    · next hword => exact (hv.trans (closes_next hword)).trans (closes_braces hs h)
    · cases h
      exact hv
  have hcaught {v : Text} (hv : Closes 0 t v) (h : afterName v = some r) : Closes 0 t r := by
    obtain ⟨w, hw, h⟩ := Option.bind_eq_some_iff.mp h
    exact hfinally (hv.trans (closes_braces hs hw)) h
  split at h
  · next hcatch =>
    have hword := htry.trans (closes_next hcatch)
    split at h
    · next hopen =>
      obtain ⟨v, hv, h⟩ := Option.bind_eq_some_iff.mp h
      obtain ⟨w, hw, hv⟩ := Option.bind_eq_some_iff.mp hv
      have hname := (hword.trans (closes_mark hopen (by decide))).trans (closes_binding hs hw)
      exact hcaught (hname.trans (closes_mark hv (by decide))) h
    · exact hcaught hword h
  · exact hfinally htry h

theorem closes_handBack (h : handBack self t = some r) : Closes 0 t r := by
  unfold handBack at h
  split at h
  · cases h
    exact closes_refl t
  · next heq =>
    cases h
    exact (closes_pause heq).past (by decide)
  · next heq => exact (closes_pause heq).trans (closes_expressionStatement hs h)

omit hs in
theorem closes_jump (h : jump t = some r) : Closes 0 t r := by
  unfold jump at h
  split at h
  · cases h
    exact closes_refl t
  · next heq =>
    have hlabel := closes_getD (closes_refl t) fun _ hu => (closes_pause heq).trans (closes_name hu)
    exact hlabel.trans (closes_finish h)

/-! ### Modules -/

omit hs in
theorem closes_source {b : Bool} (h : specifiers.source t = some (b, r)) : Closes 0 t r := by
  unfold specifiers.source at h
  dsimp only at h
  refine (closes_skip t).trans ?_
  split at h
  · next hword =>
    cases h
    exact closes_keyword hword
  · split at h
    · next hlit => exact closes_literal hlit
    · obtain ⟨u, hu, h⟩ := Option.map_eq_some_iff.mp h
      cases h
      exact closes_name hu

omit hs in
theorem closes_specifiers {exporting : Bool} {bound : Text}
    (h : specifiers exporting bound t = some r) : Closes 1 t r := by
  induction bound generalizing t with
  | nil => cases h
  | cons _ bound ih =>
    unfold specifiers at h
    split at h
    · next heq =>
      cases h
      exact (skip_eq heq).shut
    · obtain ⟨⟨b, u⟩, hu, h⟩ := Option.bind_eq_some_iff.mp h
      have hname := (closes_skip t).trans (closes_source hu)
      dsimp -zeta only at h
      extract_lets more at h
      have hmore {v : Text} (hv : Closes 0 t v) (h : more v = some r) : Closes 1 t r := by
        dsimp only [more] at h
        split at h
        · next heq => exact (hv.trans ((skip_eq heq).past (by decide))).trans (ih h)
        · next heq =>
          cases h
          exact (hv.trans (skip_eq heq)).shut
        · cases h
      split at h
      · next has =>
        have hword := hname.trans (closes_next has)
        split_ifs at h
        · obtain ⟨v, hv, h⟩ := Option.bind_eq_some_iff.mp h
          obtain ⟨⟨b, w⟩, hw, hv⟩ := Option.map_eq_some_iff.mp hv
          cases hv
          exact hmore (hword.trans (closes_source hw)) h
        · obtain ⟨v, hv, h⟩ := Option.bind_eq_some_iff.mp h
          exact hmore ((hword.trans (closes_skip _)).trans (closes_name hv)) h
      · split_ifs at h
        · cases h
        · exact hmore hname h

omit hs in
theorem closes_fromClause {n : ℕ} {s : Text} (h : fromClause t = some r) : Closes n t s := by
  obtain ⟨u, hu, h⟩ := Option.bind_eq_some_iff.mp h
  exact ((closes_next hu).trans (closes_skip u)).trans (closes_literal h)

omit hs in
theorem closes_importNames (h : importNames t = some r) : Closes 0 t r := by
  unfold importNames at h
  split at h
  · next heq =>
    obtain ⟨u, hu, h⟩ := Option.bind_eq_some_iff.mp h
    have hword := ((skip_eq heq).past (by decide)).trans (closes_next hu)
    exact (hword.trans (closes_skip u)).trans (closes_name h)
  · next heq => exact (skip_eq heq).opened (closes_specifiers h)
  · cases h

theorem closes_importStatement (ht : Closes 0 whole t) (h : importStatement self whole t = some r) :
    Closes 0 whole r := by
  unfold importStatement at h
  split at h
  case h_1 | h_2 | h_3 => exact closes_expressionStatement hs h
  case h_4 =>
    have hskip := ht.trans (closes_skip t)
    -- A module is named in quotes, by itself or after the names it gives.
    split at h
    · next hlit => exact hskip.trans (closes_literal hlit)
    · extract_lets source at h
      have hfrom {u : Text} (hu : Closes 0 whole u) (h : source u = some r) : Closes 0 whole r := by
        obtain ⟨v, hv, _⟩ := Option.bind_eq_some_iff.mp h
        exact hu.trans (closes_fromClause hv)
      split at h
      · next hname =>
        have hfirst := hskip.trans (closes_name hname)
        split at h
        · next hcomma =>
          obtain ⟨u, hu, h⟩ := Option.bind_eq_some_iff.mp h
          exact hfrom ((hfirst.trans (closes_mark hcomma (by decide))).trans (closes_importNames hu)) h
        · exact hfrom hfirst h
      · obtain ⟨u, hu, h⟩ := Option.bind_eq_some_iff.mp h
        exact hfrom (hskip.trans (closes_importNames hu)) h

theorem closes_exported (h : exported self t = some r) : Closes 0 t r := by
  unfold exported at h
  dsimp only at h
  refine (closes_skip t).trans ?_
  have hfunction {u : Text} (hu : Closes 0 (skip t) u)
      (h : (if (name? (skip ((mark? '*' u).getD u))).isSome then (self .function u).map (·.2)
        else none) = some r) : Closes 0 (skip t) r := by
    split_ifs at h
    exact hu.trans (rest_keeps hs h)
  split at h
  · next heq =>
    obtain ⟨u, hu, h⟩ := Option.bind_eq_some_iff.mp h
    obtain ⟨v, hv, h⟩ := Option.bind_eq_some_iff.mp h
    exact closes_classStatement hs ((closes_decorators hs hu).trans (closes_next hv)) h
  · split at h
    case h_1 hword | h_2 hword | h_3 hword =>
      exact (closes_word hword).trans (closes_declaration hs h)
    case h_4 hword => exact hfunction (closes_word hword) h
    case h_5 hword =>
      obtain ⟨u, hu, h⟩ := Option.bind_eq_some_iff.mp h
      exact hfunction ((closes_word hword).trans (closes_next hu)) h
    case h_6 hword =>
      split_ifs at h
      exact (closes_word hword).trans (rest_keeps hs h)
    case h_7 => cases h

theorem closes_exportDefault (h : exportDefault self t = some r) : Closes 0 t r := by
  have hvalued (h : exportDefault.valued self t = some r) : Closes 0 t r := by
    obtain ⟨u, hu, h⟩ := Option.bind_eq_some_iff.mp h
    exact (value_keeps hs hu).trans (closes_finish h)
  unfold exportDefault at h
  split at h
  · next heq =>
    split_ifs at h
    · exact hvalued h
    · cases h
      exact closes_exported hs heq
  · exact hvalued h

theorem closes_exportStatement (ht : Closes 0 whole t) (h : exportStatement self whole t = some r) :
    Closes 0 whole r := by
  have hskip := ht.trans (closes_skip t)
  unfold exportStatement at h
  dsimp only at h
  split at h
  · next heq =>
    have hstar := (ht.trans (skip_eq heq)).past (by decide)
    split at h
    · next has =>
      obtain ⟨⟨b, v⟩, hv, h⟩ := Option.bind_eq_some_iff.mp h
      obtain ⟨w, hw, h⟩ := Option.bind_eq_some_iff.mp h
      have hname := (hstar.trans (closes_next has)).trans (closes_source hv)
      exact hname.trans (closes_fromClause hw)
    · obtain ⟨v, hv, h⟩ := Option.bind_eq_some_iff.mp h
      exact hstar.trans (closes_fromClause hv)
  · next heq =>
    obtain ⟨v, hv, h⟩ := Option.bind_eq_some_iff.mp h
    have hnames := (ht.trans (skip_eq heq)).opened (closes_specifiers hv)
    split at h
    · next hfrom =>
      obtain ⟨w, hw, hfrom⟩ := Option.bind_eq_some_iff.mp hfrom
      exact (hnames.trans (closes_pause hw)).trans (closes_fromClause hfrom)
    · exact hnames.trans (closes_finish h)
  · exact hskip.trans (closes_exported hs h)
  · split at h
    case h_1 hword => exact (hskip.trans (closes_word hword)).trans (closes_exportDefault hs h)
    case h_8 => exact closes_expressionStatement hs h
    all_goals exact hskip.trans (closes_exported hs h)

/-! ### Statements and programs -/

theorem closes_labelled {w : String} (ht : Closes 0 whole t)
    (h : wordStatement.labelled self whole w t = some r) : Closes 0 whole r := by
  unfold wordStatement.labelled at h
  split at h
  · next heq =>
    split_ifs at h
    exact (ht.trans ((closes_pause heq).past (by decide))).trans (closes_statementAfter hs h)
  · exact closes_expressionStatement hs h

theorem closes_wordStatement {w : String} (ht : Closes 0 whole t)
    (h : wordStatement self whole w t = some r) : Closes 0 whole r := by
  unfold wordStatement at h
  split at h
  · exact ht.trans (closes_declaration hs h)
  · exact ht.trans (closes_declaration hs h)
  · split_ifs at h
    · exact ht.trans (closes_declaration hs h)
    · exact closes_labelled hs ht h
  · exact closes_functionStatement hs ht h
  · split at h
    · next heq =>
      obtain ⟨u, hu, hword⟩ := Option.bind_eq_some_iff.mp heq
      have hfunction := (ht.trans (closes_pause hu)).trans (closes_keyword hword)
      exact closes_functionStatement hs hfunction h
    · exact closes_labelled hs ht h
  · exact closes_classStatement hs ht h
  · exact ht.trans (closes_conditional hs h)
  · exact ht.trans (closes_loop hs h)
  · obtain ⟨u, hu, h⟩ := Option.bind_eq_some_iff.mp h
    exact (ht.trans (closes_parenthesized hs hu)).trans (closes_statementAfter hs h)
  · obtain ⟨u, hu, h⟩ := Option.bind_eq_some_iff.mp h
    exact (ht.trans (closes_parenthesized hs hu)).trans (closes_statementAfter hs h)
  · exact ht.trans (closes_afterwards hs h)
  · exact ht.trans (closes_choice hs h)
  · exact ht.trans (closes_attempt hs h)
  · exact ht.trans (closes_handBack hs h)
  · exact ht.trans (closes_expressionStatement hs h)
  · exact ht.trans (closes_jump h)
  · exact ht.trans (closes_jump h)
  · exact ht.trans (closes_finish h)
  · exact closes_importStatement hs ht h
  · split at h
    · next heq =>
      exact (ht.trans ((closes_pause heq).past (by decide))).trans (closes_statementAfter hs h)
    · exact closes_exportStatement hs ht h
  · exact closes_labelled hs ht h

theorem closes_statement (h : statement self t = some r) : Closes 0 t r := by
  unfold statement at h
  dsimp only at h
  refine (closes_skip t).trans ?_
  split at h
  · next heq =>
    cases h
    rw [heq]
    exact closes_plain (by decide) _
  · next heq =>
    rw [heq] at h ⊢
    exact closes_braceStatement hs h
  · obtain ⟨u, hu, h⟩ := Option.bind_eq_some_iff.mp h
    have hmarks := closes_decorators hs hu
    split at h
    · next hword => exact closes_exportStatement hs (hmarks.trans (closes_next hword)) h
    · obtain ⟨v, hv, h⟩ := Option.bind_eq_some_iff.mp h
      exact closes_classStatement hs (hmarks.trans (closes_next hv)) h
  · split at h
    · next hword => exact closes_wordStatement hs (closes_word hword) h
    · exact closes_expressionStatement hs h

theorem closes_statements {bound : Text} (h : statements self bound t = some r) : Closes 0 t r := by
  induction bound generalizing t with
  | nil =>
    cases h
    exact closes_refl r
  | cons _ bound ih =>
    unfold statements at h
    dsimp only at h
    split at h
    · next heq =>
      cases h
      exact skip_eq heq
    · cases h
      exact closes_skip t
    · split_ifs at h
      · cases h
        exact closes_skip t
      · obtain ⟨u, hu, h⟩ := Option.bind_eq_some_iff.mp h
        exact ((closes_skip t).trans (closes_statementAfter hs hu)).trans (ih h)

theorem closes_block (h : block self t = some r) : Closes 1 t r := by
  obtain ⟨⟨s, u⟩, hu, h⟩ := Option.bind_eq_some_iff.mp h
  have hbody : Closes 0 t u := hs _ _ _ _ hu
  exact (hbody.trans (mark_eq h)).shut

/-- One more level of calls keeps what the levels below it keep. -/
theorem level_sound : Sound (level self) := by
  intro rule t s r h
  cases rule with
  | statements => exact closes_statements hs (plain_eq h)
  | statement => exact closes_statement hs (plain_eq h)
  | block => exact closes_block hs (plain_eq h)
  | expressions => exact closes_expressions hs (plain_eq h)
  | expression => exact closes_expression hs h
  | operand => exact closes_operand hs h
  | atom => exact closes_atom hs h
  | tail => exact closes_tail hs h
  | items => exact fun hclose => closes_itemsUpTo hs hclose h
  | object => exact closes_members hs h
  | function => exact closes_functionRest hs (plain_eq h)
  | classRest => exact closes_classRest hs (plain_eq h)
  | template | element | children => trivial

end

theorem derive_sound (depth : ℕ) : Sound (derive depth) := by
  induction depth with
  | zero =>
    intro rule t s r h
    cases h
  | succ depth ih => exact level_sound ih

theorem closes_afterInterpreter (t : Text) : Closes 0 t (afterInterpreter t) := by
  unfold afterInterpreter
  split
  · next heq => exact (skip_eq heq).foreign (by decide)
  · exact closes_refl t

/-- The braces of a clean program are balanced. -/
theorem isProgram_balanced {t : Text} (ht : Clean t) (h : isProgram t = true) : Balanced t := by
  unfold isProgram at h
  split at h
  · next s r hr =>
    have hend : skip r = [] := List.isEmpty_iff.mp h
    have hread : Closes 0 t r := (closes_afterInterpreter t).trans (derive_sound _ _ _ _ _ hr)
    obtain ⟨u, hu, hfalls⟩ := (hread.trans (skip_eq hend)) ht
    rw [hu, List.append_nil]
    exact (balanced_iff u).mpr hfalls
  · cases h

end Excerpt.JavaScript
