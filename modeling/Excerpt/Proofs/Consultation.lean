import Excerpt.Proofs.Gathering

/-! The questions that reading a unit puts to a judge, who may remember what it was asked: which they
are, in which order, and where they stop. -/
namespace Excerpt

/-- A candidate, and what is known besides it. -/
abbrev Question := Text × Evidence

/-- For each number of lines, the text so far and the line behind it. -/
def lookAheads (ls : List Text) : List Question :=
  (List.range ls.length).map fun i => ((ls.take (i + 1)).flatten, .ahead (ls.getD (i + 1) []))

/-- The candidates that a feed has to offer, in order. A feed that gets stuck never shows what is
behind its last line. -/
def Feed.candidates (feed : Feed) : List Question :=
  match feed.ending with
  | .done => lookAheads feed.lines ++ [(feed.lines.flatten, .atEnd)]
  | .stuck _ _ => (lookAheads feed.lines).dropLast

/-- The candidates that a judge is asked about: comments alone are not put to it. -/
def Dialect.audible (d : Dialect) (qs : List Question) : List Question :=
  qs.filter fun q => !d.isQuiet q.1

/-- How a run ends when no answer was yes. -/
def Feed.unanswered (feed : Feed) : Gathered :=
  match feed.ending with
  | .done => .ended feed.lines.length
  | .stuck f _ => .stuck f

/-- How a run ends, by what was asked and answered. -/
def Feed.verdict (feed : Feed) (asked : List (Question × Bool)) : Gathered :=
  match asked.find? (·.2) with
  | some c => .unit c.1.1
  | none => feed.unanswered

section
variable {σ : Type}

/-- The judge that also keeps what it was asked, and what it answered. -/
def Judge.recorded (j : Judge σ) : Judge (σ × List (Question × Bool)) where
  dialect := j.dialect
  ask m code e :=
    let (yes, s) := j.ask m.1 code e
    (yes, (s, m.2 ++ [((code, e), yes)]))

/-- Asks one question after the other, up to the first that is answered with yes. -/
def consult (j : Judge σ) : σ → List Question → σ × List (Question × Bool)
  | s, [] => (s, [])
  | s, q :: more =>
    match j.ask s q.1 q.2 with
    | (true, s) => (s, [(q, true)])
    | (false, s) => ((consult j s more).1, (q, false) :: (consult j s more).2)

end

/-! ### One question after the other -/

section
variable {σ : Type} (j : Judge σ)

theorem consult_yes {s s' : σ} {q : Question} (h : j.ask s q.1 q.2 = (true, s'))
    (more : List Question) : consult j s (q :: more) = (s', [(q, true)]) := by
  rw [consult, h]

theorem consult_no {s s' : σ} {q : Question} (h : j.ask s q.1 q.2 = (false, s'))
    (more : List Question) :
    consult j s (q :: more) = ((consult j s' more).1, (q, false) :: (consult j s' more).2) := by
  rw [consult, h]

/-- The questions are asked in their order, from the first one on. -/
theorem consult_in_order (s : σ) (qs : List Question) :
    (consult j s qs).2.map Prod.fst <+: qs := by
  induction qs generalizing s with
  | nil => exact List.prefix_rfl
  | cons q more ih =>
    rcases h : j.ask s q.1 q.2 with ⟨_ | _, s'⟩
    · rw [consult_no j h]
      exact (List.prefix_cons_inj q).mpr (ih s')
    · rw [consult_yes j h]
      exact ⟨more, rfl⟩

/-- No question follows one that was answered with yes. -/
theorem consult_stops (s : σ) (qs : List Question) :
    ∀ c ∈ (consult j s qs).2.dropLast, c.2 = false := by
  induction qs generalizing s with
  | nil =>
    intro c hc
    cases hc
  | cons q more ih =>
    intro c hc
    rcases h : j.ask s q.1 q.2 with ⟨_ | _, s'⟩
    · rw [consult_no j h] at hc
      rcases hrest : (consult j s' more).2 with _ | ⟨c', rest⟩
      · rw [hrest] at hc
        cases hc
      · rw [hrest, List.dropLast_cons_cons, ← hrest] at hc
        rcases List.mem_cons.mp hc with rfl | hc
        · rfl
        · exact ih s' c hc
    · rw [consult_yes j h] at hc
      cases hc

/-- As long as every answer is no, no question is left out. -/
theorem consult_all (s : σ) (qs : List Question)
    (hno : ∀ c ∈ (consult j s qs).2, c.2 = false) : (consult j s qs).2.map Prod.fst = qs := by
  induction qs generalizing s with
  | nil => rfl
  | cons q more ih =>
    rcases h : j.ask s q.1 q.2 with ⟨_ | _, s'⟩
    · rw [consult_no j h] at hno ⊢
      rw [List.map_cons, ih s' fun c hc => hno c (List.mem_cons_of_mem _ hc)]
    · rw [consult_yes j h] at hno
      have hyes : true = false := hno (q, true) (List.mem_singleton.mpr rfl)
      cases hyes

end

/-! ### The candidates of a feed -/

theorem length_lookAheads (ls : List Text) : (lookAheads ls).length = ls.length := by
  simp [lookAheads]

theorem getElem_lookAheads {ls : List Text} {n : ℕ} (h : n < (lookAheads ls).length) :
    (lookAheads ls)[n] = ((ls.take (n + 1)).flatten, .ahead (ls.getD (n + 1) [])) := by
  simp [lookAheads]

/-- The next candidate once `pre` has been gathered and `line` read. -/
theorem candidates_step (ending : Ending) (pre rest : List Text) (line : Text)
    (h : rest ≠ [] ∨ ending = .done) :
    (Feed.mk (pre ++ line :: rest) ending).candidates.drop pre.length =
      (pre.flatten ++ line, .ahead (rest.headD [])) ::
        (Feed.mk (pre ++ line :: rest) ending).candidates.drop (pre.length + 1) := by
  have hlt : pre.length < (lookAheads (pre ++ line :: rest)).length := by
    rw [length_lookAheads]
    simp
  have hnext : (lookAheads (pre ++ line :: rest))[pre.length] =
      (pre.flatten ++ line, .ahead (rest.headD [])) := by
    rw [getElem_lookAheads, take_gathered, getD_gathered]
  cases ending with
  | done =>
    have hmore : pre.length < (lookAheads (pre ++ line :: rest) ++
        [((pre ++ line :: rest).flatten, Evidence.atEnd)]).length := by
      rw [List.length_append]
      omega
    rw [Feed.candidates, List.drop_eq_getElem_cons hmore, List.getElem_append_left hlt, hnext]
  | stuck f bytes =>
    have hrest : rest ≠ [] := h.resolve_right (by rintro ⟨⟩)
    have hmore : pre.length < (lookAheads (pre ++ line :: rest)).dropLast.length := by
      have hpos : 0 < rest.length := List.length_pos_iff.mpr hrest
      rw [List.length_dropLast, length_lookAheads]
      simp only [List.length_append, List.length_cons]
      omega
    rw [Feed.candidates, List.drop_eq_getElem_cons hmore, List.getElem_dropLast, hnext]

/-- Behind the last line there is one more candidate, at the end of the file. -/
theorem candidates_last (ls : List Text) :
    (Feed.mk ls .done).candidates.drop ls.length = [(ls.flatten, .atEnd)] := by
  rw [Feed.candidates, List.drop_left' (length_lookAheads ls)]

/-- A feed that is stuck behind its last line has no candidate left there. -/
theorem candidates_stuck (f : DecodeFault) (bytes : Piece) (pre : List Text) (line : Text) :
    (Feed.mk (pre ++ [line]) (.stuck f bytes)).candidates.drop pre.length = [] := by
  apply List.drop_of_length_le
  rw [Feed.candidates, List.length_dropLast, length_lookAheads]
  simp

/-! ### The run of the reader -/

section
variable {σ : Type} (j : Judge σ)

/-- One candidate is asked about or passed over. After a yes, asking stops; otherwise it goes on with
the judge's memory as it then is. -/
theorem decide_recorded (s : σ) (asked : List (Question × Bool)) (code : Text) (e : Evidence)
    (more : List Question) :
    (∃ s', j.recorded.decide (s, asked) code e = (true, (s', asked ++ [((code, e), true)])) ∧
      consult j s (j.dialect.audible ((code, e) :: more)) = (s', [((code, e), true)])) ∨
    ∃ s' no, (∀ c ∈ no, c.2 = false) ∧
      j.recorded.decide (s, asked) code e = (false, (s', asked ++ no)) ∧
      consult j s (j.dialect.audible ((code, e) :: more)) =
        ((consult j s' (j.dialect.audible more)).1, no ++ (consult j s' (j.dialect.audible more)).2) := by
  by_cases hquiet : j.dialect.isQuiet code = true
  · -- Comments alone: no question, and no change of memory.
    refine Or.inr ⟨s, [], by simp, ?_, ?_⟩
    · rw [Judge.decide]
      simp [Judge.recorded, hquiet]
    · simp [Dialect.audible, hquiet]
  · have hask : j.dialect.audible ((code, e) :: more) = (code, e) :: j.dialect.audible more := by
      simp [Dialect.audible, hquiet]
    have hdecide : j.recorded.decide (s, asked) code e = j.recorded.ask (s, asked) code e := by
      rw [Judge.decide]
      simp [Judge.recorded, hquiet]
    rw [hask, hdecide]
    rcases h : j.ask s code e with ⟨_ | _, s'⟩
    · refine Or.inr ⟨s', [((code, e), false)], by simp, ?_, ?_⟩
      · simp [Judge.recorded, h]
      · rw [consult_no j h]
        rfl
    · refine Or.inl ⟨s', ?_, ?_⟩
      · simp [Judge.recorded, h]
      · rw [consult_yes j h]

/-- An empty text needs no guard at the end of the file: it is not put to the judge anyway. -/
theorem settle_decide {τ : Type} (j : Judge τ) (m : τ) (code : Text) :
    (if code.isEmpty then (false, m) else j.decide m code .atEnd) = j.decide m code .atEnd := by
  split_ifs with he
  · rw [List.isEmpty_iff.mp he]
    rfl
  · rfl

theorem verdict_append {feed : Feed} {no asked : List (Question × Bool)}
    (h : ∀ c ∈ no, c.2 = false) : feed.verdict (no ++ asked) = feed.verdict asked := by
  have hnone : no.find? (·.2) = none := by
    rw [List.find?_eq_none]
    intro c hc
    simp [h c hc]
  rw [Feed.verdict, List.find?_append, hnone, Option.none_or]
  rfl

/-- What a run leaves: the judge's memory after being consulted about `qs`, with the record of it, and
the result that the answers amount to. -/
def Consulted (feed : Feed) (s : σ) (asked : List (Question × Bool)) (qs : List Question)
    (run : Gathering (σ × List (Question × Bool))) : Prop :=
  run.memory = ((consult j s (j.dialect.audible qs)).1, asked ++ (consult j s (j.dialect.audible qs)).2) ∧
    run.result = feed.verdict (consult j s (j.dialect.audible qs)).2

/-- A no adds to the record, and the run goes on with the candidates behind. -/
theorem consulted_no {feed : Feed} {s s' : σ} {asked no : List (Question × Bool)} {q : Question}
    {qs : List Question} {run : Gathering (σ × List (Question × Bool))} (r : Record)
    (hno : ∀ c ∈ no, c.2 = false)
    (hq : consult j s (j.dialect.audible (q :: qs)) =
      ((consult j s' (j.dialect.audible qs)).1, no ++ (consult j s' (j.dialect.audible qs)).2))
    (h : Consulted j feed s' (asked ++ no) qs run) :
    Consulted j feed s asked (q :: qs) (run.noting r) := by
  obtain ⟨hmemory, hresult⟩ := h
  constructor
  · rw [hq, ← List.append_assoc]
    exact hmemory
  · rw [hq, verdict_append hno]
    exact hresult

/-- The last question, at the end of the file. -/
theorem settle_consults (loc : Location) {feed : Feed} (s : σ) (asked : List (Question × Bool))
    (code : Text) {count : ℕ} (hcount : feed.unanswered = .ended count) (left : Feed) :
    Consulted j feed s asked [(code, .atEnd)]
      (settle j.recorded loc (s, asked) code count left) := by
  rw [settle, settle_decide]
  rcases decide_recorded j s asked code .atEnd [] with ⟨s', hyes, hq⟩ | ⟨s', no, hno, hdecide, hq⟩
  · rw [hyes]
    refine ⟨?_, ?_⟩
    · rw [hq]
      rfl
    · rw [hq]
      rfl
  · rw [hdecide]
    refine ⟨?_, ?_⟩
    · rw [hq]
      simp [Dialect.audible, consult]
    · rw [hq, verdict_append hno]
      exact hcount.symm

/-- The lines gathered so far having been refused, a run asks about the candidates that are left. -/
theorem gatherLine_consults (loc : Location) (ending : Ending) (pre rest : List Text) (line : Text)
    (s : σ) (asked : List (Question × Bool)) :
    Consulted j ⟨pre ++ line :: rest, ending⟩ s asked
      ((Feed.mk (pre ++ line :: rest) ending).candidates.drop pre.length)
      (gatherLine j.recorded loc (s, asked) pre.flatten pre.length ending line rest) := by
  -- On the lines not yet read: each step moves `line` to the gathered ones.
  induction rest generalizing pre line s asked with
  | nil =>
    cases ending with
    | stuck f bytes =>
      rw [candidates_stuck]
      refine ⟨?_, rfl⟩
      simp [gatherLine, Dialect.audible, consult]
    | done =>
      have hall : (Feed.mk (pre ++ [line]) .done).candidates.drop (pre.length + 1) =
          [(pre.flatten ++ line, .atEnd)] := by
        simpa using candidates_last (pre ++ [line])
      rw [candidates_step .done pre [] line (Or.inr rfl), hall]
      rcases decide_recorded j s asked (pre.flatten ++ line) (.ahead []) [(pre.flatten ++ line, .atEnd)]
        with ⟨s', hyes, hq⟩ | ⟨s', no, hno, hdecide, hq⟩
      · simp only [gatherLine, hyes, if_true]
        exact ⟨by rw [List.headD_nil, hq], by rw [List.headD_nil, hq]; rfl⟩
      · simp only [gatherLine, hdecide]
        have hcount : (Feed.mk (pre ++ [line]) .done).unanswered = .ended (pre.length + 1) := by
          simp [Feed.unanswered]
        exact consulted_no j _ hno hq (settle_consults j loc s' (asked ++ no) _ hcount _)
  | cons upcoming rest ih =>
    rw [candidates_step ending pre (upcoming :: rest) line (Or.inl (List.cons_ne_nil _ _))]
    rcases decide_recorded j s asked (pre.flatten ++ line) (.ahead upcoming)
      ((Feed.mk (pre ++ line :: upcoming :: rest) ending).candidates.drop (pre.length + 1))
      with ⟨s', hyes, hq⟩ | ⟨s', no, hno, hdecide, hq⟩
    · simp only [gatherLine, hyes, if_true]
      exact ⟨by rw [List.headD_cons, hq], by rw [List.headD_cons, hq]; rfl⟩
    · simp only [gatherLine, hdecide]
      have hgather := ih (pre ++ [line]) upcoming s' (asked ++ no)
      rw [List.append_assoc, List.length_append, List.flatten_append, List.flatten_singleton] at hgather
      exact consulted_no j _ hno hq hgather

/-- A run over a feed asks about its candidates, from the first one on. -/
theorem gather_consults (loc : Location) (s : σ) (feed : Feed) :
    Consulted j feed s [] feed.candidates (gather j.recorded loc (s, []) feed) := by
  rcases feed with ⟨_ | ⟨line, rest⟩, ending⟩
  · cases ending with
    | done => exact settle_consults j loc s [] [] rfl _
    | stuck f bytes => exact ⟨rfl, rfl⟩
  · exact gatherLine_consults j loc ending [] rest line s []

end

/-! ### The record changes nothing -/

section
variable {σ τ : Type}

/-- What a run leaves without the second part of the judge's memory. -/
def Gathering.unrecorded (g : Gathering (σ × τ)) : Gathering σ :=
  ⟨g.result, g.records, g.feed, g.memory.1⟩

variable (j : Judge σ) (loc : Location)

theorem decide_unrecorded (m : σ × List (Question × Bool)) (code : Text) (e : Evidence) :
    j.decide m.1 code e = ((j.recorded.decide m code e).1, (j.recorded.decide m code e).2.1) := by
  have hrecorded : j.recorded.decide m code e =
      if j.dialect.isQuiet code then (false, m) else j.recorded.ask m code e := rfl
  rw [hrecorded, Judge.decide]
  split_ifs <;> rfl

theorem settle_unrecorded (m : σ × List (Question × Bool)) (code : Text) (count : ℕ) (left : Feed) :
    (settle j.recorded loc m code count left).unrecorded = settle j loc m.1 code count left := by
  rw [settle, settle, settle_decide, settle_decide, decide_unrecorded]
  rcases j.recorded.decide m code .atEnd with ⟨_ | _, m'⟩ <;> rfl

theorem gatherLine_unrecorded (m : σ × List (Question × Bool)) (code : Text) (count : ℕ)
    (ending : Ending) (line : Text) (rest : List Text) :
    (gatherLine j.recorded loc m code count ending line rest).unrecorded =
      gatherLine j loc m.1 code count ending line rest := by
  induction rest generalizing m code count line with
  | nil =>
    cases ending with
    | stuck f bytes => rfl
    | done =>
      simp only [gatherLine, decide_unrecorded j m]
      rcases j.recorded.decide m (code ++ line) (.ahead []) with ⟨_ | _, m'⟩
      · exact congrArg (Gathering.noting _) (settle_unrecorded j loc m' _ _ _)
      · rfl
  | cons upcoming rest ih =>
    simp only [gatherLine, decide_unrecorded j m]
    rcases j.recorded.decide m (code ++ line) (.ahead upcoming) with ⟨_ | _, m'⟩
    · exact congrArg (Gathering.noting _) (ih m' _ _ _)
    · rfl

theorem gather_unrecorded (m : σ × List (Question × Bool)) (feed : Feed) :
    (gather j.recorded loc m feed).unrecorded = gather j loc m.1 feed := by
  rcases feed with ⟨_ | ⟨line, rest⟩, ending⟩
  · cases ending with
    | done => exact settle_unrecorded j loc m [] 0 _
    | stuck f bytes => rfl
  · exact gatherLine_unrecorded j loc m [] 0 ending line rest

end

/-! ### How the candidates grow -/

/-- The second text is the first with whole lines of `ls` behind it. -/
def ExtendsBy (ls : List Text) (a b : Text) : Prop :=
  ∃ k l, k ≤ l ∧ a = (ls.take k).flatten ∧ b = (ls.take l).flatten

theorem lookAheads_grow (ls : List Text) :
    (lookAheads ls).Pairwise fun p q => ExtendsBy ls p.1 q.1 := by
  rw [lookAheads, List.pairwise_map]
  refine List.pairwise_lt_range.imp ?_
  intro k l hlt
  exact ⟨k + 1, l + 1, by omega, rfl, rfl⟩

theorem candidates_grow (feed : Feed) :
    feed.candidates.Pairwise fun p q => ExtendsBy feed.lines p.1 q.1 := by
  rcases feed with ⟨ls, ending⟩
  cases ending with
  | stuck f bytes => exact (lookAheads_grow ls).sublist (List.dropLast_sublist _)
  | done =>
    refine List.pairwise_append.mpr ⟨lookAheads_grow ls, List.pairwise_singleton _ _, ?_⟩
    intro p hp q hq
    obtain rfl := List.mem_singleton.mp hq
    obtain ⟨i, hi, rfl⟩ := List.mem_map.mp hp
    have hi : i < ls.length := List.mem_range.mp hi
    exact ⟨i + 1, ls.length, hi, rfl, by rw [List.take_length]⟩

/-- Lines that are not empty make a longer text with each one more. -/
theorem take_flatten_ne {ls : List Text} (hne : ∀ l ∈ ls, l ≠ []) {k l : ℕ} (hlt : k < l)
    (hl : l ≤ ls.length) : (ls.take k).flatten ≠ (ls.take l).flatten := by
  intro heq
  have hsplit : ls.take l = ls.take k ++ (ls.take l).drop k := by
    conv_lhs => rw [← List.take_append_drop k (ls.take l), List.take_take, Nat.min_eq_left hlt.le]
  have hnil : ((ls.take l).drop k).flatten = [] := by
    rw [hsplit, List.flatten_append] at heq
    exact List.self_eq_append_right.mp heq
  have hlen : 0 < ((ls.take l).drop k).length := by
    rw [List.length_drop, List.length_take]
    omega
  obtain ⟨line, hline⟩ := List.exists_mem_of_length_pos hlen
  have hmem : line ∈ ls := List.mem_of_mem_take (List.mem_of_mem_drop hline)
  exact hne line hmem (List.flatten_eq_nil_iff.mp hnil line hline)

/-- A candidate comes up once with a line behind it, and once at the end of the file. -/
theorem candidates_nodup (feed : Feed) (hne : ∀ l ∈ feed.lines, l ≠ []) :
    (feed.candidates.map fun q => (q.1, q.2.final)).Nodup := by
  rcases feed with ⟨ls, ending⟩
  have hahead : ((lookAheads ls).map fun q => (q.1, q.2.final)).Nodup := by
    rw [lookAheads, List.map_map]
    refine List.pairwise_map.mpr (List.pairwise_lt_range.imp_of_mem ?_)
    intro k l _ hl hlt heq
    have hl : l + 1 ≤ ls.length := List.mem_range.mp hl
    exact take_flatten_ne hne (Nat.succ_lt_succ hlt) hl (congrArg Prod.fst heq)
  cases ending with
  | stuck f bytes => exact hahead.sublist ((List.dropLast_sublist _).map _)
  | done =>
    rw [Feed.candidates, List.map_append]
    refine List.nodup_append.mpr ⟨hahead, List.pairwise_singleton _ _, ?_⟩
    intro p hp q hq heq
    obtain rfl := List.mem_singleton.mp hq
    obtain ⟨a, ha, rfl⟩ := List.mem_map.mp hp
    obtain ⟨i, _, rfl⟩ := List.mem_map.mp ha
    cases congrArg Prod.snd heq

/-- The protocol of a run with any judge, on any feed. The judge is consulted about the candidates of
the feed, comments alone left out: in order from the first one, not beyond a yes, and about all of
them if there is none; the result is the candidate that got the yes. Each candidate extends the one
before by whole lines, and none comes up twice with a line behind it or twice at the end. -/
theorem judge_consulted {σ : Type} (j : Judge σ) (loc : Location) (s : σ) (feed : Feed) :
    let run := gather j.recorded loc (s, []) feed
    let questions := j.dialect.audible feed.candidates
    run.unrecorded = gather j loc s feed ∧
      run.memory = consult j s questions ∧
      run.memory.2.map Prod.fst <+: questions ∧
      (∀ c ∈ run.memory.2.dropLast, c.2 = false) ∧
      ((∀ c ∈ run.memory.2, c.2 = false) → run.memory.2.map Prod.fst = questions) ∧
      run.result = feed.verdict run.memory.2 ∧
      (run.memory.2.Pairwise fun a b => ExtendsBy feed.lines a.1.1 b.1.1) ∧
      ((∀ l ∈ feed.lines, l ≠ []) → (run.memory.2.map fun c => (c.1.1, c.1.2.final)).Nodup) := by
  intro run questions
  obtain ⟨hmemory, hresult⟩ := gather_consults j loc s feed
  have hmemory : run.memory = consult j s questions := hmemory
  have horder := consult_in_order j s questions
  have hsub : ((consult j s questions).2.map Prod.fst).Sublist feed.candidates :=
    horder.sublist.trans List.filter_sublist
  rw [hmemory]
  refine ⟨gather_unrecorded j loc (s, []) feed, rfl, horder, consult_stops j s questions,
    consult_all j s questions, hresult, ?_, ?_⟩
  · have hgrow := (candidates_grow feed).sublist hsub
    rw [List.pairwise_map] at hgrow
    exact hgrow
  · intro hne
    have hnodup := (candidates_nodup feed hne).sublist (hsub.map _)
    rwa [List.map_map] at hnodup

/-- A judge that counts what it is asked, and says yes to the second question. -/
def secondYes : Judge ℕ where
  dialect := ⟨"stub", ['#']⟩
  ask n _ _ := (n == 1, n + 1)

/-- A comment by itself is passed over, one line of code behind it is refused, and with the second line
of code the run stops; the last line is only looked at. -/
theorem second_question_accepted :
    let comment := "#\n".toList
    let feed : Feed := ⟨[comment, ['a', '\n'], ['b', '\n'], ['c', '\n']], .done⟩
    let run := gather secondYes.recorded ⟨"a", 1, by decide⟩ (0, []) feed
    (∀ l ∈ feed.lines, l ≠ []) ∧
      run.memory.2 = [(("#\na\n".toList, .ahead ['b', '\n']), false),
        (("#\na\nb\n".toList, .ahead ['c', '\n']), true)] ∧
      run.result = .unit "#\na\nb\n".toList ∧
      (run.memory.2.map fun c => (c.1.1, c.1.2.final)).Nodup := by
  intro comment feed run
  obtain ⟨-, hmemory, -, -, -, hresult, -, hnodup⟩ :=
    judge_consulted secondYes ⟨"a", 1, by decide⟩ 0 feed
  have hlines : ∀ l ∈ feed.lines, l ≠ [] := by decide
  have hasked : run.memory.2 = [(("#\na\n".toList, .ahead ['b', '\n']), false),
      (("#\na\nb\n".toList, .ahead ['c', '\n']), true)] := by
    rw [hmemory]
    decide
  refine ⟨hlines, hasked, ?_, hnodup hlines⟩
  rw [hresult, hasked]
  rfl

end Excerpt
