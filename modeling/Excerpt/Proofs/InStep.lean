import Excerpt.Proofs.Gathering

/-! Two files read in step. If a language judges every number of lines of the one as it judges that
number of lines of the other, both readings stop after the same number, in the same way. -/
namespace Excerpt

/-- How two readings in step end: the same number of lines is the unit of both, or both files end and
the same number of lines was read. -/
inductive InStep (loc loc' : Location) (ls ls' : List Text) :
    Except Fault Text → Except Fault Text → Prop
  | unit {k : ℕ} (pos : 0 < k) (le : k ≤ ls.length) :
      InStep loc loc' ls ls' (.ok (ls.take k).flatten) (.ok (ls'.take k).flatten)
  | ended (count : ℕ) :
      InStep loc loc' ls ls' (.error (.endOfInput loc.file loc.line count))
        (.error (.endOfInput loc'.file loc'.line count))

/-- The language gives the same answers about both lists of lines, line by line and at the end. -/
structure JudgedAlike (lang : Language) (ls ls' : List Text) : Prop where
  length : ls.length = ls'.length
  ahead : ∀ k, 0 < k → k ≤ ls.length → lang.takes ls k = lang.takes ls' k
  atEnd : lang.isComplete ls.flatten .atEnd = lang.isComplete ls'.flatten .atEnd

section
variable {lang : Language} {loc loc' : Location} {ls ls' : List Text}

theorem judgedAlike_accepted (h : JudgedAlike lang ls ls') : lang.accepted ls = lang.accepted ls' := by
  ext k
  constructor
  · rintro ⟨hpos, hle, hyes⟩
    exact ⟨hpos, h.length ▸ hle, h.ahead k hpos hle ▸ hyes⟩
  · rintro ⟨hpos, hle, hyes⟩
    have hle' : k ≤ ls.length := h.length ▸ hle
    exact ⟨hpos, hle', (h.ahead k hpos hle').trans hyes⟩

/-- Equal answers are all it takes. -/
theorem unitFrom_inStep (h : JudgedAlike lang ls ls') :
    InStep loc loc' ls ls' (unitFrom lang loc ⟨ls, .done⟩) (unitFrom lang loc' ⟨ls', .done⟩) := by
  have hrun := gather_reading lang loc ⟨ls, .done⟩
  have hrun' := gather_reading lang loc' ⟨ls', .done⟩
  rw [unitFrom, unitFrom]
  rcases (lang.accepted ls).eq_empty_or_nonempty with hnone | hsome
  · have hnone' := judgedAlike_accepted h ▸ hnone
    rcases reading_none hrun hnone with ⟨hne, hend, hunit⟩ | ⟨hend, hended⟩
    · rcases reading_none hrun' hnone' with ⟨_, _, hunit'⟩ | ⟨hno, _⟩
      · have hall : InStep loc loc' ls ls' (.ok (ls.take ls.length).flatten)
            (.ok (ls'.take ls.length).flatten) :=
          InStep.unit (List.length_pos_iff.mpr hne) le_rfl
        rw [List.take_length, h.length, List.take_length] at hall
        rw [hunit, hunit']
        exact hall
      · rw [← h.atEnd, hend] at hno
        cases hno
    · rcases reading_none hrun' hnone' with ⟨_, hyes, _⟩ | ⟨_, hended'⟩
      · rw [← h.atEnd, hend] at hyes
        cases hyes
      · rw [hended, hended', ← h.length]
        exact InStep.ended ls.length
  · -- The numbers that are accepted are the same, and so is the least of them.
    obtain ⟨k, hk, hunit, _⟩ := reading_least hrun hsome
    obtain ⟨k', hk', hunit', _⟩ := reading_least hrun' (judgedAlike_accepted h ▸ hsome)
    obtain rfl : k = k' := hk.unique (judgedAlike_accepted h ▸ hk')
    rw [hunit, hunit']
    exact InStep.unit hk.1.1 hk.1.2.1

/-- Of a cut, different numbers of lines have different texts. -/
theorem cut_take_inj (h : Cut ls) {j k : ℕ} :
    (ls.take j).flatten = (ls.take k).flatten ↔ min j ls.length = min k ls.length := by
  rw [← List.take_eq_take_iff]
  constructor
  · intro heq
    rw [← lines_cut (cut_take h j), heq, lines_cut (cut_take h k)]
  · exact congrArg List.flatten

variable {r r' : Except Fault Text}

theorem inStep_unit_iff (h : InStep loc loc' ls ls' r r') (hlen : ls.length = ls'.length)
    (hcut : Cut ls) (hcut' : Cut ls') (k : ℕ) :
    r = .ok (ls.take k).flatten ↔ r' = .ok (ls'.take k).flatten := by
  cases h with
  | unit _ _ => rw [Except.ok.injEq, Except.ok.injEq, cut_take_inj hcut, cut_take_inj hcut', hlen]
  | ended _ => simp

theorem inStep_ended_iff (h : InStep loc loc' ls ls' r r') (count : ℕ) :
    r = .error (.endOfInput loc.file loc.line count) ↔
      r' = .error (.endOfInput loc'.file loc'.line count) := by
  cases h with
  | unit _ _ => simp
  | ended _ => simp

end

/-! ### Python -/

/-- Python over any notion of module and block. -/
def pythonBy (host : Python.Host) : Language := { Language.python with accepts := host.accepts }

/-- Two candidates about which every answer is the same that does not depend on the next line. Where
blocks open is asked of modules only. -/
structure CandidatesAlike (host : Python.Host) (code code' : Text) : Prop where
  quiet : Language.python.isQuiet code = Language.python.isQuiet code'
  isModule : host.isModule (Python.dedent code) = host.isModule (Python.dedent code')
  opens : host.isModule (Python.dedent code) = true →
    host.opensSuite (Python.dedent code) = host.opensSuite (Python.dedent code')
  last : isBlankLine ((bareLines (Python.dedent code)).getLastD []) =
    isBlankLine ((bareLines (Python.dedent code')).getLastD [])

section
variable {host : Python.Host} {ls ls' : List Text}

theorem isComplete_alike {code code' : Text} {e e' : Evidence} (h : CandidatesAlike host code code')
    (hfinal : e.final = e'.final)
    (hcloses : Python.closesSuite ((bareLines code).headD []) e.next =
      Python.closesSuite ((bareLines code').headD []) e'.next) :
    (pythonBy host).isComplete code e = (pythonBy host).isComplete code' e' := by
  have haccepts : host.accepts code e = host.accepts code' e' := by
    rw [Python.Host.accepts, Python.Host.accepts, ← h.isModule]
    cases hmodule : host.isModule (Python.dedent code) with
    | false => rfl
    | true => rw [h.opens hmodule, h.last, hfinal, hcloses]
  change (if Language.python.isQuiet code then false else host.accepts code e) =
    if Language.python.isQuiet code' then false else host.accepts code' e'
  rw [h.quiet, haccepts]

/-- Lines are judged alike if the candidates are alike that they make, and if the lines behind these
close a block alike. -/
theorem judgedAlike_candidates (hlen : ls.length = ls'.length)
    (hcode : ∀ k, 0 < k → k ≤ ls.length →
      CandidatesAlike host (ls.take k).flatten (ls'.take k).flatten)
    (hnext : ∀ k, 0 < k → k ≤ ls.length →
      Python.closesSuite ((bareLines (ls.take k).flatten).headD []) (some (ls.getD k [])) =
        Python.closesSuite ((bareLines (ls'.take k).flatten).headD []) (some (ls'.getD k []))) :
    JudgedAlike (pythonBy host) ls ls' := by
  refine ⟨hlen, fun k hpos hle => isComplete_alike (hcode k hpos hle) rfl (hnext k hpos hle), ?_⟩
  rcases Nat.eq_zero_or_pos ls.length with hnil | hpos
  · rw [List.length_eq_zero_iff.mp hnil, List.length_eq_zero_iff.mp (hlen.symm.trans hnil)]
  · have hall := hcode ls.length hpos le_rfl
    rw [List.take_length, hlen, List.take_length] at hall
    exact isComplete_alike hall rfl rfl

end

end Excerpt
