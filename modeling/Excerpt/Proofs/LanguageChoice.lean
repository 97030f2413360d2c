import Excerpt.Proofs.FileSuffix
import Excerpt.Registry
import Mathlib.Data.List.Forall2

/-! The language of a file. The settings are asked first, and there the last name that agrees with the
suffix decides; then the built-in suffixes. The directory of a file has no say in it, nor has the case
of ASCII letters. -/
namespace Excerpt.Language

/-! ### The suffixes of the settings -/

/-- The last of the configured suffixes that agrees with `s` has the value `v`. -/
def LastConfigured (suffixes : List (String × Json)) (s : String) (v : Json) : Prop :=
  ∃ before key after, suffixes = before ++ (key, v) :: after ∧ lower key = s ∧
    ∀ f ∈ after, lower f.1 ≠ s

section
variable {suffixes : List (String × Json)} {s : String} {v : Json}

theorem configured?_cons (s key : String) (v : Json) (rest : List (String × Json)) :
    configured? s ((key, v) :: rest) =
      match configured? s rest with
      | some w => some w
      | none => if lower key == s then some v else none := rfl

theorem configured?_eq_none_iff : configured? s suffixes = none ↔ ∀ f ∈ suffixes, lower f.1 ≠ s := by
  induction suffixes with
  | nil => simp [configured?, Json.field?]
  | cons f rest ih =>
    obtain ⟨key, v⟩ := f
    rw [configured?_cons, List.forall_mem_cons, ← ih]
    cases configured? s rest with
    | some w => simp
    | none => by_cases hkey : lower key = s <;> simp [hkey]

theorem lastConfigured_of_configured? (h : configured? s suffixes = some v) :
    LastConfigured suffixes s v := by
  induction suffixes with
  | nil => cases h
  | cons f rest ih =>
    obtain ⟨key, w⟩ := f
    rw [configured?_cons] at h
    cases hrest : configured? s rest with
    | some u =>
      rw [hrest] at h
      obtain ⟨before, k, after, rfl, hlast⟩ := ih (hrest.trans h)
      exact ⟨(key, w) :: before, k, after, rfl, hlast⟩
    | none =>
      -- No name behind the first one agrees, so it is the last that does.
      simp only [hrest, beq_iff_eq] at h
      obtain ⟨hkey, hvalue⟩ := Option.ite_none_right_eq_some.mp h
      obtain rfl : w = v := Option.some.inj hvalue
      exact ⟨[], key, rest, rfl, hkey, configured?_eq_none_iff.mp hrest⟩

theorem configured?_of_lastConfigured (h : LastConfigured suffixes s v) :
    configured? s suffixes = some v := by
  obtain ⟨before, key, after, rfl, hkey, hafter⟩ := h
  induction before with
  | nil =>
    rw [List.nil_append, configured?_cons, configured?_eq_none_iff.mpr hafter]
    simp [hkey]
  | cons f before ih => rw [List.cons_append, configured?_cons, ih]

end

/-! ### The choice -/

/-- The outcome of the choice for a suffix in lower case: the language that the settings name, an
error when they name none of the three, and without a say of the settings the built-in language of the
suffix or Python. -/
inductive Chosen (suffixes : List (String × Json)) (s : String) : Except Fault Language → Prop
  | configured {v : Json} {lang : Language} (last : LastConfigured suffixes s v) (known : lang ∈ all)
      (name : lang.name = lower v.plain) : Chosen suffixes s (.ok lang)
  | unknown {v : Json} (last : LastConfigured suffixes s v)
      (foreign : lower v.plain ∉ ["python", "ruby", "javascript"]) :
      Chosen suffixes s (.error (.unknownLanguage v s))
  | builtIn {lang : Language} (silent : ∀ f ∈ suffixes, lower f.1 ≠ s) (known : lang ∈ all)
      (mem : s ∈ lang.suffixes) : Chosen suffixes s (.ok lang)
  | fallback (silent : ∀ f ∈ suffixes, lower f.1 ≠ s) (foreign : ∀ lang ∈ all, s ∉ lang.suffixes) :
      Chosen suffixes s (.ok python)

theorem named?_name {lang : Language} (h : lang ∈ all) : named? lang.name = some lang := by
  simp only [all, List.mem_cons, List.not_mem_nil, or_false] at h
  rcases h with rfl | rfl | rfl <;> rfl

theorem named?_eq_none {name : String} (h : name ∉ ["python", "ruby", "javascript"]) :
    named? name = none := by
  simp only [List.mem_cons, List.not_mem_nil, or_false, not_or] at h
  simp [named?, all, python, ruby, javaScript, Ne.symm h.1, Ne.symm h.2.1, Ne.symm h.2.2]

theorem bySuffix_suffixes {lang : Language} {s : String} (h : lang ∈ all) (hs : s ∈ lang.suffixes) :
    bySuffix s = lang := by
  simp only [all, List.mem_cons, List.not_mem_nil, or_false] at h
  rcases h with rfl | rfl | rfl
  · simp only [python, List.mem_cons, List.not_mem_nil, or_false] at hs
    rcases hs with rfl | rfl <;> rfl
  · simp only [ruby, List.mem_cons, List.not_mem_nil, or_false] at hs
    rcases hs with rfl | rfl | rfl | rfl <;> rfl
  · simp only [javaScript, List.mem_cons, List.not_mem_nil, or_false] at hs
    rcases hs with rfl | rfl | rfl | rfl <;> rfl

theorem bySuffix_foreign {s : String} (h : ∀ lang ∈ all, s ∉ lang.suffixes) : bySuffix s = python := by
  have hnone : (all.find? fun lang => lang.suffixes.contains s) = none := by
    rw [List.find?_eq_none]
    intro lang hlang hs
    exact h lang hlang (List.contains_iff_mem.mp hs)
  rw [bySuffix, hnone]
  rfl

theorem chosen_bySuffix {suffixes : List (String × Json)} {s : String}
    (silent : ∀ f ∈ suffixes, lower f.1 ≠ s) : Chosen suffixes s (.ok (bySuffix s)) := by
  by_cases hforeign : ∀ lang ∈ all, s ∉ lang.suffixes
  · rw [bySuffix_foreign hforeign]
    exact .fallback silent hforeign
  · push Not at hforeign
    obtain ⟨lang, hlang, hs⟩ := hforeign
    rw [bySuffix_suffixes hlang hs]
    exact .builtIn silent hlang hs

theorem chosen_named {suffixes : List (String × Json)} {s : String} {v : Json}
    (last : LastConfigured suffixes s v) :
    Chosen suffixes s (match named? (lower v.plain) with
      | some lang => .ok lang
      | none => .error (.unknownLanguage v s)) := by
  by_cases hforeign : lower v.plain ∉ ["python", "ruby", "javascript"]
  · rw [named?_eq_none hforeign]
    exact .unknown last hforeign
  · obtain ⟨lang, hlang, hname⟩ : ∃ lang ∈ all, lang.name = lower v.plain := by
      rw [not_not] at hforeign
      change lower v.plain ∈ all.map (·.name) at hforeign
      exact List.mem_map.mp hforeign
    rw [← hname, named?_name hlang]
    exact .configured last hlang hname

/-- The choice follows these rules, and they leave no other outcome. -/
theorem ofFile_eq_iff {suffixes : List (String × Json)} {file : String} {r : Except Fault Language} :
    ofFile suffixes file = r ↔ Chosen suffixes (lower (suffixOf file)) r := by
  constructor
  · intro hr
    rw [← hr, ofFile]
    cases h : configured? (lower (suffixOf file)) suffixes with
    | none => exact chosen_bySuffix (configured?_eq_none_iff.mp h)
    | some v => exact chosen_named (lastConfigured_of_configured? h)
  · intro h
    cases h with
    | configured last known name =>
      simp only [ofFile, configured?_of_lastConfigured last, ← name, named?_name known]
    | unknown last foreign =>
      simp only [ofFile, configured?_of_lastConfigured last, named?_eq_none foreign]
    | builtIn silent known mem =>
      simp only [ofFile, configured?_eq_none_iff.mpr silent, bySuffix_suffixes known mem]
    | fallback silent foreign =>
      simp only [ofFile, configured?_eq_none_iff.mpr silent, bySuffix_foreign foreign]

/-! ### What makes no difference -/

/-- A directory in front of a file's name is not looked at. -/
theorem suffixOf_directory (dir : String) {name : String} (hname : IsName name) :
    suffixOf (dir ++ "/" ++ name) = suffixOf name := by
  rw [suffixOf, suffixOf, pathComponents_slash, pathComponents_name hname,
    List.getLast?_append_cons]

/-- Names of languages that differ in the case of ASCII letters; any other value is the same. -/
inductive ValueAlike : Json → Json → Prop
  | same (v : Json) : ValueAlike v v
  | text {a b : String} (h : CaseAlike a b) : ValueAlike (.str a) (.str b)

/-- Configured suffixes in the same order that agree but for the case of ASCII letters, and whose
values are related by `R`. -/
def SuffixesAlike (R : Json → Json → Prop) : List (String × Json) → List (String × Json) → Prop :=
  List.Forall₂ fun f g => CaseAlike f.1 g.1 ∧ R f.2 g.2

theorem lower_plain {v w : Json} (h : ValueAlike v w) : lower v.plain = lower w.plain := by
  cases h with
  | same => rfl
  | text h => exact lower_caseAlike h

section
variable {suffixes suffixes' : List (String × Json)} {file file' : String}

theorem configured?_alike {R : Json → Json → Prop} (h : SuffixesAlike R suffixes suffixes')
    (s : String) : Option.Rel R (configured? s suffixes) (configured? s suffixes') := by
  induction h with
  | nil => exact .none
  | @cons f g rest rest' hhead _ ih =>
    -- The names further behind come first, and they decide alike.
    obtain ⟨k, v⟩ := f
    obtain ⟨k', v'⟩ := g
    rw [configured?_cons, configured?_cons, lower_caseAlike hhead.1]
    generalize configured? s rest = x, configured? s rest' = y at ih
    cases ih with
    | some hvalue => exact .some hvalue
    | none =>
      dsimp only
      split_ifs
      · exact .some hhead.2
      · exact .none

theorem ofFile_alike (hfile : CaseAlike file file') (h : SuffixesAlike ValueAlike suffixes suffixes') :
    (ofFile suffixes file).toOption = (ofFile suffixes' file').toOption := by
  rw [ofFile, ofFile, lower_caseAlike (suffixOf_caseAlike hfile)]
  have hvalue := configured?_alike h (lower (suffixOf file'))
  generalize configured? (lower (suffixOf file')) suffixes = x,
    configured? (lower (suffixOf file')) suffixes' = y at hvalue
  cases hvalue with
  | none => rfl
  | some hvalue =>
    dsimp only
    rw [lower_plain hvalue]
    cases named? _ <;> rfl

theorem ofFile_same (hfile : CaseAlike file file') (h : SuffixesAlike Eq suffixes suffixes') :
    ofFile suffixes file = ofFile suffixes' file' := by
  rw [ofFile, ofFile, lower_caseAlike (suffixOf_caseAlike hfile)]
  have hvalue := configured?_alike h (lower (suffixOf file'))
  generalize configured? (lower (suffixOf file')) suffixes = x,
    configured? (lower (suffixOf file')) suffixes' = y at hvalue
  cases hvalue with
  | none => rfl
  | some hvalue => rw [hvalue]

end

/-- Every file has one suffix, by which the language is chosen as the rules say. It is the same under
any directory, and whatever the case of the ASCII letters in the path, in the configured suffixes and
in the names of their languages; only where those names change, the error for an unknown one shows
it. -/
theorem language_chosen (suffixes : List (String × Json)) (file : String) :
    (∃ s, FileSuffix file s) ∧
    (∀ s r, FileSuffix file s →
      (ofFile suffixes file = r ↔ Chosen suffixes (lower (String.ofList s)) r)) ∧
    (IsName file → ∀ dir, ofFile suffixes (dir ++ "/" ++ file) = ofFile suffixes file) ∧
    ∀ suffixes' file', CaseAlike file file' →
      (SuffixesAlike ValueAlike suffixes suffixes' →
        (ofFile suffixes file).toOption = (ofFile suffixes' file').toOption) ∧
      (SuffixesAlike Eq suffixes suffixes' → ofFile suffixes file = ofFile suffixes' file') := by
  refine ⟨⟨_, fileSuffix_iff.mpr rfl⟩, ?_, ?_, ?_⟩
  · intro s r hs
    rw [← fileSuffix_iff.mp hs, String.ofList_toList]
    exact ofFile_eq_iff
  · intro hname dir
    rw [ofFile, ofFile, suffixOf_directory dir hname]
  · intro suffixes' file' hfile
    exact ⟨ofFile_alike hfile, ofFile_same hfile⟩

/-- Of two names for one suffix the second counts, the dot of a directory does not, and a language
that has no name is an error under any case of the suffix. -/
theorem rake_chosen :
    let suffixes : List (String × Json) :=
      [(".rAKE", .str "python"), (".RAKE", .str "JavaScript"), (".py", .null)]
    IsName "Build.Rake" ∧ FileSuffix "Build.Rake" ".Rake".toList ∧
      ofFile suffixes "lib.py/Build.Rake" = .ok javaScript ∧
      CaseAlike "a.py" "A.PY" ∧ ofFile suffixes "A.PY" = .error (.unknownLanguage .null ".py") := by
  intro suffixes
  have hname : IsName "Build.Rake" := ⟨by decide, by decide, by decide⟩
  have hsuffix : FileSuffix "Build.Rake" ".Rake".toList := fileSuffix_iff.mpr (by decide)
  have hrule : Chosen suffixes (lower (String.ofList ".Rake".toList)) (.ok javaScript) :=
    .configured ⟨[(".rAKE", .str "python")], ".RAKE", [(".py", .null)], rfl, by decide, by decide⟩
      (by simp [all]) (by decide)
  obtain ⟨-, hchosen, hdirectory, -⟩ := language_chosen suffixes "Build.Rake"
  have hpath : ofFile suffixes ("lib.py" ++ "/" ++ "Build.Rake") = .ok javaScript :=
    (hdirectory hname "lib.py").trans ((hchosen _ _ hsuffix).mpr hrule)
  have hpython : FileSuffix "a.py" ".py".toList := fileSuffix_iff.mpr (by decide)
  have herror : Chosen suffixes (lower (String.ofList ".py".toList))
      (.error (.unknownLanguage .null ".py")) :=
    .unknown ⟨[(".rAKE", .str "python"), (".RAKE", .str "JavaScript")], ".py", [], rfl, by decide,
      by simp⟩ (by decide)
  obtain ⟨-, hchosen, -, hcase⟩ := language_chosen suffixes "a.py"
  have hcapitals : CaseAlike "a.py" "A.PY" := by decide
  have hsame := (hcase suffixes "A.PY" hcapitals).2 (List.forall₂_same.mpr fun f _ => ⟨rfl, rfl⟩)
  exact ⟨hname, hsuffix, hpath, hcapitals, hsame ▸ (hchosen _ _ hpython).mpr herror⟩

end Excerpt.Language
