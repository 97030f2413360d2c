import Excerpt.Proofs.Paths
import Excerpt.Text.LowerCase
import Mathlib.Data.List.DropRight

/-! The suffix of a file, said without the functions that cut paths: a path is written as components
with slashes between them, empty components and single dots do not count, and the suffix is that of
the last one that counts. A change in the case of ASCII letters goes through to the suffix and is gone
once that is in lower case. -/
namespace Excerpt

/-! ### The last component -/

theorem splitSlash_ne_nil (t : Text) : splitSlash t ≠ [] := by
  fun_cases splitSlash t <;> simp

theorem splitSlash_slash (u v : Text) :
    splitSlash (u ++ '/' :: v) = splitSlash u ++ splitSlash v := by
  induction u with
  | nil => rfl
  | cons c u ih =>
    by_cases hc : c = '/'
    · subst hc
      simp [splitSlash, ih]
    · obtain ⟨w, ws, hws⟩ := List.exists_cons_of_ne_nil (splitSlash_ne_nil u)
      rw [splitSlash_cons hc hws]
      rw [hws, List.cons_append] at ih
      exact splitSlash_cons hc ih

theorem pathComponents_slash (a b : String) :
    pathComponents (a ++ "/" ++ b) = pathComponents a ++ pathComponents b := by
  simp [pathComponents, splitSlash_slash]

theorem pathComponents_join (ws : List String) :
    pathComponents ("/".intercalate ws) = ws.flatMap pathComponents := by
  induction ws with
  | nil => rfl
  | cons w ws ih =>
    cases ws with
    | nil => simp
    | cons v ws => rw [String.intercalate_cons_cons, pathComponents_slash, ih, ← List.flatMap_cons]

theorem intercalate_splitSlash (s : String) :
    "/".intercalate ((splitSlash s.toList).map String.ofList) = s := by
  rw [← String.toList_inj, String.toList_intercalate, List.map_map]
  have hid : String.toList ∘ String.ofList = id := funext fun t => String.toList_ofList
  rw [hid, List.map_id]
  generalize s.toList = t
  induction t with
  | nil => rfl
  | cons c t ih =>
    obtain ⟨w, ws, hws⟩ := List.exists_cons_of_ne_nil (splitSlash_ne_nil t)
    by_cases hc : c = '/'
    · subst hc
      conv_rhs => rw [← ih]
      simp [splitSlash, hws, List.intercalate]
    · rw [splitSlash_cons hc hws, ← ih, hws]
      cases ws <;> simp [List.intercalate]

/-- The last component of a path that counts, when there is one. -/
inductive LastName : String → Option String → Prop
  | named (before : List String) {name : String} {after : List String} (hname : IsName name)
      (idle : ∀ w ∈ after, w = "" ∨ w = ".") :
      LastName ("/".intercalate (before ++ name :: after)) (some name)
  | nameless {ws : List String} (idle : ∀ w ∈ ws, w = "" ∨ w = ".") :
      LastName ("/".intercalate ws) none

theorem pathComponents_idle {ws : List String} (idle : ∀ w ∈ ws, w = "" ∨ w = ".") :
    ws.flatMap pathComponents = [] := by
  rw [List.flatMap_eq_nil_iff]
  intro w hw
  rcases idle w hw with rfl | rfl <;> decide

/-- Every path has a last component that counts or none. -/
theorem exists_lastName (file : String) : ∃ name, LastName file name := by
  have hslash : ∀ w ∈ (splitSlash file.toList).map String.ofList, '/' ∉ w.toList := by
    simp only [List.forall_mem_map, String.toList_ofList]
    exact slash_notMem_splitSlash file.toList
  rw [← intercalate_splitSlash file]
  generalize (splitSlash file.toList).map String.ofList = ws at hslash
  -- The components behind the last one that counts.
  let idle : String → Bool := fun w => w == "" || w == "."
  have hsplit : ws.rdropWhile idle ++ ws.rtakeWhile idle = ws := List.rdropWhile_append_rtakeWhile ..
  have hidle : ∀ w ∈ ws.rtakeWhile idle, w = "" ∨ w = "." := by
    intro w hw
    simpa [idle] using List.mem_rtakeWhile_imp hw
  by_cases hne : ws.rdropWhile idle = []
  · rw [hne, List.nil_append] at hsplit
    exact ⟨none, .nameless (hsplit ▸ hidle)⟩
  · have hlast := List.rdropWhile_last_not idle ws hne
    have hmem : (ws.rdropWhile idle).getLast hne ∈ ws :=
      (List.rdropWhile_prefix idle ws).subset (List.getLast_mem hne)
    rw [← List.dropLast_append_getLast hne] at hsplit
    generalize (ws.rdropWhile idle).getLast hne = name at hlast hmem hsplit
    have hname : IsName name := by
      simp only [idle, Bool.or_eq_true, beq_iff_eq, not_or] at hlast
      refine ⟨hslash name hmem, ?_, ?_⟩
      · simpa using hlast.1
      · intro h
        exact hlast.2 (String.toList_inj.mp h)
    refine ⟨some name, ?_⟩
    rw [List.append_assoc, List.singleton_append] at hsplit
    rw [← hsplit]
    exact .named _ hname hidle

/-- It is the one that comes last once the path is cut. -/
theorem lastName_iff {file : String} {name : Option String} :
    LastName file name ↔ (pathComponents file).getLast? = name := by
  have hlast {name : Option String} (h : LastName file name) :
      (pathComponents file).getLast? = name := by
    cases h with
    | named before hname idle =>
      rw [pathComponents_join, List.flatMap_append, List.flatMap_cons, pathComponents_name hname,
        pathComponents_idle idle]
      simp
    | nameless idle =>
      rw [pathComponents_join, pathComponents_idle idle]
      rfl
  constructor
  · exact hlast
  · intro h
    obtain ⟨name', hname⟩ := exists_lastName file
    rwa [← h, hlast hname]

/-! ### The suffix of a name -/

/-- The suffix of a name: it starts at the last dot, and there is none when that is the first or the
last character, or when there is no dot. -/
inductive NameSuffix : Text → Text → Prop
  | dotted {stem rest : Text} (hstem : stem ≠ []) (hrest : rest ≠ []) (hdot : '.' ∉ rest) :
      NameSuffix (stem ++ '.' :: rest) ('.' :: rest)
  | hidden {rest : Text} (hdot : '.' ∉ rest) : NameSuffix ('.' :: rest) []
  | trailing (stem : Text) : NameSuffix (stem ++ ['.']) []
  | plain {name : Text} (hdot : '.' ∉ name) : NameSuffix name []

/-- The suffix of a file is that of the last component that counts. -/
inductive FileSuffix (file : String) : Text → Prop
  | named {name : String} {s : Text} (hname : LastName file (some name))
      (hsuffix : NameSuffix name.toList s) : FileSuffix file s
  | nameless (hname : LastName file none) : FileSuffix file []

/-- The suffix of a name as it is computed. -/
def nameSuffix (name : Text) : Text :=
  let tail := name.reverse.takeWhile (· != '.')
  if tail.isEmpty || tail.length + 1 ≥ name.length then [] else '.' :: tail.reverse

theorem suffixOf_toList (file : String) :
    (suffixOf file).toList =
      ((pathComponents file).getLast?.map fun name => nameSuffix name.toList).getD [] := by
  rw [suffixOf]
  cases (pathComponents file).getLast? with
  | none => rfl
  | some name =>
    simp only [nameSuffix, Option.map_some, Option.getD_some, String.length_toList]
    split_ifs <;> simp

theorem reverse_dotless {t : Text} (hdot : '.' ∉ t) : ∀ c ∈ t.reverse, (c != '.') = true := by
  intro c hc
  rw [bne_iff_ne]
  intro heq
  subst heq
  exact hdot (List.mem_reverse.mp hc)

theorem takeWhile_dot {stem rest : Text} (hdot : '.' ∉ rest) :
    (stem ++ '.' :: rest).reverse.takeWhile (· != '.') = rest.reverse := by
  rw [List.reverse_append, List.reverse_cons, List.append_assoc,
    List.takeWhile_append_of_pos (reverse_dotless hdot)]
  simp

theorem nameSuffix_of {name s : Text} (h : NameSuffix name s) : nameSuffix name = s := by
  cases h with
  | dotted hstem hrest hdot =>
    have hlen := List.length_pos_iff.mpr hstem
    rw [nameSuffix, takeWhile_dot hdot]
    simp only [List.isEmpty_reverse, List.length_reverse, List.length_append, List.length_cons,
      List.reverse_reverse]
    rw [if_neg]
    simp [hrest]
    omega
  | @hidden rest hdot =>
    have htail := @takeWhile_dot [] rest hdot
    rw [List.nil_append] at htail
    rw [nameSuffix, htail]
    simp
  | trailing stem =>
    rw [nameSuffix, takeWhile_dot (by simp)]
    simp
  | plain hdot =>
    have htail : name.reverse.takeWhile (· != '.') = name.reverse :=
      List.takeWhile_eq_self_iff.mpr (reverse_dotless hdot)
    rw [nameSuffix, htail]
    simp

theorem exists_nameSuffix (name : Text) : ∃ s, NameSuffix name s := by
  by_cases hdot : '.' ∈ name
  · -- The last dot is the first one from behind.
    obtain ⟨rest, stem, hname, hrest⟩ := List.eq_append_cons_of_mem (List.mem_reverse.mpr hdot)
    rw [List.reverse_eq_iff, List.reverse_append, List.reverse_cons, List.append_assoc,
      List.singleton_append] at hname
    subst hname
    rw [← List.mem_reverse] at hrest
    generalize stem.reverse = stem, rest.reverse = rest at hrest
    by_cases hs : stem = []
    · subst hs
      exact ⟨[], .hidden hrest⟩
    by_cases hr : rest = []
    · subst hr
      exact ⟨[], .trailing stem⟩
    · exact ⟨'.' :: rest, .dotted hs hr hrest⟩
  · exact ⟨_, .plain hdot⟩

theorem fileSuffix_iff {file : String} {s : Text} : FileSuffix file s ↔ (suffixOf file).toList = s := by
  have hof {s : Text} (h : FileSuffix file s) : (suffixOf file).toList = s := by
    rw [suffixOf_toList]
    cases h with
    | named hname hsuffix =>
      rw [lastName_iff.mp hname]
      exact nameSuffix_of hsuffix
    | nameless hname =>
      rw [lastName_iff.mp hname]
      rfl
  constructor
  · exact hof
  · -- There is some suffix by the rules, and so it is the computed one.
    intro h
    obtain ⟨name, hname⟩ := exists_lastName file
    obtain ⟨s', hs⟩ : ∃ s, FileSuffix file s := by
      cases name with
      | none => exact ⟨[], .nameless hname⟩
      | some name =>
        obtain ⟨s, hs⟩ := exists_nameSuffix name.toList
        exact ⟨s, .named hname hs⟩
    rwa [← h, hof hs]

/-! ### Case -/

/-- Text with its ASCII letters in lower case. -/
def foldCase (t : Text) : Text := t.map Char.toLower

/-- Equal but for the case of ASCII letters. -/
def CaseAlike (a b : String) : Prop := foldCase a.toList = foldCase b.toList

instance (a b : String) : Decidable (CaseAlike a b) :=
  inferInstanceAs (Decidable (foldCase a.toList = foldCase b.toList))

/-- A letter is changed only if it is one of the 26 capitals. -/
theorem toLower_cases (c : Char) : c.toLower = c ∨ ∃ n < 26, c = Char.ofNat (65 + n) := by
  by_cases hc : c.val ≥ 'A'.val ∧ c.val ≤ 'Z'.val
  · right
    have hlow : 65 ≤ c.toNat := UInt32.le_iff_toNat_le.mp hc.1
    have hhigh : c.toNat ≤ 90 := UInt32.le_iff_toNat_le.mp hc.2
    refine ⟨c.toNat - 65, by omega, ?_⟩
    rw [Nat.add_sub_cancel' hlow, Char.ofNat_toNat]
  · left
    exact dif_neg hc

/-- What does not tell the capitals from the small letters tells no two cases apart. -/
theorem toLower_blind {α : Type} {f : Char → α}
    (h : ∀ n < 26, f (Char.ofNat (65 + n)).toLower = f (Char.ofNat (65 + n))) (c : Char) :
    f c.toLower = f c := by
  rcases toLower_cases c with hc | ⟨n, hn, rfl⟩
  · rw [hc]
  · exact h n hn

theorem isCased_toLower (c : Char) : isCased c.toLower = isCased c :=
  toLower_blind (by decide) c

theorem isCaseIgnorable_toLower (c : Char) : isCaseIgnorable c.toLower = isCaseIgnorable c :=
  toLower_blind (by decide) c

theorem lowerChar_toLower (c : Char) : lowerChar c.toLower = lowerChar c :=
  toLower_blind (by decide) c

theorem meetsCased_foldCase (t : Text) : meetsCased (foldCase t) = meetsCased t := by
  have hskip : isCaseIgnorable ∘ Char.toLower = isCaseIgnorable := funext isCaseIgnorable_toLower
  rw [meetsCased, meetsCased, foldCase, List.dropWhile_map, hskip]
  cases t.dropWhile isCaseIgnorable with
  | nil => rfl
  | cons c r => exact isCased_toLower c

theorem lowerAfter_foldCase (before t : Text) :
    lowerAfter (foldCase before) (foldCase t) = lowerAfter before t := by
  induction t generalizing before with
  | nil => rfl
  | cons c t ih =>
    have hsigma : (c.toLower.toNat == 0x3A3) = (c.toNat == 0x3A3) :=
      toLower_blind (f := fun c => c.toNat == 0x3A3) (by decide) c
    have hdotted : (c.toLower.toNat == 0x130) = (c.toNat == 0x130) :=
      toLower_blind (f := fun c => c.toNat == 0x130) (by decide) c
    have hfold : foldCase (c :: t) = c.toLower :: foldCase t := rfl
    have hrest : lowerAfter (c.toLower :: foldCase before) (foldCase t) = lowerAfter (c :: before) t :=
      ih (c :: before)
    rw [hfold, lowerAfter, lowerAfter, hrest, hsigma, hdotted, lowerChar_toLower,
      meetsCased_foldCase, meetsCased_foldCase]

/-- Lower case forgets the case of ASCII letters, also beside a sigma. -/
theorem lower_caseAlike {a b : String} (h : CaseAlike a b) : lower a = lower b := by
  rw [lower, lower, lowerText, lowerText, ← lowerAfter_foldCase [] a.toList,
    ← lowerAfter_foldCase [] b.toList, show foldCase a.toList = foldCase b.toList from h]

theorem slash_toLower (c : Char) : c.toLower = '/' ↔ c = '/' := by
  simpa using toLower_blind (f := fun c => c == '/') (by decide) c

theorem dot_toLower (c : Char) : c.toLower = '.' ↔ c = '.' := by
  simpa using toLower_blind (f := fun c => c == '.') (by decide) c

theorem splitSlash_foldCase (t : Text) : splitSlash (foldCase t) = (splitSlash t).map foldCase := by
  induction t with
  | nil => rfl
  | cons c t ih =>
    by_cases hc : c = '/'
    · subst hc
      exact congrArg (List.cons []) ih
    · obtain ⟨w, ws, hws⟩ := List.exists_cons_of_ne_nil (splitSlash_ne_nil t)
      rw [hws, List.map_cons] at ih
      rw [splitSlash_cons hc hws]
      exact splitSlash_cons (mt (slash_toLower c).mp hc) ih

theorem foldCase_eq_dot {w : Text} : foldCase w = ['.'] ↔ w = ['.'] := by
  rcases w with _ | ⟨c, _ | ⟨d, w⟩⟩ <;> simp [foldCase, dot_toLower]

theorem pathComponents_foldCase (file : String) :
    (pathComponents file).map (fun name => foldCase name.toList) =
      (splitSlash (foldCase file.toList)).filter fun w => !w.isEmpty && w != ['.'] := by
  have hkept : (fun w : Text => !w.isEmpty && w != ['.']) ∘ foldCase =
      fun w => !w.isEmpty && w != ['.'] := by
    funext w
    have hdot : (foldCase w != ['.']) = (w != ['.']) := by
      rw [Bool.eq_iff_iff, bne_iff_ne, bne_iff_ne, ne_eq, foldCase_eq_dot]
    rw [Function.comp_apply, hdot, foldCase, List.isEmpty_map]
  rw [splitSlash_foldCase, List.filter_map, hkept, pathComponents, List.map_map]
  simp

theorem nameSuffix_foldCase (name : Text) : nameSuffix (foldCase name) = foldCase (nameSuffix name) := by
  have hdot : (fun c : Char => c != '.') ∘ Char.toLower = fun c => c != '.' := by
    funext c
    rw [Bool.eq_iff_iff, Function.comp_apply, bne_iff_ne, bne_iff_ne, ne_eq, dot_toLower]
  have htail : (foldCase name).reverse.takeWhile (· != '.') =
      foldCase (name.reverse.takeWhile (· != '.')) := by
    rw [foldCase, ← List.map_reverse, List.takeWhile_map, hdot, foldCase]
  rw [nameSuffix, nameSuffix, htail]
  simp only [foldCase, List.isEmpty_map, List.length_map]
  split_ifs <;> simp

/-- The suffix has the case that the path has there. -/
theorem suffixOf_caseAlike {a b : String} (h : CaseAlike a b) : CaseAlike (suffixOf a) (suffixOf b) := by
  have hfold (file : String) : foldCase (suffixOf file).toList =
      (((pathComponents file).map fun name => foldCase name.toList).getLast?.map nameSuffix).getD [] := by
    rw [suffixOf_toList, List.getLast?_map]
    cases (pathComponents file).getLast? with
    | none => rfl
    | some name => exact (nameSuffix_foldCase name.toList).symm
  rw [CaseAlike, hfold, hfold, pathComponents_foldCase, pathComponents_foldCase,
    show foldCase a.toList = foldCase b.toList from h]

end Excerpt
