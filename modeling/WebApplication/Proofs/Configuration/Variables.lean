import WebApplication.Configuration.Block
import WebApplication.Proofs.Application.Port

/-!
# Keys that variables set

A variable of the environment sets the key of its words, with dots between them. So no variable
sets a key with `_` in it, or with `-`, which counts as `_`. Any other key that can be bound is set
by the variable of its segments in upper case with `_` between them, whatever the environment lies
over.
-/

set_option autoImplicit false

namespace WebApplication.Configuration

open Application (exportsOf ofEnvironment_eq)
open Property (Source latest)

variable {root rest name key value : String} {environment : List (String × String)}
  {lower : Source}

/-! ## Keys that can be bound -/

/-- Segments that are not empty, of lower case letters, digits, `-` and `_`, with dots between
them. -/
def Segmented (key : String) : Prop :=
  ∀ segment ∈ Text.split '.' key, segment ≠ "" ∧ ∀ c ∈ segment.toList, isPrefixChar c = true

theorem flawOfSegments_eq_none_iff {segments : List String} :
    flawOfSegments segments = none ↔
      ∀ segment ∈ segments, segment ≠ "" ∧ ∀ c ∈ segment.toList, isPrefixChar c = true := by
  induction segments with
  | nil => simp [flawOfSegments]
  | cons segment segments ih =>
    rw [flawOfSegments, List.forall_mem_cons, ← ih]
    by_cases hempty : segment = ""
    · simp [hempty]
    · rw [if_neg hempty, ← List.all_eq_true]
      by_cases hall : segment.toList.all isPrefixChar = true
      · simp [hempty, hall]
      · simp [hall]

theorem flawOfPrefix_eq_none_iff : flawOfPrefix root = none ↔ Segmented root := by
  rw [flawOfPrefix, Segmented, ← flawOfSegments_eq_none_iff]
  by_cases hempty : root = ""
  · subst hempty
    decide
  · rw [if_neg hempty]

theorem Segmented.below (hroot : Segmented root) (hrest : Segmented rest) :
    Segmented (root++"."++rest) := by
  have hsplit : Text.split '.' (root++"."++rest) = Text.split '.' root++Text.split '.' rest :=
    Text.split_append root rest
  rw [Segmented, hsplit]
  exact fun segment hs => (List.mem_append.mp hs).elim (hroot segment) (hrest segment)

theorem Segmented.mem (h : Segmented key) {c : Char} (hc : c ∈ key.toList) :
    isPrefixChar c = true ∨ c = '.' := by
  rw [← Text.join_split '.' key] at hc
  obtain rfl | ⟨segment, hs, hc⟩ := Text.mem_join hc
  · exact .inr rfl
  · exact .inl ((h segment hs).2 c hc)

def Unjoined (key : String) : Prop := '_' ∉ key.toList ∧ '-' ∉ key.toList

/-! ## Keys in their normal form -/

theorem range_of_alphanum {c : Char} (h : c.isAlphanum = true) :
    48 ≤ c.toNat ∧ c.toNat ≤ 122 := by
  have hcases : ((c.isUpper = true ∨ c.isLower = true) ∨ c.isDigit = true) := by
    have hor : (c.isUpper || c.isLower || c.isDigit) = true := h
    rwa [Bool.or_eq_true, Bool.or_eq_true] at hor
  rcases hcases with (h | h) | h
  · have hrange : 65 ≤ c.toNat ∧ c.toNat ≤ 90 := of_decide_eq_true h
    omega
  · obtain ⟨hlow, hhigh⟩ := Bool.and_eq_true_iff.mp h
    have hlow' : 97 ≤ c.toNat := of_decide_eq_true hlow
    have hhigh' : c.toNat ≤ 122 := of_decide_eq_true hhigh
    omega
  · have hrange : 48 ≤ c.toNat ∧ c.toNat ≤ 57 := Char.isDigit_iff_toNat.mp h
    omega

theorem not_isBlank_of_alphanum {c : Char} (h : c.isAlphanum = true) : Text.isBlank c = false := by
  have hrange := range_of_alphanum h
  exact Text.not_isBlank_of_printable (by omega)

theorem alphanum_of_prefixChar {c : Char} (h : isPrefixChar c = true) :
    c.isAlphanum = true ∨ c = '-' ∨ c = '_' := by
  simp only [isPrefixChar, Bool.or_eq_true, decide_eq_true_eq] at h
  rcases h with ((h | h) | h) | h
  · have halpha : c.isAlpha = true := Bool.or_eq_true_iff.mpr (.inr h)
    exact .inl (Bool.or_eq_true_iff.mpr (.inl halpha))
  · exact .inl (Bool.or_eq_true_iff.mpr (.inr h))
  · exact .inr (.inl h)
  · exact .inr (.inr h)

theorem Segmented.not_isBlank (h : Segmented key) : ∀ c ∈ key.toList, Text.isBlank c = false := by
  intro c hc
  rcases h.mem hc with hc | rfl
  · rcases alphanum_of_prefixChar hc with hc | rfl | rfl
    · exact not_isBlank_of_alphanum hc
    · decide
    · decide
  · decide

theorem joined_of_not_unjoined (hkey : Segmented key) (h : ¬Unjoined key) :
    '_' ∈ (Property.normalize key).toList := by
  rw [Property.toList_normalize hkey.not_isBlank, List.mem_map]
  by_cases hjoiner : '_' ∈ key.toList
  · exact ⟨'_', hjoiner, rfl⟩
  · have hdash : '-' ∈ key.toList := by
      by_contra hdash
      exact h ⟨hjoiner, hdash⟩
    exact ⟨'-', hdash, rfl⟩

/-! ## Keys of variables -/

def Sets (name key : String) : Prop :=
  ∃ found, Source.keyOfVariable name = some found ∧
    Property.normalize found = Property.normalize key

theorem isNameChar_iff {c : Char} :
    Source.isNameChar c = true ↔ c.isAlphanum = true ∨ c = '_' := by
  rw [Source.isNameChar, Bool.or_eq_true, decide_eq_true_iff]

theorem exists_words (h : Source.keyOfVariable name = some key) :
    ∃ words, key = Text.join '.' words ∧
      ∀ word ∈ words, ∀ c ∈ word.toList, c.isAlphanum = true := by
  rw [Source.keyOfVariable] at h
  split at h
  · rename_i hname
    split at h
    · cases h
    · cases h
      refine ⟨_, rfl, fun word hword c hc => ?_⟩
      have hsplit := (List.mem_filter.mp hword).1
      have hchar := List.all_eq_true.mp hname c (Text.mem_of_mem_split hsplit hc)
      refine (isNameChar_iff.mp hchar).resolve_right ?_
      rintro rfl
      exact Text.not_mem_of_mem_split hsplit hc
  · cases h

theorem mem_keyOfVariable (h : Source.keyOfVariable name = some key) {c : Char}
    (hc : c ∈ key.toList) : c.isAlphanum = true ∨ c = '.' := by
  obtain ⟨words, rfl, hwords⟩ := exists_words h
  obtain rfl | ⟨word, hword, hc⟩ := Text.mem_join hc
  · exact .inr rfl
  · exact .inl (hwords word hword c hc)

/-- No variable sets a key with `_` in it. -/
theorem Sets.unjoined (h : Sets name key) (hkey : Segmented key) : Unjoined key := by
  obtain ⟨found, hfound, hnormal⟩ := h
  by_contra hjoined
  have hjoiner := joined_of_not_unjoined hkey hjoined
  have hblank : ∀ c ∈ found.toList, Text.isBlank c = false := by
    intro c hc
    rcases mem_keyOfVariable hfound hc with hc | rfl
    · exact not_isBlank_of_alphanum hc
    · decide
  rw [← hnormal, Property.toList_normalize hblank] at hjoiner
  obtain ⟨c, hc, heq⟩ := List.mem_map.mp hjoiner
  rcases mem_keyOfVariable hfound hc with hc | rfl
  · have hdash : c ≠ '-' := by
      rintro rfl
      exact absurd hc (by decide)
    rw [if_neg hdash, Text.toLower_eq_iff (by decide)] at heq
    subst heq
    exact absurd hc (by decide)
  · exact absurd heq (by decide)

/-! ## The variable for a key -/

def upperCase (word : String) : String := String.ofList (word.toList.map Char.toUpper)

def variableFor (key : String) : String :=
  Text.join '_' ((Text.split '.' key).map upperCase)

/-- A variable made of words has the key made of them. -/
theorem keyOfVariable_join {words : List String} (hne : words ≠ [])
    (h : ∀ word ∈ words, word ≠ "" ∧ ∀ c ∈ word.toList, c.isAlphanum = true) :
    Source.keyOfVariable (Text.join '_' words) = some (Text.join '.' words) := by
  have hjoiner : ∀ word ∈ words, '_' ∉ word.toList := fun word hword hc =>
    absurd ((h word hword).2 '_' hc) (by decide)
  have hname : (Text.join '_' words).toList.all Source.isNameChar = true := by
    refine List.all_eq_true.mpr fun c hc => isNameChar_iff.mpr ?_
    obtain rfl | ⟨word, hword, hc⟩ := Text.mem_join hc
    · exact .inr rfl
    · exact .inl ((h word hword).2 c hc)
  have hwords : words.filter (· ≠ "") = words :=
    List.filter_eq_self.mpr fun word hword => decide_eq_true (h word hword).1
  rw [Source.keyOfVariable, if_pos hname, Text.split_join hne hjoiner, hwords]
  cases words with
  | nil => exact absurd rfl hne
  | cons word words => rfl

theorem toUpper_of_ascii : ∀ n < 128,
    (Char.ofNat n).toUpper.toLower = (Char.ofNat n).toLower ∧
      ((Char.ofNat n).isAlphanum = true → (Char.ofNat n).toUpper.isAlphanum = true) := by
  decide

theorem alphanum_toUpper {c : Char} (h : c.isAlphanum = true) : c.toUpper.isAlphanum = true := by
  have hascii := toUpper_of_ascii c.toNat (by have := range_of_alphanum h; omega)
  rw [Char.ofNat_toNat] at hascii
  exact hascii.2 h

theorem toLower_toUpper {c : Char} (h : c.isAlphanum = true) : c.toUpper.toLower = c.toLower := by
  have hascii := toUpper_of_ascii c.toNat (by have := range_of_alphanum h; omega)
  rw [Char.ofNat_toNat] at hascii
  exact hascii.1

theorem Segmented.alphanum (hkey : Segmented key) (h : Unjoined key) {c : Char}
    (hc : c ∈ key.toList) : c.isAlphanum = true ∨ c = '.' := by
  refine (hkey.mem hc).imp_left fun hchar => ?_
  rcases alphanum_of_prefixChar hchar with hchar | rfl | rfl
  · exact hchar
  · exact absurd hc h.2
  · exact absurd hc h.1

theorem join_upperCase (key : String) :
    (Text.join '.' ((Text.split '.' key).map upperCase)).toList = key.toList.map Char.toUpper := by
  have hparts : ((Text.split '.' key).map upperCase).map String.toList =
      (Text.splitChars '.' key.toList).map (List.map Char.toUpper) := by
    simp [Text.split, upperCase, Function.comp_def]
  rw [Text.join, String.toList_ofList, hparts, Text.joinChars_map rfl, Text.joinChars_splitChars]

theorem upperCase_ne_empty {word : String} (h : word ≠ "") : upperCase word ≠ "" := by
  intro hempty
  have hnil := congrArg String.toList hempty
  rw [upperCase, String.toList_ofList, String.toList_empty, List.map_eq_nil_iff] at hnil
  exact h (String.toList_eq_nil_iff.mp hnil)

theorem sets_variableFor (hkey : Segmented key) (h : Unjoined key) :
    Sets (variableFor key) key := by
  have hwords : ∀ word ∈ (Text.split '.' key).map upperCase,
      word ≠ "" ∧ ∀ c ∈ word.toList, c.isAlphanum = true := by
    intro word hword
    obtain ⟨segment, hs, rfl⟩ := List.mem_map.mp hword
    refine ⟨upperCase_ne_empty (hkey segment hs).1, fun c hc => ?_⟩
    rw [upperCase, String.toList_ofList] at hc
    obtain ⟨d, hd, rfl⟩ := List.mem_map.mp hc
    have hdot : d ≠ '.' := by
      rintro rfl
      exact Text.not_mem_of_mem_split hs hd
    exact alphanum_toUpper
      ((hkey.alphanum h (Text.mem_of_mem_split hs hd)).resolve_right hdot)
  refine ⟨_, keyOfVariable_join (by simp [Text.split_ne_nil]) hwords, ?_⟩
  have hupper : ∀ c ∈ key.toList, c.toUpper.isAlphanum = true ∨ c = '.' := fun c hc =>
    (hkey.alphanum h hc).imp_left alphanum_toUpper
  rw [← String.toList_inj, Property.toList_normalize hkey.not_isBlank, Property.toList_normalize,
    join_upperCase, List.map_map]
  · refine List.map_congr_left fun c hc => ?_
    have hdash : c.toUpper ≠ '-' := by
      intro hdash
      rcases hupper c hc with hc | rfl
      · exact absurd (hdash ▸ hc) (by decide)
      · exact absurd hdash (by decide)
    have hplain : c ≠ '-' := by
      rintro rfl
      exact h.2 hc
    have hcase : c.toUpper.toLower = c.toLower := by
      rcases hkey.alphanum h hc with hc | rfl
      · exact toLower_toUpper hc
      · rfl
    rw [Function.comp_apply, if_neg hdash, if_neg hplain, hcase]
  · intro d hd
    rw [join_upperCase] at hd
    obtain ⟨c, hc, rfl⟩ := List.mem_map.mp hd
    rcases hupper c hc with hc | rfl
    · exact not_isBlank_of_alphanum hc
    · decide

/-! ## Layers -/

theorem get?_layered (hlower : lower.Ordered) :
    (lower.extend (.ofEnvironment environment)).get? key =
      (latest (exportsOf environment) (Property.normalize key)).or (lower.get? key) := by
  rw [Source.get?, Source.lookup_extend hlower (Source.ordered_ofEnvironment environment),
    ofEnvironment_eq, (Property.made_ofList _).lookup, Source.get?]

theorem latest_exports_none (h : ∀ other ∈ environment, ¬Sets other.1 key) :
    latest (exportsOf environment) (Property.normalize key) = none := by
  have hnone : (exportsOf environment).filter
      (fun pair => Property.normalize pair.1 = Property.normalize key) = [] := by
    refine List.filter_eq_nil_iff.mpr fun pair hpair => ?_
    obtain ⟨⟨name, value⟩, hin, hfound⟩ := List.mem_filterMap.mp hpair
    obtain ⟨found, hname, rfl⟩ := Option.map_eq_some_iff.mp hfound
    simpa using fun hk => h _ hin ⟨found, hname, hk⟩
  rw [latest, hnone]
  rfl

theorem latest_exports (h : Sets name key) {before after : List (String × String)}
    (hafter : ∀ other ∈ after, ¬Sets other.1 key) :
    latest (exportsOf (before++(name, value)::after)) (Property.normalize key) = some value := by
  obtain ⟨found, hname, hkey⟩ := h
  have hsplit : exportsOf (before++(name, value)::after) =
      exportsOf before++[(found, value)]++exportsOf after := by
    simp [exportsOf, hname]
  rw [hsplit, Property.latest_append, Property.latest_append, Property.latest_single,
    latest_exports_none hafter, if_pos hkey.symm]
  rfl

/-- Whatever the environment lies over, and whatever other variables come before it, the value of a
variable is the value of a key, unless a later one sets the key again. -/
def Overrides (name key : String) : Prop :=
  ∀ (lower : Source) (before after : List (String × String)) (value : String), lower.Ordered →
    (∀ other ∈ after, ¬Sets other.1 key) →
      (lower.extend (.ofEnvironment (before++(name, value)::after))).get? key = some value

theorem overrides_iff : Overrides name key ↔ Sets name key := by
  constructor
  · intro h
    by_contra hsets
    have hvalue := h .empty [] [] "" Source.ordered_empty (by simp)
    rw [get?_layered Source.ordered_empty, latest_exports_none (by simpa using hsets)] at hvalue
    cases hvalue
  · intro h lower before after value hlower hafter
    rw [get?_layered hlower, latest_exports h hafter, Option.some_or]

theorem get?_joined (hkey : Segmented key) (h : ¬Unjoined key) (hlower : lower.Ordered)
    (environment : List (String × String)) :
    (lower.extend (.ofEnvironment environment)).get? key = lower.get? key := by
  have hnone : ∀ other ∈ environment, ¬Sets other.1 key := fun _ _ hsets => h (hsets.unjoined hkey)
  rw [get?_layered hlower, latest_exports_none hnone, Option.none_or]

/-- A key that can be bound is overridden from the environment exactly if it has neither `_` nor
`-` in it, and then by the variable of its segments. To any other key no environment makes a
difference. -/
theorem overridden_iff_unjoined (hroot : flawOfPrefix root = none) (hrest : Segmented rest) :
    let key := root++"."++rest
    ((∃ name, Overrides name key) ↔ '_' ∉ key.toList ∧ '-' ∉ key.toList) ∧
    ('_' ∉ key.toList → '-' ∉ key.toList → Overrides (variableFor key) key) ∧
    ('_' ∈ key.toList ∨ '-' ∈ key.toList → ∀ (lower : Source) environment, lower.Ordered →
      (lower.extend (.ofEnvironment environment)).get? key = lower.get? key) := by
  intro key
  have hkey : Segmented key := (flawOfPrefix_eq_none_iff.mp hroot).below hrest
  have hvariable : Unjoined key → Overrides (variableFor key) key := fun h =>
    overrides_iff.mpr (sets_variableFor hkey h)
  refine ⟨⟨?_, fun h => ⟨_, hvariable h⟩⟩, fun hjoiner hdash => hvariable ⟨hjoiner, hdash⟩, ?_⟩
  · rintro ⟨name, hname⟩
    exact (overrides_iff.mp hname).unjoined hkey
  · intro h lower environment hlower
    exact get?_joined hkey (fun hu => h.elim hu.1 hu.2) hlower environment

theorem pool_overridden_without_joiners :
    flawOfPrefix "web.pool2" = none ∧ Segmented "max.size" ∧ Segmented "max-size" ∧
    variableFor "web.pool2.max.size" = "WEB_POOL2_MAX_SIZE" ∧
    Overrides "WEB_POOL2_MAX_SIZE" "web.pool2.max.size" ∧
    ∀ environment, ((Source.ofList [("web.pool2.max_size", "5")]).extend
      (.ofEnvironment environment)).get? "web.pool2.max-size" = some "5" := by
  have hroot : flawOfPrefix "web.pool2" = none := by decide
  have hapart : Segmented "max.size" := flawOfPrefix_eq_none_iff.mp (by decide)
  have hjoined : Segmented "max-size" := flawOfPrefix_eq_none_iff.mp (by decide)
  have hname : variableFor "web.pool2.max.size" = "WEB_POOL2_MAX_SIZE" := by decide
  refine ⟨hroot, hapart, hjoined, hname, ?_, fun environment => ?_⟩
  · rw [← hname]
    exact (overridden_iff_unjoined hroot hapart).2.1 (by decide) (by decide)
  · exact ((overridden_iff_unjoined hroot hjoined).2.2 (.inr (by decide)) _ environment
      (Source.ordered_ofList _)).trans rfl

/-- There is a key for which no variable will do, also if it is the only one. -/
theorem not_every_key_overridden :
    ¬∀ root rest, flawOfPrefix root = none → Segmented rest →
      ∃ name, ∀ (lower : Source) value, lower.Ordered →
        (lower.extend (.ofEnvironment [(name, value)])).get? (root++"."++rest) = some value := by
  intro hevery
  have hroot : flawOfPrefix "web" = none := by decide
  have hrest : Segmented "max_size" := flawOfPrefix_eq_none_iff.mp (by decide)
  obtain ⟨name, hname⟩ := hevery "web" "max_size" hroot hrest
  have hvalue := hname .empty "2" Source.ordered_empty
  rw [get?_joined ((flawOfPrefix_eq_none_iff.mp hroot).below hrest) (fun hu => hu.1 (by decide))
    Source.ordered_empty] at hvalue
  cases hvalue

end WebApplication.Configuration
