import WebApplication.Profile
import WebApplication.Proofs.Text.Split
import WebApplication.Proofs.Text.Trim

/-!
# Names that are read as profiles

A text of profiles is cut at every comma and at every blank, and the profiles are the words
between the cuts. A name without commas and blanks is one of them wherever a text lists it
between commas, whatever else the text lists.
-/

set_option autoImplicit false

namespace WebApplication.Profiles

theorem words_eq (cs : List Char) : words cs = cs.splitOnP isSeparator := by
  induction cs with
  | nil => rfl
  | cons c cs ih =>
    rw [words, List.splitOnP_cons_eq_if_modifyHead, ← ih]
    cases hw : words cs with
    | nil => exact absurd (ih.symm.trans hw) (List.splitOnP_ne_nil isSeparator cs)
    | cons word rest => rfl

theorem words_append {sep : Char} (h : isSeparator sep = true) (before after : List Char) :
    words (before++sep::after) = words before++words after := by
  rw [words_eq, words_eq, words_eq, List.splitOnP_append_cons before after h]

theorem words_joinChars {parts : List (List Char)} (h : parts ≠ []) :
    words (Text.joinChars ',' parts) = parts.flatMap words := by
  induction parts with
  | nil => exact absurd rfl h
  | cons part parts ih =>
    cases parts with
    | nil => simp [Text.joinChars]
    | cons next rest =>
      rw [Text.joinChars, words_append (by decide), ih (by simp)]
      · rfl
      · simp

theorem words_split (cs : List Char) : words cs = (Text.splitChars ',' cs).flatMap words := by
  rw [← words_joinChars (Text.splitChars_ne_nil ',' cs), Text.joinChars_splitChars]

theorem mem_words_between {before word after : List Char}
    (hb : ∀ c ∈ before, isSeparator c = true) (hw : ∀ c ∈ word, isSeparator c = false)
    (ha : ∀ c ∈ after, isSeparator c = true) : word ∈ words (before++word++after) := by
  have hback : word ∈ words (word++after) := by
    have hone : words word = [word] := by rw [words_eq, List.splitOnP_eq_singleton hw]
    cases after with
    | nil => simp [hone]
    | cons c after => simp [words_append (ha c List.mem_cons_self), hone]
  induction before with
  | nil => exact hback
  | cons c before ih =>
    have hc := words_append (hb c List.mem_cons_self) [] (before++word++after)
    rw [List.cons_append, List.cons_append, ← List.nil_append (c::_), hc]
    exact List.mem_append_right _ (ih fun d hd => hb d (List.mem_cons_of_mem c hd))

theorem mem_foldl_activate {name : String} {names active : List String} :
    name ∈ names.foldl activate active ↔ name ∈ active ∨ name ∈ names ∧ name ≠ "" := by
  induction names generalizing active with
  | nil => simp
  | cons first names ih =>
    have hfirst : name ∈ activate active first ↔ name ∈ active ∨ name = first ∧ name ≠ "" := by
      rw [activate]
      split <;> grind
    rw [List.foldl_cons, ih, hfirst, List.mem_cons]
    grind

theorem contains_parse_iff {spec name : String} :
    (parse spec).contains name = true ↔ name.toList ∈ words spec.toList ∧ name ≠ "" := by
  rw [parse, contains, List.contains_iff_mem, mem_foldl_activate]
  have hword : name ∈ (words spec.toList).map String.ofList ↔ name.toList ∈ words spec.toList := by
    rw [List.mem_map]
    constructor
    · rintro ⟨word, hw, rfl⟩
      simpa using hw
    · exact fun h => ⟨name.toList, h, String.ofList_toList⟩
  rw [hword]
  simp

/-- A text lists a name if there is the name, and at most blanks around it, between two of
its commas. -/
def Lists (spec name : String) : Prop := ∃ item ∈ Text.split ',' spec, Text.trim item = name

instance (spec name : String) : Decidable (Lists spec name) :=
  inferInstanceAs (Decidable (∃ item ∈ Text.split ',' spec, Text.trim item = name))

theorem contains_of_lists {spec name : String} (hl : Lists spec name) (hn : name ≠ "")
    (hs : ∀ c ∈ name.toList, isSeparator c = false) : (parse spec).contains name = true := by
  obtain ⟨item, hitem, rfl⟩ := hl
  obtain ⟨cs, hcs, rfl⟩ := List.mem_map.mp hitem
  have hname : (Text.trim (String.ofList cs)).toList = Text.trimChars cs := by
    rw [Text.trim, String.toList_ofList, String.toList_ofList]
  rw [hname] at hs
  have hblank : ∀ c, Text.isBlank c = true → isSeparator c = true := by
    intro c hc
    rw [isSeparator, hc, Bool.or_true]
  obtain ⟨before, after, hparts, hb, ha⟩ := Text.exists_trimChars cs
  have hword := mem_words_between (fun c hc => hblank c (hb c hc)) hs
    fun c hc => hblank c (ha c hc)
  rw [← hparts] at hword
  rw [contains_parse_iff, hname, words_split]
  exact ⟨List.mem_flatMap_of_mem hcs hword, hn⟩

end WebApplication.Profiles
