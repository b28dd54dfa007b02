import WebApplication.Text.Split

/-!
# Cutting and joining are inverse

Joining after cutting gives every text back. The other way round the parts come back
if there is at least one of them and none holds the separator. A text is cut in two at its
first separator, and holds the parts that it can be put together around.
-/

set_option autoImplicit false

namespace WebApplication.Text

theorem not_mem_of_mem_splitChars {sep : Char} {cs part : List Char}
    (h : part ∈ splitChars sep cs) : sep ∉ part := by
  induction cs generalizing part with
  | nil =>
    simp only [splitChars, List.mem_singleton] at h
    simp [h]
  | cons c cs ih =>
    rcases hs : splitChars sep cs with _ | ⟨first, rest⟩
    · exact absurd hs (splitChars_ne_nil sep cs)
    · by_cases hc : c = sep
      · simp only [splitChars, hc, if_true, List.mem_cons] at h
        rcases h with rfl | h
        · simp
        · exact ih h
      · simp only [splitChars, hc, if_false, hs, List.mem_cons] at h
        rcases h with rfl | h
        · have hf : sep ∉ first := ih (by simp [hs])
          simpa [hf] using fun he => hc he.symm
        · exact ih (by simp [hs, h])

theorem mem_of_mem_splitChars {sep c : Char} {cs part : List Char}
    (h : part ∈ splitChars sep cs) (hc : c ∈ part) : c ∈ cs := by
  induction cs generalizing part with
  | nil =>
    rw [splitChars, List.mem_singleton] at h
    exact h ▸ hc
  | cons d cs ih =>
    rcases hs : splitChars sep cs with _ | ⟨first, rest⟩
    · exact absurd hs (splitChars_ne_nil sep cs)
    · by_cases hd : d = sep
      · simp only [splitChars, hd, if_true, List.mem_cons] at h
        rcases h with rfl | h
        · cases hc
        · exact List.mem_cons_of_mem _ (ih h hc)
      · simp only [splitChars, hd, if_false, hs, List.mem_cons] at h
        rcases h with rfl | h
        · rcases List.mem_cons.mp hc with rfl | hc
          · exact List.mem_cons_self
          · exact List.mem_cons_of_mem _ (ih (by simp [hs]) hc)
        · exact List.mem_cons_of_mem _ (ih (by simp [hs, h]) hc)

theorem splitChars_of_not_mem {sep : Char} {part : List Char} (h : sep ∉ part) :
    splitChars sep part = [part] := by
  induction part with
  | nil => rfl
  | cons c cs ih =>
    simp only [List.mem_cons, not_or] at h
    have hc : c ≠ sep := fun he => h.1 he.symm
    simp [splitChars, hc, ih h.2]

theorem head?_splitChars (sep : Char) (cs : List Char) :
    (splitChars sep cs).head? = some (cs.takeWhile (· ≠ sep)) := by
  induction cs with
  | nil => rfl
  | cons c cs ih =>
    rcases hs : splitChars sep cs with _ | ⟨first, rest⟩
    · exact absurd hs (splitChars_ne_nil sep cs)
    · rw [hs, List.head?_cons, Option.some.injEq] at ih
      by_cases hc : c = sep
      · simp [splitChars, hc]
      · simp [splitChars, hc, hs, ih]

theorem splitChars_append {sep : Char} {part : List Char} (h : sep ∉ part) (cs : List Char) :
    splitChars sep (part++sep::cs) = part::splitChars sep cs := by
  induction part with
  | nil => simp [splitChars]
  | cons c part ih =>
    simp only [List.mem_cons, not_or] at h
    have hc : c ≠ sep := fun he => h.1 he.symm
    simp [splitChars, hc, ih h.2]

theorem splitChars_joinChars {sep : Char} {parts : List (List Char)} (hn : parts ≠ [])
    (h : ∀ part ∈ parts, sep ∉ part) : splitChars sep (joinChars sep parts) = parts := by
  induction parts with
  | nil => exact absurd rfl hn
  | cons part parts ih =>
    have hp : sep ∉ part := h part (by simp)
    cases parts with
    | nil => exact splitChars_of_not_mem hp
    | cons next rest =>
      rw [joinChars, splitChars_append hp, ih (by simp) fun q hq => h q (by simp [hq])]
      simp

theorem joinChars_append {sep : Char} {front back : List (List Char)} (hf : front ≠ [])
    (hb : back ≠ []) :
    joinChars sep (front++back) = joinChars sep front++sep::joinChars sep back := by
  induction front with
  | nil => exact absurd rfl hf
  | cons part front ih =>
    cases front with
    | nil =>
      cases back with
      | nil => exact absurd rfl hb
      | cons next rest => simp [joinChars]
    | cons next rest =>
      have hs := ih (by simp)
      simp only [List.cons_append, joinChars] at hs ⊢
      simp [hs]

theorem joinChars_map {sep : Char} {f : Char → Char} (h : f sep = sep) (parts : List (List Char)) :
    joinChars sep (parts.map (List.map f)) = (joinChars sep parts).map f := by
  induction parts with
  | nil => rfl
  | cons part parts ih =>
    cases parts with
    | nil => rfl
    | cons next rest =>
      simp only [List.map_cons, joinChars] at ih ⊢
      rw [ih, List.map_append, List.map_cons, h]

variable {sep : Char}

theorem split_ne_nil (text : String) : split sep text ≠ [] := by
  simp [split, splitChars_ne_nil]

theorem not_mem_of_mem_split {text part : String} (h : part ∈ split sep text) :
    sep ∉ part.toList := by
  obtain ⟨cs, hcs, rfl⟩ := List.mem_map.mp h
  simpa using not_mem_of_mem_splitChars hcs

theorem mem_of_mem_split {text part : String} {c : Char} (h : part ∈ split sep text)
    (hc : c ∈ part.toList) : c ∈ text.toList := by
  obtain ⟨cs, hcs, rfl⟩ := List.mem_map.mp h
  exact mem_of_mem_splitChars hcs (by simpa using hc)

theorem split_join {parts : List String} (hn : parts ≠ [])
    (h : ∀ part ∈ parts, sep ∉ part.toList) : split sep (join sep parts) = parts := by
  have hs : splitChars sep (joinChars sep (parts.map String.toList)) = parts.map String.toList := by
    apply splitChars_joinChars (by simpa using hn)
    intro cs hcs
    obtain ⟨part, hp, rfl⟩ := List.mem_map.mp hcs
    exact h part hp
  simp [split, join, hs, Function.comp_def]

@[simp] theorem join_singleton (part : String) : join sep [part] = part := by
  simp [join, joinChars]

theorem join_append {front back : List String} (hf : front ≠ []) (hb : back ≠ []) :
    join sep (front++back) = join sep front++String.singleton sep++join sep back := by
  have hf' : front.map String.toList ≠ [] := by simpa using hf
  have hb' : back.map String.toList ≠ [] := by simpa using hb
  rw [← String.toList_inj]
  simp [join, joinChars_append hf' hb']

theorem join_cons_cons (part next : String) (parts : List String) :
    join sep (part::next::parts) = part++String.singleton sep++join sep (next::parts) := by
  have h := @join_append sep [part] (next::parts) (by simp) (by simp)
  rwa [join_singleton] at h

theorem join_append_first (front part : String) (parts : List String) :
    join sep ((front++part)::parts) = front++join sep (part::parts) := by
  cases parts with
  | nil => rw [join_singleton, join_singleton]
  | cons next parts => rw [join_cons_cons, join_cons_cons, ← String.append_assoc,
      ← String.append_assoc]

theorem mem_join {c : Char} {parts : List String} (h : c ∈ (join sep parts).toList) :
    c = sep ∨ ∃ part ∈ parts, c ∈ part.toList := by
  induction parts with
  | nil => cases h
  | cons part parts ih =>
    cases parts with
    | nil =>
      rw [join_singleton] at h
      exact .inr ⟨part, List.mem_cons_self, h⟩
    | cons next parts =>
      rw [join_cons_cons, String.toList_append, String.toList_append, List.mem_append,
        List.mem_append] at h
      rcases h with (h | h) | h
      · exact .inr ⟨part, List.mem_cons_self, h⟩
      · exact .inl (by simpa using h)
      · obtain hc | ⟨found, hf, hc⟩ := ih h
        · exact .inl hc
        · exact .inr ⟨found, List.mem_cons_of_mem part hf, hc⟩

theorem join_append_join (front : List String) {back : List String} (hb : back ≠ []) :
    join sep (front++[join sep back]) = join sep (front++back) := by
  by_cases hf : front = []
  · simp [hf]
  · rw [join_append hf (by simp), join_append hf hb, join_singleton]

theorem split_injective {text other : String} (h : split sep text = split sep other) :
    text = other := by
  rw [← join_split sep text, h, join_split]

theorem split_join_append {parts : List String} (h : ∀ part ∈ parts, sep ∉ part.toList)
    (text : String) : split sep (join sep (parts++[text])) = parts++split sep text := by
  have hj : join sep (parts++[text]) = join sep (parts++split sep text) := by
    rw [← join_append_join parts (split_ne_nil text), join_split]
  rw [hj, split_join (by simp [split_ne_nil])]
  intro part hp
  rcases List.mem_append.mp hp with hp | hp
  · exact h part hp
  · exact not_mem_of_mem_split hp

theorem split_append (before after : String) :
    split sep (before++String.singleton sep++after) = split sep before++split sep after := by
  have hj : before++String.singleton sep++after = join sep (split sep before++[after]) := by
    rw [join_append (split_ne_nil before) (by simp), join_singleton, join_split]
  rw [hj, split_join_append fun part hp => not_mem_of_mem_split hp]

theorem split_longer_iff {front text : String} :
    (∃ next rest, split sep text = split sep front++next::rest) ↔
      ∃ back, text = front++String.singleton sep++back := by
  constructor
  · intro h
    obtain ⟨next, rest, hs⟩ := h
    refine ⟨join sep (next::rest), ?_⟩
    rw [← join_split sep text, hs, join_append (split_ne_nil front) (by simp), join_split]
  · intro h
    obtain ⟨back, rfl⟩ := h
    obtain ⟨next, rest, hb⟩ := List.exists_cons_of_ne_nil (split_ne_nil back)
    exact ⟨next, rest, by rw [split_append, hb]⟩

theorem split_append_sep (text : String) :
    split sep (text++String.singleton sep) = split sep text++[""] := by
  have he : split sep "" = [""] := rfl
  rw [← he, ← split_append, String.append_empty]

theorem split_of_not_mem {text : String} (h : sep ∉ text.toList) : split sep text = [text] := by
  simp [split, splitChars_of_not_mem h]

theorem mem_iff_length_split {text : String} :
    sep ∈ text.toList ↔ 1 < (split sep text).length := by
  constructor
  · intro hm
    rcases Nat.lt_or_ge 1 (split sep text).length with hl | hl
    · exact hl
    · have hn : 0 < (split sep text).length := List.length_pos_iff.mpr (split_ne_nil text)
      obtain ⟨part, hp⟩ := List.length_eq_one_iff.mp (Nat.le_antisymm hl hn)
      have ht : part = text := by simpa [hp] using join_split sep text
      have hs : text ∈ split sep text := by simp [hp, ht]
      exact absurd hm (not_mem_of_mem_split hs)
  · intro hl
    by_cases hm : sep ∈ text.toList
    · exact hm
    · simp [split_of_not_mem hm] at hl

/-- Only a text with a separator at its end has an empty last part. -/
theorem getLast_split_iff {text : String} (h : text ≠ "") :
    (split sep text).getLast? = some "" ↔ text.toList.getLast? = some sep := by
  obtain ⟨front, last, hs⟩ : ∃ front last, split sep text = front++[last] :=
    ⟨_, _, (List.dropLast_concat_getLast (split_ne_nil text)).symm⟩
  have hl : last ∈ split sep text := by simp [hs]
  have hm : sep ∉ last.toList := not_mem_of_mem_split hl
  have ht : text = join sep (front++[last]) := by rw [← hs, join_split]
  rw [hs, List.getLast?_concat]
  by_cases hf : front = []
  · have he : text = last := by simpa [hf] using ht
    subst he
    constructor
    · intro hn
      exact absurd (Option.some.inj hn) h
    · intro hn
      exact absurd (List.mem_of_getLast? hn) hm
  · rw [join_append hf (by simp), join_singleton] at ht
    by_cases he : last = ""
    · simp [ht, he]
    · have hne : last.toList ≠ [] := fun hn => he (by simpa using hn)
      have hlast : text.toList.getLast? = last.toList.getLast? := by
        rw [ht, String.toList_append, List.getLast?_append, List.getLast?_eq_some_getLast hne]
        rfl
      rw [hlast]
      constructor
      · intro hn
        exact absurd (Option.some.inj hn) he
      · intro hn
        exact absurd (List.mem_of_getLast? hn) hm

/-! ## Cutting in two -/

/-- A text is cut before its first separator. -/
theorem cut_eq_some_iff {cs before after : List Char} :
    cut sep cs = some (before, after) ↔ sep ∉ before ∧ cs = before++sep::after := by
  induction cs generalizing before with
  | nil => simp [cut]
  | cons c cs ih =>
    rw [cut]
    by_cases hc : c = sep
    · rw [if_pos hc]
      constructor
      · intro h
        cases h
        exact ⟨List.not_mem_nil, by rw [hc]; rfl⟩
      · rintro ⟨hbefore, hcs⟩
        cases before with
        | nil => simp_all
        | cons d before => simp_all
    · rw [if_neg hc]
      constructor
      · intro h
        obtain ⟨⟨front, back⟩, hcut, heq⟩ := Option.map_eq_some_iff.mp h
        obtain ⟨rfl, rfl⟩ := Prod.mk.inj heq
        obtain ⟨hfront, rfl⟩ := ih.mp hcut
        exact ⟨by simp [Ne.symm hc, hfront], rfl⟩
      · rintro ⟨hbefore, hcs⟩
        cases before with
        | nil => simp_all
        | cons d before =>
          obtain ⟨rfl, htail⟩ := List.cons.inj hcs
          have hfront := (List.ne_and_not_mem_of_not_mem_cons hbefore).2
          rw [ih.mpr ⟨hfront, htail⟩, Option.map_some]

theorem cutAt_eq_some_iff {text before after : String} :
    cutAt sep text = some (before, after) ↔
      sep ∉ before.toList ∧ text = before++String.singleton sep++after := by
  rw [cutAt, Option.map_eq_some_iff]
  constructor
  · rintro ⟨⟨front, back⟩, hcut, heq⟩
    obtain ⟨rfl, rfl⟩ := Prod.mk.inj heq
    obtain ⟨hfront, htext⟩ := cut_eq_some_iff.mp hcut
    refine ⟨by simpa using hfront, ?_⟩
    rw [← String.toList_inj, htext]
    simp
  · rintro ⟨hbefore, rfl⟩
    refine ⟨(before.toList, after.toList), cut_eq_some_iff.mpr ⟨hbefore, ?_⟩, ?_⟩
    · simp
    · simp

/-! ## Parts of a text -/

theorem holdsChars_iff {part cs : List Char} : holdsChars part cs = true ↔ part <:+: cs := by
  induction cs with
  | nil => simp [holdsChars]
  | cons c cs ih =>
    rw [holdsChars, Bool.or_eq_true, ih, List.isPrefixOf_iff_prefix, List.infix_cons_iff]

theorem holds_iff {part text : String} :
    holds part text = true ↔ ∃ before after, text = before++part++after := by
  rw [holds, holdsChars_iff]
  constructor
  · rintro ⟨before, after, h⟩
    exact ⟨.ofList before, .ofList after, by simp [← String.toList_inj, h]⟩
  · rintro ⟨before, after, rfl⟩
    exact ⟨before.toList, after.toList, by simp⟩

end WebApplication.Text
