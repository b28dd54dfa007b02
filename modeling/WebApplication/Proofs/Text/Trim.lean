import Mathlib.Data.List.DropRight
import WebApplication.Text.Blank

/-!
# Trimmed text

Blanks at either end of a text make no difference to what is left of it, and what is
left is a part of the text that is not trimmed further. Where one character is taken from
the end, nothing else is. Printable characters are not blank, and those that are no letters are
the lower case of nothing but themselves.
-/

set_option autoImplicit false

namespace WebApplication.Text

/-! ## Characters -/

theorem not_isBlank_of_printable {c : Char} (h : 32 < c.toNat ∧ c.toNat < 127) :
    isBlank c = false := by
  simp [isBlank]
  omega

theorem toLower_eq_iff {c d : Char}
    (hd : d.toNat < 65 ∨ 90 < d.toNat ∧ d.toNat < 97 ∨ 122 < d.toNat) : c.toLower = d ↔ c = d := by
  by_cases hupper : c.val ≥ 'A'.val ∧ c.val ≤ 'Z'.val
  · -- both are letters, and the other one is none
    have hrange : 65 ≤ c.toNat ∧ c.toNat ≤ 90 := by
      simpa [UInt32.le_iff_toNat_le] using hupper
    have hval : c.toLower = ⟨c.val+32, _⟩ := dif_pos hupper
    have hlower : c.toLower.toNat = c.toNat+32 := by
      have hsame : c.val.toNat = c.toNat := rfl
      rw [hval]
      exact (UInt32.toNat_add c.val 32).trans (by rw [hsame]; simp; omega)
    refine iff_of_false ?_ ?_
    · rintro rfl
      omega
    · rintro rfl
      omega
  · have hsame : c.toLower = c := dif_neg hupper
    rw [hsame]

/-! ## Both ends -/

theorem trimStartChars_idem (cs : List Char) :
    trimStartChars (trimStartChars cs) = trimStartChars cs :=
  List.dropWhile_idempotent isBlank cs

theorem trimEndChars_idem (cs : List Char) : trimEndChars (trimEndChars cs) = trimEndChars cs := by
  rw [trimEndChars, trimEndChars, List.reverse_reverse, List.dropWhile_idempotent]

theorem trimEndChars_cons (c : Char) (cs : List Char) :
    trimEndChars (c::cs) =
      if isBlank c = true ∧ trimEndChars cs = [] then [] else c::trimEndChars cs := by
  unfold trimEndChars
  rw [List.reverse_cons, List.dropWhile_append]
  cases h : cs.reverse.dropWhile isBlank with
  | nil => cases hc : isBlank c <;> simp [hc]
  | cons d ds => simp

theorem trimEndChars_append_blank {c : Char} (h : isBlank c = true) (cs : List Char) :
    trimEndChars (cs++[c]) = trimEndChars cs := by
  simp [trimEndChars, h]

theorem trimStartChars_trimEndChars (cs : List Char) :
    trimStartChars (trimEndChars cs) = trimEndChars (trimStartChars cs) := by
  induction cs with
  | nil => rfl
  | cons c cs ih =>
    rw [trimEndChars_cons]
    cases hc : isBlank c with
    | false => simp [trimStartChars, hc, trimEndChars_cons]
    | true =>
      have hs : trimStartChars (c::cs) = trimStartChars cs := by simp [trimStartChars, hc]
      rw [hs, ← ih]
      by_cases he : trimEndChars cs = []
      · simp [he, trimStartChars]
      · simp [he, trimStartChars, hc]

theorem trimChars_trimEndChars (cs : List Char) : trimChars (trimEndChars cs) = trimChars cs := by
  rw [trimChars, trimStartChars_trimEndChars, trimEndChars_idem, trimChars]

theorem trimChars_idem (cs : List Char) : trimChars (trimChars cs) = trimChars cs := by
  rw [trimChars, trimChars, trimStartChars_trimEndChars, trimEndChars_idem, trimStartChars_idem]

theorem trimChars_infix (cs : List Char) : trimChars cs <:+: cs := by
  have hend : trimChars cs <+: trimStartChars cs := by
    rw [trimChars, trimEndChars, ← List.reverse_suffix, List.reverse_reverse]
    exact List.dropWhile_suffix isBlank
  exact hend.isInfix.trans (List.dropWhile_suffix isBlank).isInfix

theorem trimChars_between_blanks {b c : Char} (hb : isBlank b = true) (hc : isBlank c = true)
    (cs : List Char) : trimChars (b::cs++[c]) = trimChars cs := by
  have hs : trimStartChars (b::cs) = trimStartChars cs := by simp [trimStartChars, hb]
  rw [trimChars, ← trimStartChars_trimEndChars, trimEndChars_append_blank hc,
    trimStartChars_trimEndChars, hs, trimChars]

theorem trimChars_cons {c : Char} (h : isBlank c = false) (cs : List Char) :
    trimChars (c::cs) = c::trimEndChars cs := by
  simp [trimChars, trimStartChars, h, trimEndChars_cons]

theorem trimChars_between {before after : List Char} (hb : ∀ c ∈ before, isBlank c = true)
    (ha : ∀ c ∈ after, isBlank c = true) (cs : List Char) :
    trimChars (before++cs++after) = trimChars cs := by
  have hend : trimEndChars (cs++after) = trimEndChars cs := by
    have hreverse : ∀ c ∈ after.reverse, isBlank c = true :=
      fun c hc => ha c (List.mem_reverse.mp hc)
    rw [trimEndChars, List.reverse_append, List.dropWhile_append_of_pos hreverse, trimEndChars]
  rw [List.append_assoc, trimChars, trimStartChars, List.dropWhile_append_of_pos hb,
    ← trimStartChars, ← trimStartChars_trimEndChars, hend, trimStartChars_trimEndChars, trimChars]

theorem exists_trimChars (cs : List Char) :
    ∃ before after, cs = before++trimChars cs++after ∧ (∀ c ∈ before, isBlank c = true) ∧
      ∀ c ∈ after, isBlank c = true := by
  have hfront : cs.takeWhile isBlank++trimStartChars cs = cs := List.takeWhile_append_dropWhile
  have hback : trimChars cs++(trimStartChars cs).rtakeWhile isBlank = trimStartChars cs :=
    List.rdropWhile_append_rtakeWhile
  refine ⟨cs.takeWhile isBlank, (trimStartChars cs).rtakeWhile isBlank, ?_, ?_, ?_⟩
  · rw [List.append_assoc, hback, hfront]
  · exact fun c hc => List.mem_takeWhile_imp hc
  · exact fun c hc => List.mem_rtakeWhile_imp hc

theorem dropWhile_of_unblank {cs : List Char} (h : ∀ c ∈ cs, isBlank c = false) :
    cs.dropWhile isBlank = cs := by
  cases cs with
  | nil => rfl
  | cons c cs => exact List.dropWhile_cons_of_neg (by simp [h c List.mem_cons_self])

theorem trimChars_of_unblank {cs : List Char} (h : ∀ c ∈ cs, isBlank c = false) :
    trimChars cs = cs := by
  have hreverse : ∀ c ∈ cs.reverse, isBlank c = false := fun c hc => h c (List.mem_reverse.mp hc)
  rw [trimChars, trimStartChars, dropWhile_of_unblank h, trimEndChars,
    dropWhile_of_unblank hreverse, List.reverse_reverse]

/-! ## One character at the end -/

theorem toList_dropEnd (c : Char) (text : String) :
    (dropEnd c text).toList = text.toList.rdropWhile (· == c) := by
  rw [dropEnd, String.toList_ofList, List.rdropWhile]

theorem exists_dropEnd (c : Char) (text : String) :
    ∃ n, text = dropEnd c text++String.ofList (List.replicate n c) := by
  have htaken : ∀ d ∈ text.toList.reverse.takeWhile (· == c), d = c := by
    intro d hd
    simpa using List.mem_takeWhile_imp hd
  have hcut : text.toList.reverse.takeWhile (· == c)++text.toList.reverse.dropWhile (· == c) =
      text.toList.reverse := List.takeWhile_append_dropWhile
  rw [List.eq_replicate_of_mem htaken, ← List.reverse_inj, List.reverse_append,
    List.reverse_reverse, List.reverse_replicate] at hcut
  refine ⟨(text.toList.reverse.takeWhile (· == c)).length, ?_⟩
  rw [← String.toList_inj, String.toList_append, toList_dropEnd, String.toList_ofList]
  exact hcut.symm

theorem getLast?_dropEnd_ne (c : Char) (text : String) :
    (dropEnd c text).toList.getLast? ≠ some c := by
  rw [toList_dropEnd]
  intro h
  have hne : text.toList.rdropWhile (· == c) ≠ [] := by
    intro hnil
    rw [hnil] at h
    cases h
  have hlast := List.rdropWhile_last_not (· == c) text.toList hne
  rw [List.getLast?_eq_some_getLast hne] at h
  rw [Option.some.inj h] at hlast
  simp at hlast

end WebApplication.Text
