import Mathlib.Data.List.Infix
import WebApplication.Template.Parser

/-!
# The first occurrence of a mark

A text is broken where a mark occurs first: before the break the mark does not occur, not
even with the beginning of its own occurrence there. What is put in front of a text does
not move the break if it neither holds the mark nor runs into it.
-/

set_option autoImplicit false

namespace WebApplication.Template

variable {mark cs before after : List Char}

theorem breakAt_at_front (h : mark <+: cs) (hcs : cs ≠ []) :
    breakAt mark cs = some ([], cs.drop mark.length) := by
  cases cs with
  | nil => exact absurd rfl hcs
  | cons c cs => rw [breakAt, if_pos (List.isPrefixOf_iff_prefix.mpr h)]

theorem breakAt_cons {c : Char} (h : ¬ mark <+: c::cs) :
    breakAt mark (c::cs) = (breakAt mark cs).map fun (before, after) => (c::before, after) := by
  rw [breakAt, if_neg (fun hp => h (List.isPrefixOf_iff_prefix.mp hp))]

theorem cut_front (mark before after : List Char) :
    before++mark.dropLast <+: before++mark++after := by
  rw [List.append_assoc, List.prefix_append_right_inj]
  exact (List.dropLast_prefix mark).trans (List.prefix_append mark after)

theorem unmarked_of_breakAt (hm : mark ≠ []) (h : breakAt mark cs = none) : ¬ mark <:+: cs := by
  induction cs with
  | nil => simpa using hm
  | cons c cs ih =>
    by_cases hp : mark <+: c::cs
    · simp [breakAt_at_front hp] at h
    · rw [breakAt_cons hp, Option.map_eq_none_iff] at h
      intro hi
      rcases List.infix_cons_iff.mp hi with hpre | hin
      · exact hp hpre
      · exact ih h hin

theorem breakAt_of_unmarked (h : ¬ mark <:+: cs) : breakAt mark cs = none := by
  induction cs with
  | nil => rfl
  | cons c cs ih =>
    have hp : ¬ mark <+: c::cs := fun hp => h hp.isInfix
    rw [breakAt_cons hp, ih fun hin => h (List.infix_cons hin)]
    rfl

/-- Before a break the mark does not occur, whether or not it is cut short. -/
theorem unmarked_before (hm : mark ≠ []) (h : breakAt mark cs = some (before, after)) :
    cs = before++mark++after ∧ ¬ mark <:+: before++mark.dropLast := by
  induction cs generalizing before with
  | nil => simp [breakAt] at h
  | cons c cs ih =>
    by_cases hp : mark <+: c::cs
    · rw [breakAt_at_front hp (List.cons_ne_nil c cs), Option.some.injEq, Prod.mk.injEq] at h
      obtain ⟨rfl, rfl⟩ := h
      constructor
      · exact List.prefix_append_drop hp
      · intro hi
        have hl := hi.length_le
        have := List.length_pos_of_ne_nil hm
        simp only [List.nil_append, List.length_dropLast] at hl
        omega
    · rw [breakAt_cons hp] at h
      simp only [Option.map_eq_some_iff, Prod.mk.injEq, Prod.exists] at h
      obtain ⟨front, back, hb, rfl, rfl⟩ := h
      obtain ⟨rfl, hu⟩ := ih hb
      constructor
      · rfl
      · intro hi
        rcases List.infix_cons_iff.mp hi with hpre | hin
        · exact hp (hpre.trans (cut_front mark (c::front) back))
        · exact hu hin

theorem unmarked_front (hm : mark ≠ []) (h : breakAt mark cs = some (before, after)) :
    ¬ mark <:+: before := by
  obtain ⟨-, hu⟩ := unmarked_before hm h
  exact fun hi => hu (hi.trans (List.prefix_append before mark.dropLast).isInfix)

/-- A mark is found where it occurs first. -/
theorem breakAt_of_unmarked_before (h : ¬ mark <:+: before++mark.dropLast) (hm : mark ≠ []) :
    breakAt mark (before++mark++after) = some (before, after) := by
  induction before with
  | nil =>
    have hp : mark <+: mark++after := List.prefix_append mark after
    rw [List.nil_append, breakAt_at_front hp (by simp [hm]), List.drop_left]
  | cons c before ih =>
    have hp : ¬ mark <+: c::before++mark++after := by
      intro hp
      apply h
      have hlong : mark.length ≤ (c::before++mark.dropLast).length := by
        have := List.length_pos_of_ne_nil hm
        simp only [List.cons_append, List.length_cons, List.length_append, List.length_dropLast]
        omega
      exact (List.prefix_of_prefix_length_le hp (cut_front mark (c::before) after) hlong).isInfix
    rw [List.cons_append, List.cons_append] at hp ⊢
    rw [breakAt_cons hp,
      ih fun hin => h (List.infix_cons hin)]
    rfl

/-- A character that the mark does not have keeps its occurrences apart. -/
theorem infix_of_apart {x : Char} {xs ys : List Char} (hx : x ∉ mark)
    (h : mark <:+: xs++x::ys) : mark <:+: xs ∨ mark <:+: ys := by
  obtain ⟨s, t, he⟩ := h
  rw [List.append_assoc] at he
  rcases List.append_eq_append_iff.mp he with ⟨a, rfl, ha⟩ | ⟨a, rfl, ha⟩
  · left
    rcases List.append_eq_append_iff.mp ha with ⟨b, rfl, -⟩ | ⟨b, rfl, hb⟩
    · exact ⟨s, b, by simp⟩
    · cases b with
      | nil => exact ⟨s, [], by simp⟩
      | cons y b =>
        injection hb with hy
        simp [hy] at hx
  · cases a with
    | nil =>
      cases mark with
      | nil => exact .inl List.nil_infix
      | cons y mark =>
        injection ha with hy
        simp [hy] at hx
    | cons y a =>
      injection ha with hy hys
      exact .inr ⟨a, t, by simp [hys]⟩

def MakeMark (front back : List Char) : Prop :=
  front.getLast? = some '{' ∧ back.head? = some '{'

theorem MakeMark.of_suffix {text front back : List Char} (h : MakeMark text back)
    (hs : text <:+ front) : MakeMark front back := by
  obtain ⟨lead, rfl⟩ := hs
  exact ⟨by rw [List.getLast?_append, h.1]; rfl, h.2⟩

/-- A text without an opening mark leaves the next one where it is, unless it makes one itself
with what is behind it. -/
theorem breakAt_openMark_append {text : List Char} (h : ¬ openMark <:+: text)
    (hcs : ¬ MakeMark text cs) :
    breakAt openMark (text++cs) =
      (breakAt openMark cs).map fun (before, after) => (text++before, after) := by
  induction text with
  | nil => simp
  | cons c text ih =>
    have hp : ¬ openMark <+: c::(text++cs) := by
      intro hp
      obtain ⟨hc, hnext⟩ := List.cons_prefix_cons.mp hp
      subst hc
      cases text with
      | nil =>
        obtain ⟨rest, rfl⟩ := hnext
        exact hcs ⟨rfl, rfl⟩
      | cons d text =>
        obtain ⟨hd, -⟩ := List.cons_prefix_cons.mp hnext
        subst hd
        exact h ⟨[], text, rfl⟩
    rw [List.cons_append, breakAt_cons hp,
      ih (fun hin => h (List.infix_cons hin)) fun hm =>
        hcs (hm.of_suffix (List.suffix_cons c text))]
    cases breakAt openMark cs <;> rfl

end WebApplication.Template
