import WebApplication.Encoding.Hex

/-!
# Bytes in hexadecimal digits

What is written for bytes is the one text of lower case digits that spells them: two digits for
every byte, of which the first counts sixteen times.
-/

set_option autoImplicit false

namespace WebApplication.Encoding

def isLowerDigit (c : Char) : Bool := c.isDigit || ('a' ≤ c && c ≤ 'f')

inductive Spelled : List Char → List UInt8 → Prop
  | nil : Spelled [] []
  | byte {high low : Char} {b : UInt8} {cs : List Char} {bytes : List UInt8}
      (hhigh : isLowerDigit high = true) (hlow : isLowerDigit low = true)
      (hvalue : hexNumber? [high, low] = some b.toNat) (rest : Spelled cs bytes) :
      Spelled (high::low::cs) (b::bytes)

theorem isLowerDigit_hexDigit : ∀ {n : Nat}, n < 16 → isLowerDigit (hexDigit n) = true := by
  decide

theorem hexValue?_hexDigit : ∀ {n : Nat}, n < 16 → hexValue? (hexDigit n) = some n := by
  decide

theorem eq_hexDigit {c : Char} {n : Nat} (hc : isLowerDigit c = true)
    (hn : hexValue? c = some n) : n < 16 ∧ c = hexDigit n := by
  by_cases hd : c.isDigit = true
  · have hrange : 48 ≤ c.toNat ∧ c.toNat ≤ 57 := by
      simpa [Char.isDigit, UInt32.le_iff_toNat_le] using hd
    rw [hexValue?, if_pos hd, Option.some.injEq] at hn
    refine ⟨by omega, ?_⟩
    rw [hexDigit, if_pos (by omega), ← hn, Nat.add_sub_cancel' hrange.1, Char.ofNat_toNat]
  · have hletter : ('a' ≤ c && c ≤ 'f') = true := by simpa [isLowerDigit, hd] using hc
    have hrange : 97 ≤ c.toNat ∧ c.toNat ≤ 102 := by
      simpa [Char.le_def, UInt32.le_iff_toNat_le] using hletter
    rw [hexValue?, if_neg hd, if_pos hletter, Option.some.injEq] at hn
    refine ⟨by omega, ?_⟩
    have hsum : 87+(c.toNat-87) = c.toNat := by omega
    rw [hexDigit, if_neg (by omega), ← hn, hsum, Char.ofNat_toNat]

theorem hexNumber?_pair_eq_some_iff {high low : Char} {n : Nat} :
    hexNumber? [high, low] = some n ↔
      ∃ i j, hexValue? high = some i ∧ hexValue? low = some j ∧ n = i*16+j := by
  cases hhigh : hexValue? high with
  | none => simp [hexNumber?, hhigh]
  | some i =>
    cases hlow : hexValue? low with
    | none => simp [hexNumber?, hhigh, hlow]
    | some j => simp [hexNumber?, hhigh, hlow, eq_comm]

/-- A byte is spelled by its two digits only. -/
theorem pair_iff {high low : Char} {b : UInt8} :
    (isLowerDigit high = true ∧ isLowerDigit low = true ∧
        hexNumber? [high, low] = some b.toNat) ↔
      high = hexDigit (b.toNat/16) ∧ low = hexDigit (b.toNat % 16) := by
  have hb := b.toNat_lt
  have hfirst : b.toNat/16 < 16 := by omega
  have hsecond : b.toNat % 16 < 16 := by omega
  constructor
  · rintro ⟨hhigh, hlow, hvalue⟩
    obtain ⟨i, j, hi, hj, hn⟩ := hexNumber?_pair_eq_some_iff.mp hvalue
    obtain ⟨hi16, rfl⟩ := eq_hexDigit hhigh hi
    obtain ⟨hj16, rfl⟩ := eq_hexDigit hlow hj
    have hdiv : b.toNat/16 = i := by omega
    have hmod : b.toNat % 16 = j := by omega
    rw [hdiv, hmod]
    exact ⟨rfl, rfl⟩
  · rintro ⟨rfl, rfl⟩
    refine ⟨isLowerDigit_hexDigit hfirst, isLowerDigit_hexDigit hsecond, ?_⟩
    exact hexNumber?_pair_eq_some_iff.mpr
      ⟨_, _, hexValue?_hexDigit hfirst, hexValue?_hexDigit hsecond, by omega⟩

/-- What is written for bytes spells them, and no other text does. -/
theorem spelled_iff {text : String} {bytes : List UInt8} :
    Spelled text.toList bytes ↔ text = hexLower bytes := by
  rw [hexLower, ← String.toList_inj, String.toList_ofList]
  generalize text.toList = cs
  induction bytes generalizing cs with
  | nil =>
    constructor
    · intro h
      cases h with
      | nil => rfl
    · rintro rfl
      exact .nil
  | cons b bytes ih =>
    rw [List.flatMap_cons]
    constructor
    · intro h
      cases h with
      | byte hhigh hlow hvalue rest =>
        obtain ⟨rfl, rfl⟩ := pair_iff.mp ⟨hhigh, hlow, hvalue⟩
        rw [(ih _).mp rest]
        rfl
    · rintro rfl
      obtain ⟨hhigh, hlow, hvalue⟩ := pair_iff.mpr ⟨rfl, rfl⟩
      exact .byte hhigh hlow hvalue ((ih _).mpr rfl)

end WebApplication.Encoding
