import WebApplication.Proofs.Text.Trim
import WebApplication.Property.Bind

/-!
# Integers written in decimal

An integer written in decimal is read back as it was, by every reader of integers, as long as
it lies in the range of the reader. Outside of the range it is refused.
-/

set_option autoImplicit false

namespace WebApplication.Property

open Schema

/-! ## Digits -/

theorem digitValue_of_isDigit {c : Char} (h : c.isDigit = true) :
    digitValue c = some (c.toNat-48) := by
  rw [digitValue, if_pos h]

theorem digitsFrom_eq {cs : List Char} (h : ∀ c ∈ cs, c.isDigit = true) (n : Nat) :
    digitsFrom n cs = some (Nat.ofDigitChars 10 cs n) := by
  induction cs generalizing n with
  | nil => rfl
  | cons c cs ih =>
    obtain ⟨hc, hcs⟩ := List.forall_mem_cons.mp h
    have hstep : digitsFrom n (c::cs) = digitsFrom (10*n+(c.toNat-48)) cs := by
      rw [digitsFrom, List.foldlM_cons, digitValue_of_isDigit hc, Nat.mul_comm 10]
      rfl
    rw [hstep, ih hcs]
    rfl

theorem isDigit_of_digitsFrom {cs : List Char} {n m : Nat} (h : digitsFrom n cs = some m) :
    ∀ c ∈ cs, c.isDigit = true := by
  induction cs generalizing n with
  | nil => simp
  | cons c cs ih =>
    rw [digitsFrom, List.foldlM_cons, digitValue] at h
    by_cases hc : c.isDigit = true
    · rw [if_pos hc] at h
      exact List.forall_mem_cons.mpr ⟨hc, ih h⟩
    · simp [hc] at h

theorem digits?_eq_some_iff {cs : List Char} {n : Nat} : digits? cs = some n ↔
    cs ≠ [] ∧ (∀ c ∈ cs, c.isDigit = true) ∧ Nat.ofDigitChars 10 cs 0 = n := by
  rw [digits?]
  constructor
  · intro h
    split at h
    · cases h
    · rename_i hne
      have hdigits := isDigit_of_digitsFrom h
      rw [digitsFrom_eq hdigits] at h
      exact ⟨by simpa using hne, hdigits, Option.some.inj h⟩
  · rintro ⟨hne, hdigits, rfl⟩
    rw [if_neg (by simpa using hne), digitsFrom_eq hdigits]

theorem isDigit_of_mem_decimal {n : Nat} {c : Char} (h : c ∈ (toString n).toList) :
    c.isDigit = true := by
  rw [Nat.toString_eq_repr, Nat.toList_repr] at h
  exact Nat.isDigit_of_mem_toDigits (by decide) (by decide) h

theorem digits?_toString (n : Nat) : digits? (toString n).toList = some n := by
  have hdigits : ∀ c ∈ (toString n).toList, c.isDigit = true := fun _ => isDigit_of_mem_decimal
  have hne : (toString n).toList.isEmpty = false := by
    rw [Nat.toString_eq_repr, Nat.toList_repr, List.isEmpty_eq_false_iff]
    exact Nat.toDigits_ne_nil
  rw [digits?, hne, if_neg (by decide), digitsFrom_eq hdigits, Nat.toString_eq_repr,
    Nat.toList_repr, Nat.ofDigitChars_toDigits (by decide) (by decide)]

theorem toString_injective : Function.Injective fun n : Nat => toString n := by
  intro n m h
  have hread : digits? (toString n).toList = digits? (toString m).toList :=
    congrArg (fun text : String => digits? text.toList) h
  rw [digits?_toString, digits?_toString] at hread
  exact Option.some.inj hread

/-! ## Integers -/

theorem integer?_of_digits {cs : List Char} (h : ∀ c ∈ cs, c.isDigit = true) (signed : Bool) :
    integer? signed cs = (digits? cs).map Int.ofNat := by
  unfold integer?
  split
  · exact absurd (h '+' (by simp)) (by decide)
  · exact absurd (h '-' (by simp)) (by decide)
  · rfl

/-- An integer without a minus sign is digits, which a plus sign may precede. -/
theorem unsigned_eq_some_iff {cs : List Char} {n : Int} : integer? false cs = some n ↔
    ∃ digits m, (cs = digits ∨ cs = '+'::digits) ∧ digits? digits = some m ∧ n = Int.ofNat m := by
  constructor
  · intro h
    unfold integer? at h
    split at h
    · rename_i digits
      obtain ⟨m, hm, rfl⟩ := Option.map_eq_some_iff.mp h
      exact ⟨digits, m, .inr rfl, hm, rfl⟩
    · cases h
    · obtain ⟨m, hm, rfl⟩ := Option.map_eq_some_iff.mp h
      exact ⟨cs, m, .inl rfl, hm, rfl⟩
  · rintro ⟨digits, m, rfl | rfl, hm, rfl⟩
    · rw [integer?_of_digits (digits?_eq_some_iff.mp hm).2.1, hm]
      rfl
    · rw [integer?, hm]
      rfl

theorem toList_toString_negSucc (n : Nat) :
    (toString (Int.negSucc n)).toList = '-'::(toString (n+1)).toList := by
  show ("-"++toString (n+1)).toList = _
  rw [String.toList_append]
  rfl

theorem integer?_toString (signed : Bool) (n : Int) :
    integer? signed (toString n).toList = if signed = true ∨ 0 ≤ n then some n else none := by
  cases n with
  | ofNat n =>
    have hdigits : ∀ c ∈ (toString n).toList, c.isDigit = true := fun _ => isDigit_of_mem_decimal
    show integer? signed (toString n).toList = _
    rw [integer?_of_digits hdigits, digits?_toString, if_pos (.inr (Int.natCast_nonneg n))]
    rfl
  | negSucc n =>
    rw [toList_toString_negSucc, integer?]
    cases signed with
    | true =>
      rw [digits?_toString]
      rfl
    | false => simp

theorem not_isBlank_of_isDigit {c : Char} (h : c.isDigit = true) : Text.isBlank c = false := by
  have hrange : 48 ≤ c.toNat ∧ c.toNat ≤ 57 := Char.isDigit_iff_toNat.mp h
  exact Text.not_isBlank_of_printable (by omega)

theorem trimChars_toString (n : Int) :
    Text.trimChars (toString n).toList = (toString n).toList := by
  have hdecimal : ∀ (n : Nat) c, c ∈ (toString n).toList → Text.isBlank c = false :=
    fun n c hc => not_isBlank_of_isDigit (isDigit_of_mem_decimal hc)
  apply Text.trimChars_of_unblank
  cases n with
  | ofNat n => exact hdecimal n
  | negSucc n =>
    rw [toList_toString_negSucc]
    exact List.forall_mem_cons.mpr ⟨by decide, hdecimal (n+1)⟩

/-! ## Readers of integers -/

theorem holds_iff {t : IntegerType} {n : Int} :
    t.holds n = true ↔ t.least ≤ n ∧ n ≤ t.greatest := by
  rw [IntegerType.holds, Bool.and_eq_true, decide_eq_true_iff, decide_eq_true_iff]

theorem integerOf_toString (t : IntegerType) (n : Int) :
    integerOf t (toString n).toList = if t.holds n then some (.integer n) else none := by
  rw [integerOf, integer?_toString]
  by_cases hsign : t.signed = true ∨ 0 ≤ n
  · rw [if_pos hsign]
  · -- a negative integer is outside of a range without a sign
    obtain ⟨hunsigned, hneg⟩ := not_or.mp hsign
    have hleast : t.least = 0 := by rw [IntegerType.least, if_neg hunsigned]
    have hout : ¬ t.holds n = true := by
      rw [holds_iff, hleast]
      exact fun h => hneg h.1
    rw [if_neg hsign, if_neg hout]

def outOfRange (t : IntegerType) (n : Int) : String :=
  invalidValue (foundText (toString n)) (scalarName t)

theorem bindText_toString (t : IntegerType) (n : Int) :
    bindText (.integer t) (toString n) =
      if t.holds n then .ok (.integer n) else .error (outOfRange t n) := by
  rw [bindText, trimChars_toString, integerOf_toString]
  split <;> rfl

theorem word?_toString (n : Nat) :
    word? (toString n) = if n < 0x10000000000000000 then some n else none := by
  have hint : integer? false (toString n).toList = some (n : Int) :=
    (integer?_toString false n).trans (if_pos (.inr (Int.natCast_nonneg n)))
  rw [word?, hint]
  by_cases h : n < 0x10000000000000000
  · rw [if_pos h]
    exact if_pos (by omega)
  · rw [if_neg h]
    exact if_neg (by omega)

end WebApplication.Property
