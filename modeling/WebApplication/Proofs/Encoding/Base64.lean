import WebApplication.Encoding.Base64

/-!
# Base64 is read back

Each block of digits is read as the bytes it was made of, whichever padding it has, and so is
the whole of what was written. It is printable and holds no blank.
-/

set_option autoImplicit false

namespace WebApplication.Encoding.Base64

/-! ## Digits -/

theorem value?_digit : ∀ {n : Nat}, n < 64 → value? (digit n) = some n := by decide

theorem digit_ne_pad : ∀ {n : Nat}, n < 64 → digit n ≠ '=' := by decide

theorem digit_printable : ∀ {n : Nat}, n < 64 → 32 < (digit n).toNat ∧ (digit n).toNat < 127 := by
  decide

/-! ## Blocks -/

section Blocks

variable {x y z w : Nat}

theorem block?_two (hx : x < 64) (hy : y < 64) (hrest : y % 16 = 0) :
    block? (digit x) (digit y) '=' '=' = some [(x*4+y/16).toUInt8] := by
  simp [block?, value?_digit hx, value?_digit hy, hrest]

theorem block?_three (hx : x < 64) (hy : y < 64) (hz : z < 64) (hrest : z % 4 = 0) :
    block? (digit x) (digit y) (digit z) '=' =
      some [(x*4+y/16).toUInt8, (y % 16*16+z/4).toUInt8] := by
  simp [block?, value?_digit hx, value?_digit hy, value?_digit hz, digit_ne_pad hz, hrest]

theorem block?_four (hx : x < 64) (hy : y < 64) (hz : z < 64) (hw : w < 64) :
    block? (digit x) (digit y) (digit z) (digit w) =
      some [(x*4+y/16).toUInt8, (y % 16*16+z/4).toUInt8, (z % 4*64+w).toUInt8] := by
  simp [block?, value?_digit hx, value?_digit hy, value?_digit hz, value?_digit hw,
    digit_ne_pad hz, digit_ne_pad hw]

end Blocks

theorem toUInt8_eq {n : Nat} {byte : UInt8} (h : n = byte.toNat) : n.toUInt8 = byte := by
  rw [h]
  exact UInt8.ofNat_toNat

/-! ## Texts -/

theorem decode?_encode (bytes : List UInt8) : decode? (encode bytes) = some bytes := by
  -- The bytes end with nothing or with one or two that are padded, or a whole block is in front.
  fun_induction encode bytes with
  | case1 => rfl
  | case2 a =>
    have ha := a.toNat_lt
    have hfirst : a.toNat/4*4+a.toNat % 4*16/16 = a.toNat := by omega
    rw [decode?, block?_two (by omega) (by omega) (by omega), toUInt8_eq hfirst]
    rfl
  | case3 a b =>
    have ha := a.toNat_lt
    have hb := b.toNat_lt
    have hfirst : a.toNat/4*4+(a.toNat % 4*16+b.toNat/16)/16 = a.toNat := by omega
    have hsecond : (a.toNat % 4*16+b.toNat/16) % 16*16+b.toNat % 16*4/4 = b.toNat := by omega
    rw [decode?, block?_three (by omega) (by omega) (by omega) (by omega), toUInt8_eq hfirst,
      toUInt8_eq hsecond]
    rfl
  | case4 a b c rest ih =>
    have ha := a.toNat_lt
    have hb := b.toNat_lt
    have hc := c.toNat_lt
    have hfirst : a.toNat/4*4+(a.toNat % 4*16+b.toNat/16)/16 = a.toNat := by omega
    have hsecond : (a.toNat % 4*16+b.toNat/16) % 16*16+(b.toNat % 16*4+c.toNat/64)/4 =
        b.toNat := by omega
    have hthird : (b.toNat % 16*4+c.toNat/64) % 4*64+c.toNat % 64 = c.toNat := by omega
    rw [decode?, block?_four (by omega) (by omega) (by omega) (by omega), toUInt8_eq hfirst,
      toUInt8_eq hsecond, toUInt8_eq hthird, ih]
    rfl

theorem printable_of_mem_encode {bytes : List UInt8} {c : Char} (h : c ∈ encode bytes) :
    32 < c.toNat ∧ c.toNat < 127 := by
  have hpad : 32 < '='.toNat ∧ '='.toNat < 127 := by decide
  fun_induction encode bytes with
  | case1 => cases h
  | case2 a =>
    have ha := a.toNat_lt
    simp only [List.mem_cons, List.not_mem_nil, or_false] at h
    rcases h with rfl | rfl | rfl | rfl
    · exact digit_printable (by omega)
    · exact digit_printable (by omega)
    · exact hpad
    · exact hpad
  | case3 a b =>
    have ha := a.toNat_lt
    have hb := b.toNat_lt
    simp only [List.mem_cons, List.not_mem_nil, or_false] at h
    rcases h with rfl | rfl | rfl | rfl
    · exact digit_printable (by omega)
    · exact digit_printable (by omega)
    · exact digit_printable (by omega)
    · exact hpad
  | case4 a b d rest ih =>
    have ha := a.toNat_lt
    have hb := b.toNat_lt
    have hd := d.toNat_lt
    simp only [List.mem_cons] at h
    rcases h with rfl | rfl | rfl | rfl | h
    · exact digit_printable (by omega)
    · exact digit_printable (by omega)
    · exact digit_printable (by omega)
    · exact digit_printable (by omega)
    · exact ih h

end WebApplication.Encoding.Base64
