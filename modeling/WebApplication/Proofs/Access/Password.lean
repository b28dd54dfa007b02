import WebApplication.Access.Password
import WebApplication.Proofs.Encoding.Hex
import WebApplication.Proofs.Text.Bytes
import WebApplication.Proofs.Text.Split

/-!
# Passwords that are accepted

Comparing all bytes before answering finds out whether two texts are the same. So a plain
password is accepted for itself only, and a digest for the passwords with this digest. A password
stored under a scheme is accepted as the encoder of the scheme accepts what follows the
braces, so the default encoder accepts no other than a plain one that is stored.
-/

set_option autoImplicit false

namespace WebApplication.Access

/-! ## Comparing all bytes -/

theorem foldl_differences {pairs : List (UInt8 × UInt8)} {acc : UInt8} :
    pairs.foldl (fun acc (x, y) => acc ||| (x ^^^ y)) acc = 0 ↔
      acc = 0 ∧ ∀ pair ∈ pairs, pair.1 = pair.2 := by
  induction pairs generalizing acc with
  | nil => simp
  | cons pair pairs ih =>
    rw [List.foldl_cons, ih, UInt8.or_eq_zero_iff, UInt8.xor_eq_zero_iff, List.forall_mem_cons,
      and_assoc]

theorem forall_zip_iff {a b : List UInt8} (h : a.length = b.length) :
    (∀ pair ∈ a.zip b, pair.1 = pair.2) ↔ a = b := by
  induction a generalizing b with
  | nil => simpa [eq_comm] using h
  | cons x a ih =>
    cases b with
    | nil => simp at h
    | cons y b =>
      rw [List.zip_cons_cons, List.forall_mem_cons, ih (Nat.succ.inj h), List.cons.injEq]

theorem constantTimeEq_iff {a b : List UInt8} : constantTimeEq a b = true ↔ a = b := by
  rw [constantTimeEq]
  by_cases hlength : a.length = b.length
  · rw [if_pos hlength, beq_iff_eq, foldl_differences, forall_zip_iff hlength]
    simp
  · rw [if_neg hlength]
    refine iff_of_false Bool.false_ne_true ?_
    rintro rfl
    exact hlength rfl

theorem sameText_iff {a b : String} : sameText a b = true ↔ a = b := by
  rw [sameText, constantTimeEq_iff, Text.utf8_inj]

theorem plain_accepts_iff {raw encoded : String} :
    Encoder.plain.accepts raw encoded = true ↔ raw = encoded := by
  rw [Encoder.plain, sameText_iff]

theorem digest_accepts_iff {raw encoded : String} :
    Encoder.digest.accepts raw encoded = true ↔
      Encoding.Spelled (Text.trim encoded).toList (Digest.sha256 raw.toUTF8.toList) := by
  rw [Encoder.digest, sameText_iff, Encoding.spelled_iff, digestText, eq_comm]

/-- Comparing all bytes tells whether they are the same. So a plain password is accepted just for
itself, and a digest just if it is, without the blanks around it, the digest of the password's
bytes in lower case digits. -/
theorem accepted_exactly :
    (∀ a b, constantTimeEq a b = true ↔ a = b) ∧
    ∀ raw encoded, (Encoder.plain.accepts raw encoded = true ↔ raw = encoded) ∧
      (Encoder.digest.accepts raw encoded = true ↔
        Encoding.Spelled (Text.trim encoded).toList (Digest.sha256 raw.toUTF8.toList)) :=
  ⟨fun _ _ => constantTimeEq_iff, fun _ _ => ⟨plain_accepts_iff, digest_accepts_iff⟩⟩

/-! ## Schemes -/

section Schemes

variable {raw scheme stored : String} {encoders : List (String × Encoder)}

theorem splitScheme_inBraces (h : '}' ∉ scheme.toList) :
    splitScheme (inBraces scheme++stored) = some (scheme, stored) := by
  have htext : (inBraces scheme++stored).toList =
      '{' :: (scheme.toList ++ '}' :: stored.toList) := by
    simp [inBraces]
  have hcut : Text.cut '}' (scheme.toList ++ '}' :: stored.toList) =
      some (scheme.toList, stored.toList) := Text.cut_eq_some_iff.mpr ⟨h, rfl⟩
  rw [splitScheme, htext]
  simp [hcut]

theorem delegating_accepts (named : String) (h : '}' ∉ scheme.toList) :
    (Encoder.delegating named encoders).accepts raw (inBraces scheme++stored) =
      (encoders.lookup scheme).any fun encoder => encoder.accepts raw stored := by
  rw [Encoder.delegating]
  dsimp only
  rw [splitScheme_inBraces h]

theorem default_accepts_plain :
    Encoder.default.accepts raw (inBraces "noop"++stored) = true ↔ raw = stored := by
  have hscheme : '}' ∉ "noop".toList := by decide
  have hplain : (SortedTable.ofList [("noop", Encoder.plain), ("sha256", Encoder.digest)]).lookup
      "noop" = some .plain := rfl
  rw [Encoder.default, Encoder.delegate, delegating_accepts "sha256" hscheme, hplain, Option.any_some,
    plain_accepts_iff]

end Schemes

end WebApplication.Access
