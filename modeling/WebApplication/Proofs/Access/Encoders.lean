import WebApplication.Proofs.Access.Password
import WebApplication.Proofs.Text.Trim

/-!
# What an encoder accepts of what it encoded

A delegating encoder writes the name of its scheme in braces, and reads a name up to the first
closing brace. If there is none in the name, it accepts for what it encoded just what the encoder
of the scheme accepts for what that one encoded, and a password comes through encoders nested to
any depth. A name with a closing brace is taken for a shorter one when it is read.
-/

set_option autoImplicit false

namespace WebApplication.Access

/-! ## Digests -/

theorem not_isBlank_hexDigit : ∀ {n : Nat}, n < 16 → Text.isBlank (Encoding.hexDigit n) = false := by
  decide

theorem not_isBlank_hexLower {bytes : List UInt8} {c : Char}
    (h : c ∈ (Encoding.hexLower bytes).toList) : Text.isBlank c = false := by
  rw [Encoding.hexLower, String.toList_ofList] at h
  obtain ⟨byte, -, hc⟩ := List.mem_flatMap.mp h
  have hbyte := byte.toNat_lt
  simp only [List.mem_cons, List.not_mem_nil, or_false] at hc
  rcases hc with rfl | rfl
  · exact not_isBlank_hexDigit (by omega)
  · exact not_isBlank_hexDigit (by omega)

theorem trim_digestText (raw : String) : Text.trim (digestText raw) = digestText raw := by
  rw [digestText, Text.trim, Text.trimChars_of_unblank fun c hc => not_isBlank_hexLower hc,
    String.ofList_toList]

theorem digest_accepts_iff_same {raw other : String} :
    Encoder.digest.accepts other (digestText raw) = true ↔ digestText other = digestText raw := by
  rw [Encoder.digest]
  dsimp only
  rw [trim_digestText, sameText_iff]

/-! ## Schemes -/

section Schemes

variable {raw other scheme before after : String} {encoders : List (String × Encoder)}
  {encoder : Encoder}

theorem delegating_encode (h : encoders.lookup scheme = some encoder) :
    (Encoder.delegating scheme encoders).encode raw = inBraces scheme++encoder.encode raw := by
  rw [Encoder.delegating]
  dsimp only
  rw [h]

theorem delegating_accepts_encode (hlookup : encoders.lookup scheme = some encoder)
    (hscheme : '}' ∉ scheme.toList) :
    (Encoder.delegating scheme encoders).accepts other
        ((Encoder.delegating scheme encoders).encode raw) =
      encoder.accepts other (encoder.encode raw) := by
  rw [delegating_encode hlookup, delegating_accepts scheme hscheme, hlookup, Option.any_some]

theorem delegating_accepts_braced (hlookup : encoders.lookup scheme = some encoder)
    (hscheme : scheme = before++"\x7d"++after) (hbefore : '}' ∉ before.toList) :
    (Encoder.delegating scheme encoders).accepts other
        ((Encoder.delegating scheme encoders).encode raw) =
      (encoders.lookup before).any fun found =>
        found.accepts other (after++"\x7d"++encoder.encode raw) := by
  have hread : inBraces scheme++encoder.encode raw =
      inBraces before++(after++"\x7d"++encoder.encode raw) := by
    simp [inBraces, hscheme, String.append_assoc]
  rw [delegating_encode hlookup, hread, delegating_accepts scheme hbefore]

end Schemes

/-! ## Round trips -/

/-- The names of the schemes that an encoder encodes with, one below the other, can be read. -/
inductive Legible : Encoder → Prop
  | plain : Legible .plain
  | digest : Legible .digest
  | delegating {scheme : String} {encoders : List (String × Encoder)} {encoder : Encoder}
      (hlookup : encoders.lookup scheme = some encoder) (hscheme : '}' ∉ scheme.toList)
      (h : Legible encoder) : Legible (.delegating scheme encoders)

theorem Legible.accepts_encode {encoder : Encoder} (h : Legible encoder) (raw : String) :
    encoder.accepts raw (encoder.encode raw) = true := by
  induction h with
  | plain => exact plain_accepts_iff.mpr rfl
  | digest => exact digest_accepts_iff_same.mpr rfl
  | delegating hlookup hscheme _ ih => rw [delegating_accepts_encode hlookup hscheme, ih]

/-- A password comes through an encoder whose schemes can be read, and what is accepted for it is
what the encoder of the scheme accepts. The name of a scheme is read up to its first closing
brace, so that behind a name with one an encoder of another name decides, if there is any. -/
theorem encoded_read_by_scheme {scheme : String} {encoders : List (String × Encoder)}
    {encoder : Encoder} (hlookup : encoders.lookup scheme = some encoder) :
    let whole := Encoder.delegating scheme encoders
    (Legible whole → ∀ raw, whole.accepts raw (whole.encode raw) = true) ∧
    ('}' ∉ scheme.toList → ∀ raw other, whole.accepts other (whole.encode raw) = true ↔
      encoder.accepts other (encoder.encode raw) = true) ∧
    ∀ before after, scheme = before++"\x7d"++after → '}' ∉ before.toList →
      ∀ raw other, whole.accepts other (whole.encode raw) = true ↔
        ∃ found, encoders.lookup before = some found ∧
          found.accepts other (after++"\x7d"++encoder.encode raw) = true := by
  intro whole
  refine ⟨fun h raw => h.accepts_encode raw, fun hscheme raw other => ?_,
    fun before after hscheme hbefore raw other => ?_⟩
  · rw [delegating_accepts_encode hlookup hscheme]
  · rw [delegating_accepts_braced hlookup hscheme hbefore, Option.any_eq_true]

def schemes : List (String × Encoder) := [("noop", .plain), ("sha256", .digest)]

def nested : List (String × Encoder) :=
  [("guests", .plain), ("users", .delegating "sha256" schemes)]

theorem nested_passwords_read :
    (Encoder.delegating "users" nested).accepts " \x7bpass\x7dword"
        ((Encoder.delegating "users" nested).encode " \x7bpass\x7dword") = true ∧
      ((Encoder.delegating "users" nested).accepts "pass"
          ((Encoder.delegating "users" nested).encode " \x7bpass\x7dword") = true ↔
        digestText "pass" = digestText " \x7bpass\x7dword") := by
  have hdigest : schemes.lookup "sha256" = some .digest := rfl
  have husers : nested.lookup "users" = some (.delegating "sha256" schemes) := rfl
  have hlegible : Legible (.delegating "users" nested) :=
    .delegating husers (by decide) (.delegating hdigest (by decide) .digest)
  obtain ⟨hread, hscheme, -⟩ := encoded_read_by_scheme husers
  refine ⟨hread hlegible _, ?_⟩
  rw [hscheme (by decide), (encoded_read_by_scheme hdigest).2.1 (by decide)]
  exact digest_accepts_iff_same

/-! ## Names with a closing brace -/

/-- Every delegating encoder in it has an encoder for its own scheme. -/
inductive Complete : Encoder → Prop
  | plain : Complete .plain
  | digest : Complete .digest
  | delegating {scheme : String} {encoders : List (String × Encoder)} {encoder : Encoder}
      (hlookup : encoders.lookup scheme = some encoder)
      (h : ∀ entry ∈ encoders, Complete entry.2) : Complete (.delegating scheme encoders)

def disguised : List (String × Encoder) :=
  [("d\x7d\x7bsha256", .plain), ("d", .delegating "sha256" [("sha256", .digest)])]

theorem disguised_complete : Complete (.delegating "d\x7d\x7bsha256" disguised) := by
  have hinner : Complete (.delegating "sha256" [("sha256", .digest)]) := by
    refine .delegating rfl fun entry he => ?_
    rw [List.mem_singleton.mp he]
    exact .digest
  refine .delegating rfl fun entry he => ?_
  rcases List.mem_cons.mp he with rfl | he
  · exact .plain
  · rw [List.mem_singleton.mp he]
    exact hinner

theorem disguised_accepts (raw : String) :
    (Encoder.delegating "d\x7d\x7bsha256" disguised).accepts raw
      ((Encoder.delegating "d\x7d\x7bsha256" disguised).encode (digestText raw)) = true := by
  have hown : disguised.lookup "d\x7d\x7bsha256" = some .plain := rfl
  have hinner : disguised.lookup "d" = some (.delegating "sha256" [("sha256", .digest)]) := rfl
  have hscheme : "d\x7d\x7bsha256" = "d"++"\x7d"++"\x7bsha256" := by decide
  -- Behind the name `d`, the rest of the longer name is a name in braces itself.
  have hbraces : "\x7bsha256"++"\x7d" = inBraces "sha256" := by decide
  rw [delegating_accepts_braced hown hscheme (by decide), hinner, Option.any_some, hbraces,
    delegating_accepts _ (by decide)]
  exact digest_accepts_iff_same.mpr rfl

theorem digestText_ne_blank (raw : String) : digestText raw ≠ " " := by
  intro h
  have hblank : ' ' ∈ (digestText raw).toList := by simp [h]
  exact absurd (not_isBlank_hexLower hblank) (by decide)

/-- Passwords under such a name may not be accepted, and others may be. -/
theorem not_every_scheme_read :
    (¬∀ encoder, Complete encoder → ∀ raw, encoder.accepts raw (encoder.encode raw) = true) ∧
    ¬∀ scheme encoders encoder, Complete (.delegating scheme encoders) →
      encoders.lookup scheme = some encoder → ∀ raw other,
      (Encoder.delegating scheme encoders).accepts other
        ((Encoder.delegating scheme encoders).encode raw) = true →
      encoder.accepts other (encoder.encode raw) = true := by
  constructor
  · intro hread
    have hlookup : [("a\x7db", Encoder.plain)].lookup "a\x7db" = some .plain := rfl
    have hcomplete : Complete (.delegating "a\x7db" [("a\x7db", .plain)]) := by
      refine .delegating hlookup fun entry he => ?_
      rw [List.mem_singleton.mp he]
      exact .plain
    have hscheme : "a\x7db" = "a"++"\x7d"++"b" := by decide
    have haccepts := hread _ hcomplete "password"
    rw [delegating_accepts_braced hlookup hscheme (by decide)] at haccepts
    revert haccepts
    decide
  · intro hread
    have haccepts := hread _ _ .plain disguised_complete rfl _ " " (disguised_accepts " ")
    exact digestText_ne_blank " " (plain_accepts_iff.mp haccepts).symm

end WebApplication.Access
