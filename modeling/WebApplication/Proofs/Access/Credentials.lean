import WebApplication.Access.Chain
import WebApplication.Proofs.Encoding.Base64
import WebApplication.Proofs.Http.Headers
import WebApplication.Proofs.Text.Split
import WebApplication.Proofs.Text.Trim

/-!
# Basic credentials

A header that says `basic` in any letter case, and then a user without a colon and a password in
Base64, is read as exactly that user and that password. Whatever is read stands in the header so.
-/

set_option autoImplicit false

namespace WebApplication.Access

open Encoding
open Http (Headers bytesOf)

def authorization (scheme : String) (spaces : Nat) (user password : String) : String :=
  scheme++String.ofList (List.replicate spaces ' ')++
    String.ofList (Base64.encode (bytesOf (user++":"++password)))

/-! ## The scheme -/

section Scheme

variable {scheme : String}

theorem printable_of_toLower {c : Char} (h : 32 < c.toLower.toNat ∧ c.toLower.toNat < 127) :
    32 < c.toNat ∧ c.toNat < 127 := by
  by_cases hupper : c.val ≥ 'A'.val ∧ c.val ≤ 'Z'.val
  · have hrange : 65 ≤ c.toNat ∧ c.toNat ≤ 90 := by
      simpa [UInt32.le_iff_toNat_le] using hupper
    omega
  · have hsame : c.toLower = c := dif_neg hupper
    rwa [hsame] at h

theorem printable_of_mem_scheme (h : Text.lowerAscii scheme = "basic") {c : Char}
    (hc : c ∈ scheme.toList) : 32 < c.toNat ∧ c.toNat < 127 := by
  have hlower : c.toLower ∈ "basic".toList := by
    rw [← h, Text.lowerAscii, String.toList_ofList]
    exact List.mem_map_of_mem hc
  have hbasic : ∀ d ∈ "basic".toList, 32 < d.toNat ∧ d.toNat < 127 := by simp
  exact printable_of_toLower (hbasic _ hlower)

theorem space_notMem_scheme (h : Text.lowerAscii scheme = "basic") : ' ' ∉ scheme.toList := by
  intro hspace
  have hprintable := printable_of_mem_scheme h hspace
  exact absurd hprintable.1 (by decide)

end Scheme

/-! ## Reading -/

variable {headers : Headers} {user password : String}

theorem basicCredentials_eq_some_iff :
    basicCredentials headers = some (user, password) ↔
      ∃ scheme rest, headers.text? "authorization" = some (scheme++" "++rest) ∧
        Text.lowerAscii scheme = "basic" ∧ ':' ∉ user.toList ∧
        Base64.decode? (Text.trimChars rest.toList) = some (bytesOf (user++":"++password)) := by
  simp only [basicCredentials, bind, Option.bind_eq_some_iff, Prod.exists, Text.cutAt_eq_some_iff,
    Option.ite_none_right_eq_some, Http.textOf?_eq_some_iff]
  constructor
  · rintro ⟨value, hvalue, scheme, rest, ⟨-, rfl⟩, hscheme, bytes, hbytes, text, rfl, huser, rfl⟩
    exact ⟨scheme, rest, hvalue, hscheme, huser, hbytes⟩
  · rintro ⟨scheme, rest, hvalue, hscheme, huser, hbytes⟩
    exact ⟨_, hvalue, scheme, rest, ⟨space_notMem_scheme hscheme, rfl⟩, hscheme, _, hbytes, _, rfl,
      huser, rfl⟩

/-! ## Writing -/

theorem printable_authorization {scheme : String} (h : Text.lowerAscii scheme = "basic")
    (spaces : Nat) (user password : String) :
    ∀ c ∈ (authorization scheme spaces user password).toList, 32 ≤ c.toNat ∧ c.toNat < 127 := by
  intro c hc
  simp only [authorization, String.toList_append, String.toList_ofList, List.mem_append] at hc
  rcases hc with (hc | hc) | hc
  · have hprintable := printable_of_mem_scheme h hc
    omega
  · rw [List.eq_of_mem_replicate hc]
    decide
  · have hprintable := Base64.printable_of_mem_encode hc
    omega

theorem authorization_succ (scheme : String) (spaces : Nat) (user password : String) :
    authorization scheme (spaces+1) user password = scheme++" "++
      String.ofList (List.replicate spaces ' '++Base64.encode (bytesOf (user++":"++password))) := by
  rw [← String.toList_inj]
  simp [authorization, List.replicate_succ]

theorem trimChars_spaced (spaces : Nat) (bytes : Http.Bytes) :
    Text.trimChars (List.replicate spaces ' '++Base64.encode bytes) = Base64.encode bytes := by
  have hblank : ∀ c ∈ List.replicate spaces ' ', Text.isBlank c = true := by
    intro c hc
    rw [List.eq_of_mem_replicate hc]
    rfl
  have hdigits : ∀ c ∈ Base64.encode bytes, Text.isBlank c = false := by
    intro c hc
    have hprintable := Base64.printable_of_mem_encode hc
    simp only [Text.isBlank, Bool.or_eq_false_iff, Bool.and_eq_false_iff, decide_eq_false_iff_not,
      beq_eq_false_iff_ne]
    omega
  have hbetween := Text.trimChars_between hblank (List.forall_mem_nil _) (Base64.encode bytes)
  rw [List.append_nil] at hbetween
  rw [hbetween, Text.trimChars_of_unblank hdigits]

/-- What is written is read, and what is read stands there, up to blanks around the Base64. -/
theorem credentials_decoded_exactly (headers : Headers) (user password : String) :
    (':' ∉ user.toList → ∀ scheme spaces, Text.lowerAscii scheme = "basic" → 0 < spaces →
      headers.get? "authorization" = some (bytesOf (authorization scheme spaces user password)) →
      basicCredentials headers = some (user, password)) ∧
    (basicCredentials headers = some (user, password) ↔
      ∃ scheme rest, headers.text? "authorization" = some (scheme++" "++rest) ∧
        ' ' ∉ scheme.toList ∧ Text.lowerAscii scheme = "basic" ∧ ':' ∉ user.toList ∧
        Base64.decode? (Text.trimChars rest.toList) = some (bytesOf (user++":"++password))) := by
  constructor
  · -- The first space ends the scheme, and trimming takes the others.
    intro huser scheme spaces hscheme hspaces hheader
    obtain ⟨more, rfl⟩ := Nat.exists_eq_add_one.mpr hspaces
    have htext := Headers.text?_of_printable
      (printable_authorization hscheme (more+1) user password) hheader
    rw [authorization_succ] at htext
    rw [basicCredentials_eq_some_iff]
    refine ⟨scheme, _, htext, hscheme, huser, ?_⟩
    rw [String.toList_ofList, trimChars_spaced, Base64.decode?_encode]
  · rw [basicCredentials_eq_some_iff]
    constructor
    · rintro ⟨scheme, rest, hvalue, hscheme, huser, hbytes⟩
      exact ⟨scheme, rest, hvalue, space_notMem_scheme hscheme, hscheme, huser, hbytes⟩
    · rintro ⟨scheme, rest, hvalue, -, hscheme, huser, hbytes⟩
      exact ⟨scheme, rest, hvalue, hscheme, huser, hbytes⟩

theorem zoe_read :
    ':' ∉ "Zoë".toList ∧ Text.lowerAscii "bAsIc" = "basic" ∧
      basicCredentials [("authorization", bytesOf "bAsIc  Wm/DqzpwOmEgcyA=")] =
        some ("Zoë", "p:a s ") := by
  have huser : ':' ∉ "Zoë".toList := by decide
  have hscheme : Text.lowerAscii "bAsIc" = "basic" := by decide
  have hwritten : authorization "bAsIc" 2 "Zoë" "p:a s " = "bAsIc  Wm/DqzpwOmEgcyA=" := by
    decide +kernel
  have hread := (credentials_decoded_exactly
    [("authorization", bytesOf (authorization "bAsIc" 2 "Zoë" "p:a s "))] "Zoë" "p:a s ").1
    huser "bAsIc" 2 hscheme (by decide) rfl
  rw [hwritten] at hread
  exact ⟨huser, hscheme, hread⟩

end WebApplication.Access
