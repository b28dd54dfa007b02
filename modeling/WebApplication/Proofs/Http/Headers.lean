import WebApplication.Http.Message
import WebApplication.Proofs.Text.Bytes

/-!
# Looking up headers

A header that was put somewhere is found there, and putting it there leaves the values
of all other names alone. A printable text is read from its header.
-/

set_option autoImplicit false

namespace WebApplication.Http

theorem textOf?_eq_some_iff {bytes : Bytes} {text : String} :
    textOf? bytes = some text ↔ bytesOf text = bytes :=
  Text.fromUTF8?_eq_some_iff

namespace Headers

variable {headers others : Headers} {name other : String} {value : Bytes}

theorem get?_append (front back : Headers) (name : String) :
    get? (front++back) name = (front.get? name).or (back.get? name) :=
  List.lookup_append

theorem get?_append_single (h : name ≠ other) :
    get? (headers++[(other, value)]) name = headers.get? name := by
  have hk : (name == other) = false := by simpa using h
  rw [get?_append]
  simp [get?, List.lookup_cons, hk]

theorem get?_filter_ne (h : name ≠ other) :
    get? (headers.filter (·.1 ≠ other)) name = headers.get? name := by
  induction headers with
  | nil => rfl
  | cons header headers ih =>
    obtain ⟨key, old⟩ := header
    by_cases hk : key = other
    · have hn : (name == key) = false := by simpa [hk] using h
      rw [List.filter_cons_of_neg (by simpa using hk), ih]
      simp [get?, List.lookup_cons, hn]
    · rw [List.filter_cons_of_pos (by simpa using hk)]
      simp only [get?, List.lookup_cons] at ih ⊢
      rw [ih]

theorem get?_filter_self : get? (headers.filter (·.1 ≠ name)) name = none := by
  apply List.lookup_eq_none_iff.mpr
  intro header hm
  have hn := (List.mem_filter.mp hm).2
  simpa using fun he : name = header.1 => by simp [he] at hn

theorem get?_put (h : name ≠ other) : get? (headers.put other value) name = headers.get? name := by
  rw [put, get?_append_single h, get?_filter_ne h]

theorem get?_put_self : get? (headers.put name value) name = some value := by
  rw [put, get?_append, get?_filter_self]
  simp [get?]

def without (headers : Headers) (name : String) : Headers := headers.filter (·.1 ≠ name)

theorem get?_without (h : name ≠ other) :
    get? (headers.without other) name = headers.get? name :=
  get?_filter_ne h

theorem without_put : (headers.put name value).without name = headers.without name := by
  simp [put, without]

theorem without_put_ne (h : name ≠ other) :
    (headers.put name value).without other = (headers.without other).put name value := by
  simp [put, without, h, Bool.and_comm]

theorem without_comm :
    (headers.without name).without other = (headers.without other).without name := by
  simp [without, Bool.and_comm]

theorem text?_congr (h : headers.get? name = others.get? name) :
    headers.text? name = others.text? name := by
  rw [text?, text?, h]

/-! ## Printable texts -/

theorem isVisible_of_printable {c : Char} (h : 32 ≤ c.toNat ∧ c.toNat < 127) :
    isVisible c.toUInt8 = true := by
  have hbyte : c.toUInt8.toNat = c.toNat := by
    rw [Char.toUInt8, UInt32.toNat_toUInt8]
    exact Nat.mod_eq_of_lt (show c.toNat < 256 by omega)
  simp [isVisible, UInt8.le_iff_toNat_le, UInt8.lt_iff_toNat_lt, hbyte, h]

theorem text?_of_printable {text : String} (hp : ∀ c ∈ text.toList, 32 ≤ c.toNat ∧ c.toNat < 127)
    (h : headers.get? name = some (bytesOf text)) : headers.text? name = some text := by
  have hascii : bytesOf text = text.toList.map Char.toUInt8 := by
    apply Text.utf8_of_ascii
    intro c hc
    have hbound := hp c hc
    omega
  have hvisible : (bytesOf text).all isVisible = true := by
    rw [hascii, List.all_map, List.all_eq_true]
    exact fun c hc => isVisible_of_printable (hp c hc)
  rw [text?, h]
  dsimp only
  rw [if_pos hvisible, textOf?_eq_some_iff]

end Headers

end WebApplication.Http
