import WebApplication.Proofs.Text.Split
import WebApplication.Server.Service

/-!
# The codec gate and the readers of bodies

A reader refuses a content type unless its codec is there and reads that type. The gate before the
handlers lets through what some reader would not refuse, and if a server lists its codecs, it lets
through nothing else that has a readable content type. Both look at the media type alone.
-/

set_option autoImplicit false

namespace WebApplication.Http

/-! ## Media types -/

def mediaOf (contentType : String) : String :=
  Text.lowerAscii (Text.trim ((Text.split ';' contentType).head?.getD ""))

theorem essence_eq (contentType : String) : essence contentType = (mediaOf contentType).toList := by
  simp [essence, mediaOf, Text.split, Text.head?_splitChars, Text.trim, Text.lowerAscii]

theorem supports_congr {a b : String} (h : mediaOf a = mediaOf b) (kind : Codec) :
    kind.supports a = kind.supports b := by
  cases kind with
  | text => rw [Codec.supports, Codec.supports, essence_eq, essence_eq, h]
  | json => rw [Codec.supports, Codec.supports, essence_eq, essence_eq, h]

theorem supports_empty (kind : Codec) : kind.supports "" = false := by
  cases kind <;> rfl

/-! ## Readers -/

def IsUnsupported {α : Type} (result : Except CodecError α) : Prop :=
  ∃ contentType, result = .error (.unsupported contentType)

theorem isUnsupported_bind_iff {α β : Type} {result : Except CodecError α}
    {next : α → Except CodecError β} (h : ∀ value, ¬IsUnsupported (next value)) :
    IsUnsupported (result >>= next) ↔ IsUnsupported result := by
  cases result with
  | ok value =>
    refine iff_of_false (h value) ?_
    rintro ⟨_, he⟩
    cases he
  | error e => simp [IsUnsupported, bind, Except.bind]

namespace Codecs

variable {c : Codecs} {kind : Codec} {request : Request} {headers : Headers}

def suits (c : Codecs) (kind : Codec) (headers : Headers) : Bool :=
  c.enabled kind && kind.supports (contentType headers)

theorem body_unsupported_iff :
    IsUnsupported (c.body kind request) ↔ c.suits kind request.headers = false := by
  -- A body that is too long has passed the check of its content type.
  rw [body, suits, IsUnsupported]
  by_cases hs : (c.enabled kind && kind.supports (contentType request.headers)) = true
  · by_cases hl : c.limitFor request < request.body.length <;> simp [hs, hl]
  · simp [hs]

theorem readJson_unsupported_iff :
    IsUnsupported (c.readJson request) ↔ c.suits .json request.headers = false := by
  rw [readJson, isUnsupported_bind_iff, body_unsupported_iff]
  rintro bytes ⟨_, he⟩
  split at he <;> cases he

theorem readShaped_unsupported_iff {shape : Schema.Shape} :
    IsUnsupported (c.readShaped shape request) ↔ c.suits .json request.headers = false := by
  rw [readShaped, isUnsupported_bind_iff, body_unsupported_iff]
  rintro bytes ⟨_, he⟩
  split at he <;> cases he

theorem readText_unsupported_iff :
    IsUnsupported (c.readText request) ↔ c.suits .text request.headers = false := by
  rw [readText, isUnsupported_bind_iff, body_unsupported_iff]
  rintro bytes ⟨_, he⟩
  split at he <;> cases he

/-! ## The gate -/

theorem text?_of_suits (h : c.suits kind headers = true) :
    ∃ contentType, headers.text? "content-type" = some contentType ∧
      kind.supports contentType = true := by
  rw [suits, Bool.and_eq_true, contentType] at h
  cases ht : headers.text? "content-type" with
  | none =>
    rw [ht, Option.getD_none, supports_empty] at h
    exact absurd h.2 Bool.false_ne_true
  | some contentType =>
    rw [ht] at h
    exact ⟨contentType, rfl, h.2⟩

theorem accepts_of_suits (h : c.suits kind headers = true) : c.accepts headers = true := by
  obtain ⟨contentType, ht, hs⟩ := text?_of_suits h
  have he := (Bool.and_eq_true_iff.mp h).1
  rw [accepts, ht]
  simp only [enabled, supports, Bool.or_eq_true, List.any_eq_true, List.contains_iff_mem] at he ⊢
  exact he.imp_right fun hk => ⟨kind, hk, hs⟩

theorem suits_of_accepts (hk : c.kinds ≠ []) (ht : (headers.text? "content-type").isSome = true)
    (h : c.accepts headers = true) : ∃ kind, c.suits kind headers = true := by
  obtain ⟨found, hf⟩ := Option.isSome_iff_exists.mp ht
  rw [accepts, hf] at h
  simp only [supports, Bool.or_eq_true, List.isEmpty_iff, hk, false_or, List.any_eq_true] at h
  obtain ⟨kind, hm, hs⟩ := h
  refine ⟨kind, ?_⟩
  simp [suits, enabled, contentType, hf, hm, hs]

section Alike

variable {others : Headers}
  (h : (headers.text? "content-type").map mediaOf = (others.text? "content-type").map mediaOf)

include h

theorem accepts_congr : c.accepts headers = c.accepts others := by
  rw [accepts, accepts]
  cases ha : headers.text? "content-type" with
  | none =>
    rw [ha, Option.map_none, eq_comm, Option.map_eq_none_iff] at h
    rw [h]
  | some a =>
    rw [ha, Option.map_some, eq_comm, Option.map_eq_some_iff] at h
    obtain ⟨b, hb, hmedia⟩ := h
    simp only [hb, supports, supports_congr hmedia]

theorem suits_congr : c.suits kind headers = c.suits kind others := by
  have hmedia : mediaOf (contentType headers) = mediaOf (contentType others) := by
    rw [contentType, contentType, ← Option.getD_map mediaOf, ← Option.getD_map mediaOf, h]
  rw [suits, suits, supports_congr hmedia]

end Alike

end Codecs

end WebApplication.Http

namespace WebApplication.Server

open Http (Codecs IsUnsupported Request mediaOf)

theorem target_error_status {σ : Type} {s : Service σ} {request : Request}
    {rejection : Http.Response} (h : s.codecs.accepts request.headers = true)
    (he : s.target request = .error rejection) : rejection.status = 404 := by
  rw [Service.target] at he
  split at he
  · cases he
    rfl
  · rw [if_pos h] at he
    cases he

/-- What some reader would decode passes the gate, so that no route is refused for its codec. What
passes the gate of listed codecs, and says what it is, gets past the check of some reader. -/
theorem gate_agrees_with_readers (c : Codecs) :
    (∀ request, (¬IsUnsupported (c.readJson request) ∨
        (∃ shape, ¬IsUnsupported (c.readShaped shape request)) ∨
        ¬IsUnsupported (c.readText request)) →
      c.accepts request.headers = true ∧
        ∀ (σ : Type) (s : Service σ), s.codecs = c → ∀ rejection,
          s.target request = .error rejection → rejection.status = 404) ∧
    (∀ request, c.kinds ≠ [] → (request.headers.text? "content-type").isSome = true →
      c.accepts request.headers = true →
      (¬IsUnsupported (c.readJson request) ∧
        ∀ shape, ¬IsUnsupported (c.readShaped shape request)) ∨
        ¬IsUnsupported (c.readText request)) ∧
    ∀ a b : Request, (a.headers.text? "content-type").map mediaOf =
        (b.headers.text? "content-type").map mediaOf →
      c.accepts a.headers = c.accepts b.headers ∧
        (IsUnsupported (c.readJson a) ↔ IsUnsupported (c.readJson b)) ∧
        (∀ shape, IsUnsupported (c.readShaped shape a) ↔ IsUnsupported (c.readShaped shape b)) ∧
        (IsUnsupported (c.readText a) ↔ IsUnsupported (c.readText b)) := by
  simp only [Codecs.readJson_unsupported_iff, Codecs.readShaped_unsupported_iff,
    Codecs.readText_unsupported_iff, Bool.not_eq_false]
  refine ⟨fun request hread => ?_, fun request hkinds htype haccepts => ?_, fun a b hmedia => ?_⟩
  · have haccepts : c.accepts request.headers = true := by
      rcases hread with hjson | ⟨-, hjson⟩ | htext
      · exact Codecs.accepts_of_suits hjson
      · exact Codecs.accepts_of_suits hjson
      · exact Codecs.accepts_of_suits htext
    refine ⟨haccepts, fun σ s hs rejection hrejection => ?_⟩
    exact target_error_status (hs ▸ haccepts) hrejection
  · obtain ⟨kind, hsuits⟩ := Codecs.suits_of_accepts hkinds htype haccepts
    cases kind with
    | text => exact .inr hsuits
    | json => exact .inl ⟨hsuits, fun _ => hsuits⟩
  · rw [Codecs.accepts_congr hmedia, Codecs.suits_congr hmedia, Codecs.suits_congr hmedia]
    simp

def report (contentType : String) : Request :=
  .ofParts "POST" "/reports" [("content-type", Http.bytesOf contentType)] (Http.bytesOf "null")

theorem report_read_alike :
    let c : Codecs := ⟨[.json], 1024⟩
    c.accepts (report "application/json").headers = true ∧
      ¬IsUnsupported (c.readJson (report "application/json")) ∧
      c.accepts (report " Application/JSON ;charset=utf-8").headers = true := by
  intro c
  have htype : ((report "application/json").headers.text? "content-type").isSome = true := by
    decide +kernel
  have haccepts : c.accepts (report "application/json").headers = true := by decide +kernel
  have htext : IsUnsupported (c.readText (report "application/json")) :=
    Codecs.readText_unsupported_iff.mpr rfl
  have hmedia : ((report "application/json").headers.text? "content-type").map mediaOf =
      ((report " Application/JSON ;charset=utf-8").headers.text? "content-type").map mediaOf := by
    decide +kernel
  obtain ⟨hpasses, hreads, hsame⟩ := gate_agrees_with_readers c
  have hjson : ¬IsUnsupported (c.readJson (report "application/json")) := by
    rcases hreads _ (List.cons_ne_nil _ _) htype haccepts with hjson | hread
    · exact hjson.1
    · exact absurd htext hread
  refine ⟨(hpasses _ (.inl hjson)).1, hjson, ?_⟩
  rw [← (hsame _ _ hmedia).1, haccepts]

end WebApplication.Server
