import WebApplication.Http.Reply
import WebApplication.Template.Engine

/-!
# Headers of composed responses

A reply keeps the headers that were added to it, in their order, and its ending adds the content
type of the body behind them. So a content type that was added before stays beside it: a response
has one content type just if none was added. A body that cannot be made leaves nothing of the
reply.
-/

set_option autoImplicit false

namespace WebApplication.Http

def Headers.values (headers : Headers) (name : String) : List Bytes :=
  (headers.filter (·.1 = name)).map Prod.snd

theorem Headers.values_append (front back : Headers) (name : String) :
    Headers.values (front++back) name = front.values name++back.values name := by
  simp [values]

namespace Reply

inductive Step where
  | header (name value : String)
  | contentType (value : String)

def Step.apply (r : Reply) : Step → Reply
  | header name value => r.header name value
  | contentType value => r.contentType value

def Step.added : Step → Option (String × Bytes)
  | header name value => (Headers.value? value).map (name, ·)
  | contentType value => (Headers.value? value).map ("content-type", ·)

def compose (status : Nat) (steps : List Step) : Reply := steps.foldl Step.apply (of status)

def accepted (steps : List Step) (name : String) : List Bytes :=
  Headers.values (steps.filterMap Step.added) name

/-- What ends a reply. A page is a template of an engine, rendered with a model. -/
inductive Ending where
  | text (body : String)
  | html (body : String)
  | json (value : Encoded)
  | page (engine : Template.Settings) (files : Storage.Files) (cache : Template.Cache)
      (name : String) (model : Encoded)

def rendered (engine : Template.Settings) (files : Storage.Files) (cache : Template.Cache)
    (name : String) : Encoded → Except String String
  | .ok model => (engine.render files name model cache).1.mapError Template.Error.message
  | .error cause => .error cause.message

def Ending.finish (r : Reply) : Ending → Response
  | text body => r.text body
  | html body => r.html body
  | json value => r.json value
  | page engine files cache name model => r.page (rendered engine files cache name model)

def Ending.content : Ending → Except String (String × Bytes)
  | text body => .ok ("text/plain; charset=utf-8", bytesOf body)
  | html body => .ok ("text/html; charset=utf-8", bytesOf body)
  | json (.ok value) => .ok ("application/json", bytesOf value.write)
  | json (.error _) => .error "Failed to encode response"
  | page engine files cache name model =>
    match rendered engine files cache name model with
    | .ok filled => .ok ("text/html; charset=utf-8", bytesOf filled)
    | .error _ => .error "Failed to render template"

variable {r : Reply} {ending : Ending} {message contentType : String} {body : Bytes}

/-! ## Adding headers -/

theorem header_eq (r : Reply) (name value : String) :
    r.header name value =
      ⟨r.status, r.headers++((Headers.value? value).map (name, ·)).toList⟩ := by
  rw [header]
  cases Headers.value? value <;> simp

theorem apply_eq (r : Reply) (step : Step) :
    step.apply r = ⟨r.status, r.headers++step.added.toList⟩ := by
  cases step with
  | header name value => exact header_eq r name value
  | contentType value => exact header_eq r "content-type" value

theorem foldl_apply (r : Reply) (steps : List Step) :
    steps.foldl Step.apply r = ⟨r.status, r.headers++steps.filterMap Step.added⟩ := by
  induction steps generalizing r with
  | nil => simp
  | cons step steps ih =>
    rw [List.foldl_cons, ih, apply_eq]
    cases hadded : step.added <;> simp [hadded]

theorem compose_eq (status : Nat) (steps : List Step) :
    compose status steps = ⟨status, steps.filterMap Step.added⟩ :=
  foldl_apply (of status) steps

/-! ## Ending -/

theorem contentType_withBody (r : Reply) (body : Bytes) (h : contentType ∈
    ["text/plain; charset=utf-8", "text/html; charset=utf-8", "application/json"]) :
    (r.contentType contentType).withBody body =
      ⟨r.status, r.headers++[("content-type", bytesOf contentType)], body⟩ := by
  have hvalue : Headers.value? contentType = some (bytesOf contentType) := by
    simp only [List.mem_cons, List.not_mem_nil, or_false] at h
    rcases h with rfl | rfl | rfl <;> decide +kernel
  rw [Reply.contentType, header_eq, hvalue]
  rfl

theorem finish_ok (h : ending.content = .ok (contentType, body)) :
    ending.finish r = ⟨r.status, r.headers++[("content-type", bytesOf contentType)], body⟩ := by
  cases ending with
  | text written =>
    cases h
    exact contentType_withBody r _ (by simp [Response.plainText])
  | html written =>
    cases h
    exact contentType_withBody r _ (by simp)
  | json value =>
    cases value with
    | ok value =>
      cases h
      exact contentType_withBody r _ (by simp)
    | error cause => cases h
  | page engine files cache name model =>
    rw [Ending.content] at h
    rw [Ending.finish]
    cases hpage : rendered engine files cache name model with
    | ok filled =>
      rw [hpage] at h
      cases h
      exact contentType_withBody r _ (by simp)
    | error cause =>
      rw [hpage] at h
      cases h

theorem finish_error (h : ending.content = .error message) :
    ending.finish r = Response.ofText 500 message := by
  cases ending with
  | text | html => cases h
  | json value =>
    cases value with
    | ok value => cases h
    | error cause =>
      cases h
      rfl
  | page engine files cache name model =>
    rw [Ending.content] at h
    rw [Ending.finish]
    cases hpage : rendered engine files cache name model with
    | ok filled =>
      rw [hpage] at h
      cases h
    | error cause =>
      rw [hpage] at h
      cases h
      rfl

/-- Every header that was added and not left out is in the response as often as it was added and in
that order, and behind the content types among them stands that of the body. So there is just one
content type if none of them was added. If the body cannot be made the response is a plain one,
whatever was added. -/
theorem content_types_kept (status : Nat) (steps : List Step) (ending : Ending) :
    let response := ending.finish (compose status steps)
    (∀ contentType body, ending.content = .ok (contentType, body) →
      response.status = status ∧ response.body = body ∧
      response.headers.values "content-type" =
        accepted steps "content-type"++[bytesOf contentType] ∧
      ((response.headers.values "content-type").length = 1 ↔
        accepted steps "content-type" = []) ∧
      ∀ name, name ≠ "content-type" → response.headers.values name = accepted steps name) ∧
    ∀ message, ending.content = .error message → response = Response.ofText 500 message := by
  intro response
  refine ⟨fun contentType body h => ?_, fun message h => finish_error h⟩
  have hresponse : response = ⟨status, steps.filterMap Step.added++
      [("content-type", bytesOf contentType)], body⟩ := by
    rw [show response = _ from finish_ok h, compose_eq]
  have htypes : response.headers.values "content-type" =
      accepted steps "content-type"++[bytesOf contentType] := by
    rw [hresponse, Headers.values_append]
    simp [accepted, Headers.values]
  refine ⟨by rw [hresponse], by rw [hresponse], htypes, ?_, fun name hname => ?_⟩
  · rw [htypes]
    simp
  · rw [hresponse, Headers.values_append]
    simp [accepted, Headers.values, Ne.symm hname]

def tagged : List Step :=
  [.header "x-tag" "a", .contentType "text/csv", .header "x-tag" "no\nvalue", .header "x-tag" "b"]

theorem tagged_keeps_both_types :
    let response := Ending.finish (compose 201 tagged) (.json (.ok .null))
    response.status = 201 ∧ response.body = bytesOf "null" ∧
    response.headers.values "content-type" = [bytesOf "text/csv", bytesOf "application/json"] ∧
    response.headers.values "x-tag" = [bytesOf "a", bytesOf "b"] ∧
    Ending.finish (compose 201 tagged) (.json (.error .keyNotText)) =
      Response.ofText 500 "Failed to encode response" := by
  intro response
  have hnull : bytesOf (Json.Value.write .null) = bytesOf "null" := by decide +kernel
  have htypes : accepted tagged "content-type" = [bytesOf "text/csv"] := by decide +kernel
  have htags : accepted tagged "x-tag" = [bytesOf "a", bytesOf "b"] := by decide +kernel
  obtain ⟨hstatus, hbody, hboth, -, hothers⟩ :=
    (content_types_kept 201 tagged (.json (.ok .null))).1 _ _ rfl
  refine ⟨hstatus, hbody.trans hnull, ?_, ?_, ?_⟩
  · rw [hboth, htypes]
    rfl
  · rw [hothers "x-tag" (by decide), htags]
  · exact (content_types_kept 201 tagged (.json (.error .keyNotText))).2 _ rfl

/-- A response may have two content types. -/
theorem not_one_content_type :
    ¬∀ status steps ending contentType body, Ending.content ending = .ok (contentType, body) →
      ((ending.finish (compose status steps)).headers.values "content-type").length = 1 := by
  intro hone
  have hlength := hone 200 [.contentType "text/csv"] (.text "a,b") _ _ rfl
  revert hlength
  decide +kernel

end Reply

end WebApplication.Http
