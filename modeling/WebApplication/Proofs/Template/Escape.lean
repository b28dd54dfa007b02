import WebApplication.Template.Engine

/-!
# What variables put into a page

A template without raw variables puts nothing into a page that HTML would take for
markup: besides the texts of the template, all of the page is made of escaped values.
Replacing the entities of these by the characters that they stand for gives back what
the values show.
-/

set_option autoImplicit false

namespace WebApplication.Template

open Json (Value)

/-! ## Entities -/

def entities : List (List Char) :=
  [['&', 'a', 'm', 'p', ';'], ['&', 'l', 't', ';'], ['&', 'g', 't', ';'],
    ['&', 'q', 'u', 'o', 't', ';'], ['&', '#', '3', '9', ';']]

def Unmarked (c : Char) : Prop := c ≠ '<' ∧ c ≠ '>' ∧ c ≠ '"' ∧ c ≠ '\''

/-- Text in which there are neither tags nor quotes, and every ampersand begins an entity. -/
structure Harmless (cs : List Char) : Prop where
  unmarked : ∀ c ∈ cs, Unmarked c
  entity : ∀ front back, cs = front ++ '&' :: back → ∃ e ∈ entities, e <+: '&'::back

def unescape : List Char → List Char
  | '&' :: 'a' :: 'm' :: 'p' :: ';' :: cs => '&' :: unescape cs
  | '&' :: 'l' :: 't' :: ';' :: cs => '<' :: unescape cs
  | '&' :: 'g' :: 't' :: ';' :: cs => '>' :: unescape cs
  | '&' :: 'q' :: 'u' :: 'o' :: 't' :: ';' :: cs => '"' :: unescape cs
  | '&' :: '#' :: '3' :: '9' :: ';' :: cs => '\'' :: unescape cs
  | c::cs => c::unescape cs
  | [] => []

def unescapeHtml (text : String) : String := String.ofList (unescape text.toList)

theorem entities_unmarked : ∀ e ∈ entities, ∀ c ∈ e, Unmarked c := by
  simp [entities, Unmarked]

theorem entities_head : ∀ e ∈ entities, e.head? = some '&' ∧ '&' ∉ e.tail := by
  decide

theorem escapeChar_cases (c : Char) :
    escapeChar c ∈ entities ∨ c ≠ '&' ∧ Unmarked c ∧ escapeChar c = [c] := by
  unfold escapeChar
  by_cases hamp : c = '&'
  · simp [hamp, entities]
  by_cases hlt : c = '<'
  · simp [hlt, entities]
  by_cases hgt : c = '>'
  · simp [hgt, entities]
  by_cases hquot : c = '"'
  · simp [hquot, entities]
  by_cases hapos : c = '\''
  · simp [hapos, entities]
  · simp [hamp, hlt, hgt, hquot, hapos, Unmarked]

theorem harmless_nil : Harmless [] where
  unmarked := by simp
  entity := by simp

theorem Harmless.append {cs others : List Char} (h : Harmless cs) (ho : Harmless others) :
    Harmless (cs++others) where
  unmarked c hc := by
    rcases List.mem_append.mp hc with hc | hc
    · exact h.unmarked c hc
    · exact ho.unmarked c hc
  entity front back he := by
    rcases List.append_eq_append_iff.mp he with ⟨middle, -, hothers⟩ | ⟨middle, hcs, hback⟩
    · exact ho.entity middle back hothers
    · cases middle with
      | nil => exact ho.entity [] back hback.symm
      | cons c middle =>
        injection hback with hc hback
        subst hc hback
        obtain ⟨e, hin, hp⟩ := h.entity front middle hcs
        exact ⟨e, hin, hp.trans (List.prefix_append ('&'::middle) others)⟩

theorem harmless_entity {e : List Char} (he : e ∈ entities) : Harmless e where
  unmarked := entities_unmarked e he
  entity front back h := by
    obtain ⟨-, htail⟩ := entities_head e he
    cases front with
    | nil => exact ⟨e, he, by rw [h]; exact List.prefix_refl _⟩
    | cons c front =>
      rw [h] at htail
      simp at htail

theorem harmless_escapeChar (c : Char) : Harmless (escapeChar c) := by
  rcases escapeChar_cases c with he | ⟨hamp, hc, he⟩
  · exact harmless_entity he
  · rw [he]
    constructor
    · simpa using hc
    · intro front back h
      cases front with
      | nil =>
        injection h with h
        exact absurd h hamp
      | cons c front => simp at h

theorem harmless_escape (cs : List Char) : Harmless (cs.flatMap escapeChar) := by
  induction cs with
  | nil => exact harmless_nil
  | cons c cs ih => exact (harmless_escapeChar c).append ih

theorem unescape_cons {c : Char} (h : c ≠ '&') (cs : List Char) :
    unescape (c::cs) = c::unescape cs := by
  rw [unescape] <;> simp [h]

theorem unescape_escape (cs : List Char) : unescape (cs.flatMap escapeChar) = cs := by
  induction cs with
  | nil => rfl
  | cons c cs ih =>
    rw [List.flatMap_cons]
    by_cases hamp : c = '&'
    · simp [hamp, escapeChar, unescape, ih]
    by_cases hlt : c = '<'
    · simp [hlt, escapeChar, unescape, ih]
    by_cases hgt : c = '>'
    · simp [hgt, escapeChar, unescape, ih]
    by_cases hquot : c = '"'
    · simp [hquot, escapeChar, unescape, ih]
    by_cases hapos : c = '\''
    · simp [hapos, escapeChar, unescape, ih]
    · have he : escapeChar c = [c] := by simp [escapeChar, hamp, hlt, hgt, hquot, hapos]
      rw [he, List.singleton_append, unescape_cons hamp, ih]

theorem harmless_escapeHtml (text : String) : Harmless (escapeHtml text).toList := by
  rw [escapeHtml, String.toList_ofList]
  exact harmless_escape text.toList

theorem unescapeHtml_escapeHtml (text : String) : unescapeHtml (escapeHtml text) = text := by
  rw [unescapeHtml, escapeHtml, String.toList_ofList, unescape_escape, String.ofList_toList]

theorem escapeHtml_append (text other : String) :
    escapeHtml (text++other) = escapeHtml text++escapeHtml other := by
  rw [escapeHtml, String.toList_append, List.flatMap_append, String.ofList_append]
  rfl

theorem escapeHtml_join (texts : List String) :
    escapeHtml (String.join texts) = String.join (texts.map escapeHtml) := by
  induction texts with
  | nil => rfl
  | cons text texts ih =>
    rw [List.map_cons, String.join_cons, String.join_cons, escapeHtml_append, ih]

/-! ## Templates without raw variables -/

mutual

def Node.Escaped : Node → Prop
  | .text _ => True
  | .var _ escaped => escaped = true
  | .block _ _ children => AllEscaped children

def AllEscaped : List Node → Prop
  | [] => True
  | node::nodes => node.Escaped ∧ AllEscaped nodes

end

mutual

def Node.withoutText : Node → Node
  | .text _ => .text ""
  | .var name escaped => .var name escaped
  | .block name inverted children => .block name inverted (withoutTexts children)

def withoutTexts : List Node → List Node
  | [] => []
  | node::nodes => node.withoutText::withoutTexts nodes

end

mutual

def Node.raw : Node → Node
  | .text content => .text content
  | .var name _ => .var name false
  | .block name inverted children => .block name inverted (allRaw children)

def allRaw : List Node → List Node
  | [] => []
  | node::nodes => node.raw::allRaw nodes

end

theorem renderVar_escaped (stack : Stack) (name : String) :
    renderVar stack name true = escapeHtml (renderVar stack name false) := by
  unfold renderVar
  cases lookup stack name <;> rfl

mutual

theorem render_escaped (stack : Stack) : (node : Node) → node.Escaped →
    node.withoutText.render stack = escapeHtml (node.withoutText.raw.render stack)
  | .text _, _ => rfl
  | .var name true, _ => renderVar_escaped stack name
  | .block name inverted children, h => by
    simp only [Node.withoutText, Node.raw, Node.render]
    rw [escapeHtml_join, List.map_map]
    congr 1
    apply List.map_congr_left
    intro inner _
    exact renderNodes_escaped inner children h

theorem renderNodes_escaped (stack : Stack) : (nodes : List Node) → AllEscaped nodes →
    renderNodes stack (withoutTexts nodes) =
      escapeHtml (renderNodes stack (allRaw (withoutTexts nodes)))
  | [], _ => rfl
  | node::nodes, h => by
    rw [withoutTexts, allRaw, renderNodes, renderNodes, escapeHtml_append,
      render_escaped stack node h.1, renderNodes_escaped stack nodes h.2]

end

theorem unescape_renderVar {stack : Stack} {name : String} {value : Value}
    (h : lookup stack name = some value) :
    unescapeHtml (renderVar stack name true) = display value := by
  rw [renderVar_escaped, unescapeHtml_escapeHtml, renderVar, h]
  rfl

theorem renderSource_of_parse {source : String} {nodes : List Node}
    (h : parse source = .ok nodes) (model : Value) :
    renderSource source model = .ok (renderModel nodes model) := by
  rw [renderSource, parseNamed, h]
  rfl

/-- A page of a template without raw variables is harmless but for the texts of the
template. Without them it is the escaped form of what the variables show, which can be
had back from it, for the whole page and for every variable. -/
theorem variables_harmless (source : String) (nodes : List Node)
    (hparse : parse source = .ok nodes) (hescaped : AllEscaped nodes) (model : Value) :
    renderSource source model = .ok (renderModel nodes model) ∧
    Harmless (renderModel (withoutTexts nodes) model).toList ∧
    unescapeHtml (renderModel (withoutTexts nodes) model) =
      renderModel (allRaw (withoutTexts nodes)) model ∧
    ∀ stack name value, lookup stack name = some value →
      unescapeHtml (renderVar stack name true) = display value ∧
      ∀ stack' name' other, lookup stack' name' = some other → display value ≠ display other →
        renderVar stack name true ≠ renderVar stack' name' true := by
  have hpage : renderModel (withoutTexts nodes) model =
      escapeHtml (renderModel (allRaw (withoutTexts nodes)) model) :=
    renderNodes_escaped [model] nodes hescaped
  constructor
  · exact renderSource_of_parse hparse model
  constructor
  · rw [hpage]
    exact harmless_escapeHtml _
  constructor
  · rw [hpage]
    exact unescapeHtml_escapeHtml _
  intro stack name value h
  constructor
  · exact unescape_renderVar h
  · intro stack' name' other ho hne he
    apply hne
    rw [← unescape_renderVar h, he, unescape_renderVar ho]

def greeting : String :=
  "<a title='\x7b\x7bname\x7d\x7d'>\x7b\x7b#tags\x7d\x7d<i>\x7b\x7b.\x7d\x7d</i>\x7b\x7b/tags\x7d\x7d"

def greetingNodes : List Node :=
  [.text "<a title='", .var "name" true, .text "'>",
    .block "tags" false [.text "<i>", .var "." true, .text "</i>"]]

def guest : Value :=
  .object [("name", .string "'Tom' & <Jerry>"),
    ("tags", .array [.string "&lt;", .array [.string "x"]])]

theorem greeting_harmless :
    parse greeting = .ok greetingNodes ∧
    renderModel (withoutTexts greetingNodes) guest =
      "&#39;Tom&#39; &amp; &lt;Jerry&gt;&amp;lt;[&quot;x&quot;]" ∧
    Harmless (renderModel (withoutTexts greetingNodes) guest).toList ∧
    unescapeHtml (renderModel (withoutTexts greetingNodes) guest) =
      "'Tom' & <Jerry>&lt;[\"x\"]" ∧
    renderVar [.string "<"] "." true ≠ renderVar [.string "&lt;"] "." true := by
  have hparse : parse greeting = .ok greetingNodes := by cbv
  have hescaped : AllEscaped greetingNodes :=
    ⟨trivial, rfl, trivial, ⟨trivial, rfl, trivial, trivial⟩, trivial⟩
  have hraw : renderModel (allRaw (withoutTexts greetingNodes)) guest =
      "'Tom' & <Jerry>&lt;[\"x\"]" := by decide +kernel
  obtain ⟨-, hharmless, hback, hvar⟩ :=
    variables_harmless greeting greetingNodes hparse hescaped guest
  have hne : display (.string "<") ≠ display (.string "&lt;") := by decide
  exact ⟨hparse, by decide +kernel, hharmless, hback.trans hraw,
    (hvar [.string "<"] "." _ rfl).2 [.string "&lt;"] "." _ rfl hne⟩

end WebApplication.Template
