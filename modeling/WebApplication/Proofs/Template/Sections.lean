import WebApplication.Proofs.Text.Split
import WebApplication.Template.Engine

/-!
# Blocks and the contexts around them

A name belongs to the innermost context that has its first part, and the other parts are looked
for only in what that context has there. A block and its inverted twin share out what their name
means, so that exactly one of the two is rendered. Written with one stack, onto which a context is
put for as long as it is entered, nodes give the page that they give to the contexts around them,
and leave the stack as it was.
-/

set_option autoImplicit false

namespace WebApplication.Template

open Json (Value)

/-! ## What names mean -/

inductive Leads : Value → List String → Value → Prop
  | here (value : Value) : Leads value [] value
  | member {value member found : Value} {name : String} {names : List String}
      (hmember : value.get? name = some member) (hrest : Leads member names found) :
      Leads value (name::names) found

inductive Resolves : Stack → String → Value → Prop
  | dot (context : Value) (outer : Stack) : Resolves (context::outer) "." context
  | parts {inner outer : Stack} {context found value : Value} {name first : String}
      {rest : List String} (hname : name ≠ ".") (hparts : Text.split '.' name = first::rest)
      (hinner : ∀ c ∈ inner, c.get? first = none) (hfirst : context.get? first = some found)
      (hrest : Leads found rest value) : Resolves (inner++context::outer) name value

theorem leads_iff {value found : Value} {names : List String} :
    Leads value names found ↔ names.foldlM Value.get? value = some found := by
  induction names generalizing value with
  | nil =>
    constructor
    · rintro ⟨⟩
      rfl
    · rintro ⟨⟩
      exact .here _
  | cons name names ih =>
    rw [List.foldlM_cons, Option.bind_eq_bind, Option.bind_eq_some_iff]
    constructor
    · rintro (_ | ⟨hmember, hrest⟩)
      exact ⟨_, hmember, ih.mp hrest⟩
    · rintro ⟨member, hmember, hrest⟩
      exact .member hmember (ih.mpr hrest)

theorem lookup_parts {name first : String} {rest : List String} (hname : name ≠ ".")
    (hparts : Text.split '.' name = first::rest) (stack : Stack) :
    lookup stack name = (stack.findSome? (·.get? first)).bind (rest.foldlM Value.get? ·) := by
  rw [lookup, if_neg hname, hparts]
  rfl

theorem lookup_innermost {inner : Stack} {context found : Value} {name first : String}
    {rest : List String} (hname : name ≠ ".") (hparts : Text.split '.' name = first::rest)
    (hinner : ∀ c ∈ inner, c.get? first = none) (hfirst : context.get? first = some found)
    (outer : Stack) : lookup (inner++context::outer) name = rest.foldlM Value.get? found := by
  have hfound : (inner++context::outer).findSome? (·.get? first) = some found :=
    List.findSome?_eq_some_iff.mpr ⟨inner, context, outer, rfl, hfirst, hinner⟩
  rw [lookup_parts hname hparts, hfound, Option.bind_some]

theorem lookup_eq_some_iff {stack : Stack} {name : String} {value : Value} :
    lookup stack name = some value ↔ Resolves stack name value := by
  constructor
  · intro h
    by_cases hname : name = "."
    · subst hname
      obtain ⟨outer, rfl⟩ := List.head?_eq_some_iff.mp h
      exact .dot value outer
    · obtain ⟨first, rest, hparts⟩ := List.exists_cons_of_ne_nil (Text.split_ne_nil name)
      rw [lookup_parts hname hparts, Option.bind_eq_some_iff] at h
      obtain ⟨found, hfound, hrest⟩ := h
      obtain ⟨inner, context, outer, rfl, hfirst, hinner⟩ := List.findSome?_eq_some_iff.mp hfound
      exact .parts hname hparts hinner hfirst (leads_iff.mpr hrest)
  · intro h
    cases h with
    | dot outer => rfl
    | parts hname hparts hinner hfirst hrest =>
      rw [lookup_innermost hname hparts hinner hfirst]
      exact leads_iff.mp hrest

theorem Resolves.unique {stack : Stack} {name : String} {value other : Value}
    (h : Resolves stack name value) (ho : Resolves stack name other) : value = other :=
  Option.some.inj ((lookup_eq_some_iff.mpr h).symm.trans (lookup_eq_some_iff.mpr ho))

theorem resolves_innermost {inner : Stack} {context found : Value} {name first : String}
    {rest : List String} (hname : name ≠ ".") (hparts : Text.split '.' name = first::rest)
    (hinner : ∀ c ∈ inner, c.get? first = none) (hfirst : context.get? first = some found)
    (outer : Stack) (value : Value) :
    Resolves (inner++context::outer) name value ↔ Leads found rest value := by
  rw [← lookup_eq_some_iff, lookup_innermost hname hparts hinner hfirst, leads_iff]

theorem resolves_dot {stack : Stack} {value : Value} :
    Resolves stack "." value ↔ stack.head? = some value := by
  rw [← lookup_eq_some_iff, lookup, if_pos rfl]

/-! ## How a block and its inverted twin share out a name -/

inductive Blank : Value → Prop
  | null : Blank .null
  | no : Blank (.bool false)
  | text : Blank (.string "")
  | list : Blank (.array [])

/-- The stacks in which a block of a name is rendered, and those for its inverted twin. -/
inductive Shared (stack : Stack) (name : String) : List Stack → List Stack → Prop
  | blank (h : ∀ value, Resolves stack name value → Blank value) : Shared stack name [] [stack]
  | items {items : List Value} (h : Resolves stack name (.array items)) (hitems : items ≠ []) :
      Shared stack name (items.map (·::stack)) []
  | value {value : Value} (h : Resolves stack name value) (hblank : ¬ Blank value)
      (hitems : ∀ items, value ≠ .array items) : Shared stack name [value::stack] []

theorem not_blank_items {items : List Value} (h : items ≠ []) : ¬ Blank (.array items) := by
  rintro ⟨⟩
  exact h rfl

theorem isTruthy_eq_false_iff {value : Value} : isTruthy value = false ↔ Blank value := by
  constructor
  · intro h
    cases value with
    | null => exact .null
    | bool b =>
      cases b with
      | false => exact .no
      | true => cases h
    | string s =>
      have hs : s = "" := by simpa [isTruthy] using h
      exact hs ▸ .text
    | array items =>
      have hitems : items = [] := by simpa [isTruthy] using h
      exact hitems ▸ .list
    | number n => cases h
    | object members => cases h
  · rintro ⟨⟩ <;> rfl

theorem blockStacks_of_blank {stack : Stack} {name : String}
    (h : ∀ value, lookup stack name = some value → Blank value) :
    blockStacks stack name false = [] ∧ blockStacks stack name true = [stack] := by
  cases hfound : lookup stack name with
  | none => simp [blockStacks, hfound]
  | some value =>
    have hblank : Blank value := h value hfound
    have htruthy : isTruthy value = false := isTruthy_eq_false_iff.mpr hblank
    constructor
    · rw [blockStacks, hfound]
      cases hblank <;> rfl
    · simp [blockStacks, hfound, htruthy]

theorem blockStacks_of_not_blank {stack : Stack} {name : String} {value : Value}
    (hfound : lookup stack name = some value) (hblank : ¬ Blank value) :
    blockStacks stack name true = [] ∧
      ((∀ items, value ≠ .array items) → blockStacks stack name false = [value::stack]) := by
  have htruthy : isTruthy value = true := by
    simpa using mt isTruthy_eq_false_iff.mp hblank
  refine ⟨by simp [blockStacks, hfound, htruthy], fun hitems => ?_⟩
  cases value with
  | array items => exact absurd rfl (hitems items)
  | _ => simp [blockStacks, hfound, htruthy]

theorem shared_blockStacks (stack : Stack) (name : String) :
    Shared stack name (blockStacks stack name false) (blockStacks stack name true) := by
  by_cases hall : ∀ value, lookup stack name = some value → Blank value
  · obtain ⟨hnone, hother⟩ := blockStacks_of_blank hall
    rw [hnone, hother]
    exact .blank fun value h => hall value (lookup_eq_some_iff.mpr h)
  · obtain ⟨value, h⟩ := Classical.not_forall.mp hall
    obtain ⟨hfound, hblank⟩ := Classical.not_imp.mp h
    have hresolves : Resolves stack name value := lookup_eq_some_iff.mp hfound
    obtain ⟨hother, hone⟩ := blockStacks_of_not_blank hfound hblank
    rw [hother]
    by_cases hlist : ∃ items, value = .array items
    · obtain ⟨items, rfl⟩ := hlist
      have hitems : items ≠ [] := fun he => hblank (he ▸ .list)
      simpa [blockStacks, hfound] using Shared.items hresolves hitems
    · have hitems : ∀ items, value ≠ .array items := fun items he => hlist ⟨items, he⟩
      rw [hone hitems]
      exact .value hresolves hblank hitems

namespace Shared

variable {stack : Stack} {name : String} {bodies others : List Stack}

theorem eq_of_blank (h : Shared stack name bodies others)
    (hall : ∀ value, Resolves stack name value → Blank value) : bodies = [] ∧ others = [stack] := by
  cases h with
  | blank => exact ⟨rfl, rfl⟩
  | items hr hitems => exact absurd (hall _ hr) (not_blank_items hitems)
  | value hr hblank => exact absurd (hall _ hr) hblank

theorem eq_of_items (h : Shared stack name bodies others) {items : List Value}
    (hr : Resolves stack name (.array items)) (hitems : items ≠ []) :
    bodies = items.map (·::stack) ∧ others = [] := by
  cases h with
  | blank hall => exact absurd (hall _ hr) (not_blank_items hitems)
  | items hother =>
    cases hr.unique hother
    exact ⟨rfl, rfl⟩
  | value hother _ hno => exact absurd (hother.unique hr) (hno items)

theorem eq_of_value (h : Shared stack name bodies others) {value : Value}
    (hr : Resolves stack name value) (hblank : ¬ Blank value)
    (hitems : ∀ items, value ≠ .array items) : bodies = [value::stack] ∧ others = [] := by
  cases h with
  | blank hall => exact absurd (hall _ hr) hblank
  | items hother => exact absurd (hr.unique hother) (hitems _)
  | value hother =>
    cases hr.unique hother
    exact ⟨rfl, rfl⟩

theorem one (h : Shared stack name bodies others) :
    bodies = [] ∧ others = [stack] ∨ bodies ≠ [] ∧ others = [] := by
  cases h with
  | blank => exact .inl ⟨rfl, rfl⟩
  | items _ hitems => exact .inr ⟨by simpa using hitems, rfl⟩
  | value => exact .inr ⟨by simp, rfl⟩

end Shared

theorem renderNodes_twins (stack : Stack) (name : String) (body other : List Node) :
    renderNodes stack [.block name false body, .block name true other] =
      String.join ((blockStacks stack name false).map (renderNodes · body))++
        String.join ((blockStacks stack name true).map (renderNodes · other)) := by
  simp [renderNodes, Node.render]

/-! ## One stack for the whole page -/

/-- A page while it is written, and the contexts around the place that was reached. -/
structure Sheet where
  stack : Stack
  page : String

namespace Sheet

def write (sheet : Sheet) (text : String) : Sheet := { sheet with page := sheet.page++text }

def enter (sheet : Sheet) (context : Value) : Sheet :=
  { sheet with stack := context::sheet.stack }

def leave (sheet : Sheet) : Sheet := { sheet with stack := sheet.stack.tail }

theorem write_empty (sheet : Sheet) : sheet.write "" = sheet := by
  simp [write]

theorem write_write (sheet : Sheet) (text other : String) :
    (sheet.write text).write other = sheet.write (text++other) := by
  simp [write, String.append_assoc]

theorem leave_write_enter (sheet : Sheet) (context : Value) (text : String) :
    ((sheet.enter context).write text).leave = sheet.write text := rfl

end Sheet

mutual

def Node.writeOn : Node → Sheet → Sheet
  | .text content, sheet => sheet.write content
  | .var name escaped, sheet => sheet.write (renderVar sheet.stack name escaped)
  | .block name true children, sheet =>
    if (lookup sheet.stack name).any isTruthy then sheet else writeNodes children sheet
  | .block name false children, sheet =>
    match lookup sheet.stack name with
    | some (.array items) =>
      items.foldl (fun sheet item => (writeNodes children (sheet.enter item)).leave) sheet
    | some value =>
      if isTruthy value then (writeNodes children (sheet.enter value)).leave else sheet
    | none => sheet

def writeNodes : List Node → Sheet → Sheet
  | [], sheet => sheet
  | node::nodes, sheet => writeNodes nodes (node.writeOn sheet)

end

theorem foldl_entered {children : List Node}
    (h : ∀ sheet, writeNodes children sheet = sheet.write (renderNodes sheet.stack children))
    (items : List Value) (sheet : Sheet) :
    items.foldl (fun sheet item => (writeNodes children (sheet.enter item)).leave) sheet =
      sheet.write (String.join (items.map fun item => renderNodes (item::sheet.stack) children)) := by
  induction items generalizing sheet with
  | nil => exact (sheet.write_empty).symm
  | cons item items ih =>
    rw [List.foldl_cons, h, Sheet.leave_write_enter, ih, List.map_cons, String.join_cons,
      Sheet.write_write]
    rfl

mutual

theorem writeOn_eq : (node : Node) → (sheet : Sheet) →
    node.writeOn sheet = sheet.write (node.render sheet.stack)
  | .text content, sheet => rfl
  | .var name escaped, sheet => rfl
  | .block name true children, sheet => by
    rw [Node.writeOn, Node.render, blockStacks]
    by_cases htruthy : (lookup sheet.stack name).any isTruthy = true
    · simp [htruthy, Sheet.write_empty]
    · simp [htruthy, writeNodes_eq children]
  | .block name false children, sheet => by
    have hchildren := writeNodes_eq children
    rw [Node.writeOn, Node.render, blockStacks]
    cases hfound : lookup sheet.stack name with
    | none => simp [Sheet.write_empty]
    | some value =>
      cases value with
      | array items =>
        have hitems := foldl_entered hchildren items sheet
        simpa [List.map_map, Function.comp_def] using hitems
      | _ =>
        dsimp only
        split
        · simp [hchildren, Sheet.enter, Sheet.write, Sheet.leave]
        · simp [Sheet.write_empty]

theorem writeNodes_eq : (nodes : List Node) → (sheet : Sheet) →
    writeNodes nodes sheet = sheet.write (renderNodes sheet.stack nodes)
  | [], sheet => (sheet.write_empty).symm
  | node::nodes, sheet => by
    rw [writeNodes, writeOn_eq node, writeNodes_eq nodes, Sheet.write_write]
    rfl

end

/-! ## Exactly one of two -/

/-- Of a block and its inverted twin exactly one is rendered. The twin is, once and in the
contexts around it, if the name means nothing or something blank; otherwise the block is, once for
each item of a list and once for any other value, with that innermost. After all nodes the stack
is the one before them, and what a name means is settled by the innermost context that has its
first part. -/
theorem blocks_complementary (stack : Stack) (name : String) (body other : List Node) :
    let page := renderNodes stack [.block name false body, .block name true other]
    ((∀ value, Resolves stack name value → Blank value) → page = renderNodes stack other) ∧
    (∀ items, Resolves stack name (.array items) → items ≠ [] →
      page = String.join (items.map fun item => renderNodes (item::stack) body)) ∧
    (∀ value, Resolves stack name value → ¬ Blank value → (∀ items, value ≠ .array items) →
      page = renderNodes (value::stack) body) ∧
    (blockStacks stack name false = [] ∧ blockStacks stack name true = [stack] ∨
      blockStacks stack name false ≠ [] ∧ blockStacks stack name true = []) ∧
    (∀ nodes written, writeNodes nodes ⟨stack, written⟩ =
      ⟨stack, written++renderNodes stack nodes⟩) ∧
    (∀ value, lookup stack name = some value ↔ Resolves stack name value) ∧
    (∀ value, Resolves stack "." value ↔ stack.head? = some value) ∧
    ∀ inner context outer first rest found, name ≠ "." → stack = inner++context::outer →
      Text.split '.' name = first::rest → (∀ c ∈ inner, c.get? first = none) →
      context.get? first = some found →
      ∀ value, Resolves stack name value ↔ Leads found rest value := by
  intro page
  have hpage : page = _ := renderNodes_twins stack name body other
  have hshared := shared_blockStacks stack name
  refine ⟨fun hall => ?_, fun items h hitems => ?_, fun value h hblank hitems => ?_, hshared.one,
    fun nodes written => writeNodes_eq nodes ⟨stack, written⟩, fun _ => lookup_eq_some_iff,
    fun _ => resolves_dot, ?_⟩
  · obtain ⟨hbodies, hothers⟩ := hshared.eq_of_blank hall
    rw [hpage, hbodies, hothers]
    simp
  · obtain ⟨hbodies, hothers⟩ := hshared.eq_of_items h hitems
    rw [hpage, hbodies, hothers]
    simp [Function.comp_def]
  · obtain ⟨hbodies, hothers⟩ := hshared.eq_of_value h hblank hitems
    rw [hpage, hbodies, hothers]
    simp
  · rintro inner context outer first rest found hname rfl hparts hinner hfirst
    exact resolves_innermost hname hparts hinner hfirst outer

def onShelf : Stack :=
  [.object [("author", .object [("born", .string "1815")])],
    .object [("author", .object [("name", .string "Ada")]), ("drafts", .array []),
      ("tags", .array [.string "a", .null])]]

/-- Brackets around each tag, the author of the book instead of the one of the shelf, and nothing
farther out for a name that this author lacks. -/
theorem onShelf_complementary :
    renderNodes onShelf [.block "tags" false [.text "[", .var "." true, .text "]"],
      .block "tags" true [.text "none"]] = "[a][]" ∧
    renderNodes onShelf [.block "drafts" false [.text "drafts"],
      .block "drafts" true [.var "author.born" true]] = "1815" ∧
    renderNodes onShelf [.block "author" false [.var "born" true],
      .block "author" true [.text "none"]] = "1815" ∧
    renderNodes onShelf [.block "author.name" false [.text "named"],
      .block "author.name" true [.text "nameless"]] = "nameless" := by
  have htags : Resolves onShelf "tags" (.array [.string "a", .null]) :=
    lookup_eq_some_iff.mp rfl
  have hdrafts : Resolves onShelf "drafts" (.array []) := lookup_eq_some_iff.mp rfl
  have hauthor : Resolves onShelf "author" (.object [("born", .string "1815")]) :=
    lookup_eq_some_iff.mp rfl
  have hname : ∀ value, ¬ Resolves onShelf "author.name" value := by
    intro value h
    cases lookup_eq_some_iff.mpr h
  refine ⟨?_, ?_, ?_, ?_⟩
  · obtain ⟨-, hitems, -⟩ := blocks_complementary onShelf "tags"
      [.text "[", .var "." true, .text "]"] [.text "none"]
    exact (hitems _ htags (by simp)).trans (by decide +kernel)
  · obtain ⟨hblank, -⟩ := blocks_complementary onShelf "drafts" [.text "drafts"]
      [.var "author.born" true]
    exact (hblank fun value h => h.unique hdrafts ▸ .list).trans (by decide +kernel)
  · obtain ⟨-, -, hvalue, -⟩ := blocks_complementary onShelf "author" [.var "born" true]
      [.text "none"]
    exact (hvalue _ hauthor (by rintro ⟨⟩) (by simp)).trans (by decide +kernel)
  · obtain ⟨hblank, -⟩ := blocks_complementary onShelf "author.name" [.text "named"]
      [.text "nameless"]
    exact (hblank fun value h => absurd h (hname value)).trans (by decide +kernel)

end WebApplication.Template
