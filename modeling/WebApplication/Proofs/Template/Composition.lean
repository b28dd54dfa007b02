import WebApplication.Proofs.Template.Printing

/-!
# Sources behind one another

What stands behind a source that was parsed changes nothing of how that source was cut: its
tags end where they ended, and no block of it is open at its end. Only a text at the end of
the first source and one at the beginning of the second become one token. So the page of both
is the one page behind the other, unless an opening mark is made of their last and first
braces.
-/

set_option autoImplicit false

namespace WebApplication.Template

open Json (Value)

/-! ## The first tokens stay -/

/-- Tokens of two sources, and those of the one behind the other: the same, but for two texts
that touch and become one. -/
inductive Meet : List Token → List Token → List Token → Prop
  | apart (ts us : List Token) : Meet ts us (ts++us)
  | texts (ts us : List Token) (a b : String) :
      Meet (ts++[.text a]) (.text b::us) (ts++.text (a++b)::us)

theorem Meet.append {ts us both : List Token} (h : Meet ts us both) (front : List Token) :
    Meet (front++ts) us (front++both) := by
  cases h with
  | apart =>
    rw [← List.append_assoc]
    exact .apart (front++ts) us
  | texts ts us a b =>
    rw [← List.append_assoc, ← List.append_assoc]
    exact .texts (front++ts) us a b

theorem meet_join (content : String) (us : List Token) :
    Meet [.text content] us (Token.join (.text content) us) := by
  cases us with
  | nil => exact .apart [.text content] []
  | cons u us =>
    cases u with
    | text other => exact .texts [] us content other
    | _ => exact .apart [.text content] _

theorem breakAt_append {mark cs before after : List Char} (hm : mark ≠ [])
    (h : breakAt mark cs = some (before, after)) (back : List Char) :
    breakAt mark (cs++back) = some (before, after++back) := by
  obtain ⟨rfl, hu⟩ := unmarked_before hm h
  rw [List.append_assoc]
  exact breakAt_of_unmarked_before hu hm

/-- A tag that ends is the same with more behind it. -/
theorem tagAfter_append {after rest : List Char} {token : Token}
    (h : tagAfter after = (token, some rest)) (back : List Char) :
    tagAfter (after++back) = (token, some (rest++back)) := by
  unfold tagAfter at h
  split at h
  · split at h
    · rename_i hb
      obtain ⟨rfl, hrest⟩ := Prod.mk.inj h
      cases Option.some.inj hrest
      simp only [List.cons_append, tagAfter, breakAt_append (by decide) hb back]
    · cases h
  · rename_i hne
    split at h
    · rename_i hb
      obtain ⟨rfl, hrest⟩ := Prod.mk.inj h
      cases Option.some.inj hrest
      rw [tagAfter, breakAt_append (by decide) hb back]
      -- the tag is not empty, so that its first character is still the first
      intro raw he
      cases after with
      | nil => cases hb
      | cons c after => exact hne after (by rw [(List.cons.inj he).1])
    · cases h

theorem suffix_of_tagAfter {after rest : List Char} {token : Token}
    (h : tagAfter after = (token, some rest)) : rest <:+ after := by
  have hbroken : ∀ {mark cs before}, mark ≠ [] → breakAt mark cs = some (before, rest) →
      rest <:+ cs := by
    intro mark cs before hm hb
    rw [(unmarked_before hm hb).1]
    exact List.suffix_append _ rest
  unfold tagAfter at h
  split at h
  · split at h
    · rename_i hb
      cases h
      exact (hbroken (by decide) hb).trans (List.suffix_cons _ _)
    · cases h
  · split at h
    · rename_i hb
      cases h
      exact hbroken (by decide) hb
    · cases h

theorem flaw_of_tagAfter {after : List Char} {token : Token} (h : tagAfter after = (token, none)) :
    ∃ flaw, token = .flaw flaw := by
  unfold tagAfter at h
  split at h <;> split at h <;> cases h <;> exact ⟨_, rfl⟩

/-- A source of which every tag ends is cut as before, whatever stands behind it. -/
theorem tokens_append (front : List Char) {back : List Char} (hb : ¬ MakeMark front back)
    (hf : ∀ flaw, .flaw flaw ∉ tokens front) :
    Meet (tokens front) (tokens back) (tokens (front++back)) := by
  induction front using tokens.induct with
  | case1 front h =>
    rw [tokens_of_none h]
    by_cases hn : front = []
    · subst hn
      exact .apart [] (tokens back)
    · have hu : ¬ openMark <:+: front := unmarked_of_breakAt (by decide) h
      have htext := @tokens_text_append (String.ofList front) (by simpa using hu) back
        (by simpa using hb) (by simpa using hn)
      rw [String.toList_ofList] at htext
      rw [htext, textToken, if_neg (by simpa using hn)]
      exact meet_join _ _
  | case2 front before after h token ht =>
    obtain ⟨flaw, rfl⟩ := flaw_of_tagAfter ht
    exact absurd (by rw [tokens_of_some h, ht]; simp) (hf flaw)
  | case3 front before after h token rest ht _ ih =>
    have hsuffix : rest <:+ front := by
      rw [(unmarked_before (by decide) h).1]
      exact (suffix_of_tagAfter ht).trans (List.suffix_append _ after)
    rw [tokens_of_some h, ht, Option.elim_some] at hf ⊢
    rw [tokens_of_some (breakAt_append (by decide) h back), tagAfter_append ht back,
      Option.elim_some]
    have hmeet := ih (fun hm => hb (hm.of_suffix hsuffix)) fun flaw hin => hf flaw (by simp [hin])
    exact (hmeet.append [token]).append (textToken before)

/-! ## What the tokens behind give -/

/-- Tokens are read to a flaw or to a state, from which everything behind them is read. -/
theorem assemble_reaches (stack : List Frame) (acc : List Node) (ts : List Token) :
    (∃ flaw, ∀ us, assemble stack acc (ts++us) = .error flaw) ∨
      ∃ later nodes, ∀ us, assemble stack acc (ts++us) = assemble later nodes us := by
  induction ts generalizing stack acc with
  | nil => exact .inr ⟨stack, acc, fun us => rfl⟩
  | cons t ts ih =>
    cases t with
    | text content => simpa [assemble] using ih stack (.text content::acc)
    | var name escaped => simpa [assemble] using ih stack (.var name escaped::acc)
    | opening name inverted => simpa [assemble] using ih (⟨name, inverted, acc⟩::stack) []
    | comment => simpa [assemble] using ih stack acc
    | flaw flaw => exact .inl ⟨flaw, fun us => by simp [assemble]⟩
    | closing name =>
      cases stack with
      | nil => exact .inl ⟨.neverOpened name, fun us => by simp [assemble]⟩
      | cons frame stack =>
        by_cases hname : frame.name = name
        · simpa [assemble, hname] using
            ih stack (.block name frame.inverted acc.reverse::frame.before)
        · exact .inl ⟨.closedBy frame.name name, fun us => by simp [assemble, hname]⟩

theorem reached_of_ok {ts us : List Token} {nodes : List Node}
    (h : assemble [] [] (ts++us) = .ok nodes) :
    ∃ later acc, ∀ rest, assemble [] [] (ts++rest) = assemble later acc rest := by
  rcases assemble_reaches [] [] ts with ⟨flaw, hflaw⟩ | hreached
  · rw [hflaw] at h
    cases h
  · exact hreached

theorem assemble_nil_ok {stack : List Frame} {acc nodes : List Node}
    (h : assemble stack acc [] = .ok nodes) : stack = [] ∧ acc = nodes.reverse := by
  cases stack with
  | nil =>
    rw [assemble, Except.ok.injEq] at h
    exact ⟨rfl, by rw [← h, List.reverse_reverse]⟩
  | cons frame stack => simp [assemble] at h

theorem assemble_append {ts : List Token} {nodes : List Node} (h : assemble [] [] ts = .ok nodes)
    (us : List Token) : assemble [] [] (ts++us) = assemble [] nodes.reverse us := by
  rw [← List.append_nil ts] at h
  obtain ⟨later, acc, hreached⟩ := reached_of_ok h
  obtain ⟨rfl, rfl⟩ := assemble_nil_ok ((hreached []).symm.trans h)
  exact hreached us

theorem assemble_text {ts : List Token} {nodes : List Node} {content : String}
    (h : assemble [] [] (ts++[.text content]) = .ok nodes) :
    ∃ first, assemble [] [] ts = .ok first ∧ nodes = first++[.text content] := by
  obtain ⟨later, acc, hreached⟩ := reached_of_ok h
  rw [hreached, assemble] at h
  obtain ⟨rfl, hacc⟩ := assemble_nil_ok h
  have hfirst := hreached []
  rw [List.append_nil, assemble] at hfirst
  refine ⟨acc.reverse, hfirst, ?_⟩
  rw [← List.reverse_reverse nodes, ← hacc, List.reverse_cons]

theorem unflawed_of_ok {ts : List Token} {nodes : List Node} (h : assemble [] [] ts = .ok nodes)
    (flaw : Flaw) : .flaw flaw ∉ ts := by
  intro hin
  obtain ⟨front, back, rfl⟩ := List.append_of_mem hin
  obtain ⟨later, acc, hreached⟩ := reached_of_ok h
  rw [hreached, assemble] at h
  cases h

inductive Above (base : List Node) : List Frame → List Node → List Frame → List Node → Prop
  | level (acc : List Node) : Above base [] acc [] (acc++base)
  | inside {stack lifted : List Frame} {before raised : List Node} (name : String)
      (inverted : Bool) (acc : List Node) (h : Above base stack before lifted raised) :
      Above base (⟨name, inverted, before⟩::stack) acc (⟨name, inverted, raised⟩::lifted) acc

theorem Above.push {base acc raised : List Node} {stack lifted : List Frame}
    (h : Above base stack acc lifted raised) (node : Node) :
    Above base stack (node::acc) lifted (node::raised) := by
  cases h with
  | level => exact .level (node::acc)
  | inside name inverted _ h => exact .inside name inverted (node::acc) h

/-- Nodes that were read before stay in front, and change no error. -/
theorem assemble_above {base acc raised : List Node} {stack lifted : List Frame}
    (h : Above base stack acc lifted raised) (ts : List Token) :
    assemble lifted raised ts = (assemble stack acc ts).map (base.reverse++·) := by
  induction ts generalizing stack acc lifted raised with
  | nil =>
    cases h with
    | level => simp [assemble, Except.map]
    | inside name inverted acc h => rfl
  | cons t ts ih =>
    cases t with
    | text content => simpa [assemble] using ih (h.push (.text content))
    | var name escaped => simpa [assemble] using ih (h.push (.var name escaped))
    | opening name inverted => simpa [assemble] using ih (.inside name inverted [] h)
    | comment => simpa [assemble] using ih h
    | flaw f => simp [assemble, Except.map]
    | closing name =>
      cases h with
      | level => rfl
      | inside opened inverted acc h =>
        by_cases hname : opened = name
        · simpa [assemble, hname] using ih (h.push (.block name inverted acc.reverse))
        · simp [assemble, hname, Except.map]

theorem assemble_behind (nodes : List Node) (us : List Token) :
    assemble [] nodes.reverse us = (assemble [] [] us).map (nodes++·) := by
  have h := assemble_above (Above.level [] : Above nodes.reverse [] [] [] _) us
  rwa [List.reverse_reverse, List.nil_append] at h

/-! ## Pages behind one another -/

theorem renderNodes_append (stack : Stack) (nodes others : List Node) :
    renderNodes stack (nodes++others) = renderNodes stack nodes++renderNodes stack others := by
  induction nodes with
  | nil => simp [renderNodes]
  | cons node nodes ih => rw [List.cons_append, renderNodes, renderNodes, ih, String.append_assoc]

/-- Tokens that meet are rendered one behind the other. -/
theorem render_meet {ts us both : List Token} (hm : Meet ts us both) {nodes : List Node}
    (h : assemble [] [] ts = .ok nodes) (stack : Stack) :
    (assemble [] [] both).map (renderNodes stack) =
      (assemble [] [] us).map fun rest => renderNodes stack nodes++renderNodes stack rest := by
  cases hm with
  | apart =>
    rw [assemble_append h, assemble_behind]
    cases assemble [] [] us with
    | error flaw => rfl
    | ok rest => exact congrArg Except.ok (renderNodes_append stack nodes rest)
  | texts ts us a b =>
    obtain ⟨first, hfirst, rfl⟩ := assemble_text h
    have hboth : assemble [] [] (ts++.text (a++b)::us) =
        (assemble [] [] us).map ((first++[.text (a++b)])++·) := by
      rw [assemble_append hfirst, assemble, ← assemble_behind]
      simp
    have hback : assemble [] [] (.text b::us) = (assemble [] [] us).map ([.text b]++·) := by
      rw [assemble, ← assemble_behind]
      rfl
    rw [hboth, hback]
    cases assemble [] [] us with
    | error flaw => rfl
    | ok rest =>
      show Except.ok _ = Except.ok _
      simp [renderNodes_append, renderNodes, Node.render, String.append_assoc]

theorem renderSource_eq (source : String) (model : Value) :
    renderSource source model =
      ((parse source).map (renderNodes [model])).mapError (.malformed "<inline>") := by
  rw [renderSource, parseNamed]
  cases parse source <;> rfl

/-- A source behind one that was parsed is rendered as on its own, behind the page of that one,
and is refused for the same reason as on its own. -/
theorem rendering_composes (front back : String) (nodes : List Node)
    (hparse : parse front = .ok nodes) (hmark : ¬ MakeMark front.toList back.toList)
    (model : Value) :
    renderSource front model = .ok (renderModel nodes model) ∧
    (∀ page, renderSource (front++back) model = .ok page ↔
      ∃ rest, renderSource back model = .ok rest ∧ page = renderModel nodes model++rest) ∧
    ∀ e, renderSource (front++back) model = .error e ↔ renderSource back model = .error e := by
  have hmeet : Meet (tokens front.toList) (tokens back.toList) (tokens (front++back).toList) := by
    rw [String.toList_append]
    exact tokens_append front.toList hmark (unflawed_of_ok hparse)
  have hboth := render_meet hmeet hparse [model]
  have hpages : renderSource (front++back) model =
      (renderSource back model).map (renderModel nodes model++·) := by
    rw [renderSource_eq, renderSource_eq, parse, hboth, parse]
    cases assemble [] [] (tokens back.toList) <;> rfl
  refine ⟨renderSource_of_parse hparse model, ?_, ?_⟩
  · intro page
    rw [hpages]
    cases renderSource back model with
    | error e => simp [Except.map]
    | ok rest => simp [Except.map, eq_comm]
  · intro e
    rw [hpages]
    cases renderSource back model <;> simp [Except.map]

def heading : String :=
  "<h1>\x7b\x7btitle\x7d\x7d</h1>\x7b\x7b! lead \x7d\x7d\x7b"

def headingNodes : List Node :=
  [.text "<h1>", .var "title" true, .text "</h1>", .text "\x7b"]

def labels : String := "\x7d\x7b\x7b#tags\x7d\x7d[\x7b\x7b.\x7d\x7d]\x7b\x7b/tags\x7d\x7d"

def labelNodes : List Node :=
  [.text "\x7d", .block "tags" false [.text "[", .var "." true, .text "]"]]

def story : Value :=
  .object [("tags", .array [.string "a", .string "b"]), ("title", .string "R & D")]

/-- Labels are rendered behind the heading, and a block that is not open there is closed neither
behind it nor on its own. -/
theorem labels_behind_heading :
    renderSource (heading++labels) story = .ok "<h1>R &amp; D</h1>\x7b\x7d[a][b]" ∧
    renderSource (heading++"\x7d\x7b\x7b/tags\x7d\x7d") story =
      .error (.malformed "<inline>" (.neverOpened "tags")) := by
  have hheading : parse heading = .ok headingNodes := by cbv
  have hlabels : parse labels = .ok labelNodes := by cbv
  have hclosing : parse "\x7d\x7b\x7b/tags\x7d\x7d" = .error (.neverOpened "tags") := by cbv
  obtain ⟨-, hpage, -⟩ := rendering_composes heading labels headingNodes hheading
    (fun h => absurd h.2 (by decide)) story
  obtain ⟨-, -, herror⟩ := rendering_composes heading "\x7d\x7b\x7b/tags\x7d\x7d" headingNodes
    hheading (fun h => absurd h.2 (by decide)) story
  refine ⟨(hpage _).mpr ⟨_, renderSource_of_parse hlabels story, by decide +kernel⟩, ?_⟩
  rw [herror, renderSource_eq, hclosing]
  rfl

end WebApplication.Template
