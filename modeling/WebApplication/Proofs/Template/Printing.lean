import WebApplication.Proofs.Template.Escape
import WebApplication.Proofs.Template.Tokens

/-!
# Printing what was parsed

Nodes are read off a sequence of tokens with a stack of open blocks, and no token but a
comment is lost on the way. So the nodes of a source, printed, are read from tokens that
came from that source, and they are read as they were, with texts that touch merged.
-/

set_option autoImplicit false

namespace WebApplication.Template

open Json (Value)

mutual

def Node.tokens : Node → List Token
  | .text content => [.text content]
  | .var name escaped => [.var name escaped]
  | .block name inverted children =>
    .opening name inverted::nodeTokens children++[.closing name]

def nodeTokens : List Node → List Token
  | [] => []
  | node::nodes => node.tokens++nodeTokens nodes

end

theorem nodeTokens_append (nodes others : List Node) :
    nodeTokens (nodes++others) = nodeTokens nodes++nodeTokens others := by
  induction nodes with
  | nil => rfl
  | cons node nodes ih => rw [List.cons_append, nodeTokens, ih, nodeTokens, List.append_assoc]

theorem nodeTokens_single (node : Node) : nodeTokens [node] = node.tokens := by
  rw [nodeTokens, nodeTokens, List.append_nil]

/-! ## Nodes and tokens -/

def opened : List Frame → List Token
  | [] => []
  | frame::stack =>
    opened stack++nodeTokens frame.before.reverse++[.opening frame.name frame.inverted]

/-- What has been read so far, and what is kept of the rest, are the tokens of the nodes. -/
theorem nodeTokens_of_assemble {stack : List Frame} {acc nodes : List Node} {ts : List Token}
    (h : assemble stack acc ts = .ok nodes) :
    nodeTokens nodes = opened stack++nodeTokens acc.reverse++ts.filter Token.isKept := by
  induction ts generalizing stack acc with
  | nil =>
    cases stack with
    | nil =>
      simp only [assemble, Except.ok.injEq] at h
      simp [opened, h]
    | cons frame stack => simp [assemble] at h
  | cons t ts ih =>
    cases t with
    | text content =>
      have hn := ih (by simpa [assemble] using h)
      rw [List.filter_cons_of_pos rfl]
      simpa [nodeTokens_append, nodeTokens_single, Node.tokens] using hn
    | var name escaped =>
      have hn := ih (by simpa [assemble] using h)
      rw [List.filter_cons_of_pos rfl]
      simpa [nodeTokens_append, nodeTokens_single, Node.tokens] using hn
    | opening name inverted =>
      have hn := ih (by simpa [assemble] using h)
      rw [List.filter_cons_of_pos rfl]
      simpa [opened, nodeTokens] using hn
    | closing name =>
      cases stack with
      | nil => simp [assemble] at h
      | cons frame stack =>
        by_cases hname : frame.name = name
        · have hn := ih (by simpa [assemble, hname] using h)
          rw [List.filter_cons_of_pos rfl]
          simpa [opened, nodeTokens_append, nodeTokens_single, Node.tokens, hname] using hn
        · simp [assemble, hname] at h
    | comment =>
      have hn := ih (by simpa [assemble] using h)
      rwa [List.filter_cons_of_neg Bool.false_ne_true]
    | flaw f => simp [assemble] at h

mutual

theorem assemble_node (stack : List Frame) (acc : List Node) (ts : List Token) :
    (node : Node) → assemble stack acc (node.tokens++ts) = assemble stack (node::acc) ts
  | .text content => by simp [Node.tokens, assemble]
  | .var name escaped => by simp [Node.tokens, assemble]
  | .block name inverted children => by
    rw [Node.tokens, List.append_assoc, List.cons_append, assemble,
      assemble_nodes (⟨name, inverted, acc⟩::stack) [] _ children]
    simp [assemble]

theorem assemble_nodes (stack : List Frame) (acc : List Node) (ts : List Token) :
    (nodes : List Node) →
      assemble stack acc (nodeTokens nodes++ts) = assemble stack (nodes.reverse++acc) ts
  | [] => rfl
  | node::nodes => by
    rw [nodeTokens, List.append_assoc, assemble_node stack acc _ node,
      assemble_nodes stack (node::acc) ts nodes]
    simp

end

theorem assemble_nodeTokens (nodes : List Node) :
    assemble [] [] (nodeTokens nodes) = .ok nodes := by
  have h := assemble_nodes [] [] [] nodes
  rw [List.append_nil, List.append_nil] at h
  rw [h, assemble, List.reverse_reverse]

mutual

theorem print_toList : (node : Node) → node.print.toList = node.tokens.flatMap Token.source
  | .text content => by simp [Node.print, Node.tokens, Token.source]
  | .var name true => by
    simp [Node.print, Node.tokens, Token.source, spaced, openMark, closeMark]
  | .var name false => by
    simp [Node.print, Node.tokens, Token.source, spaced, openMark, rawCloseMark]
  | .block name inverted children => by
    cases inverted <;>
      simp [Node.print, openTag, Node.tokens, Token.source, spaced, openMark, closeMark,
        printNodes_toList children]

theorem printNodes_toList :
    (nodes : List Node) → (printNodes nodes).toList = (nodeTokens nodes).flatMap Token.source
  | [] => rfl
  | node::nodes => by
    rw [printNodes, nodeTokens, String.toList_append, List.flatMap_append, print_toList node,
      printNodes_toList nodes]

end

/-! ## Merged texts -/

theorem nodeTokens_join_text (a : String) (nodes : List Node) :
    nodeTokens (Node.join (.text a) nodes) = Token.join (.text a) (nodeTokens nodes) := by
  cases nodes with
  | nil => rfl
  | cons node nodes => cases node <;> rfl

theorem joinTexts_text (content : String) (ts : List Token) :
    joinTexts (.text content::ts) = Token.join (.text content) (joinTexts ts) :=
  rfl

theorem joinTexts_of_not_text {t : Token} (h : ∀ content, t ≠ .text content) (ts : List Token) :
    joinTexts (t::ts) = t::joinTexts ts :=
  Token.join_of_not_text h (joinTexts ts)

theorem joinTexts_append_of_not_text {t : Token} (h : ∀ content, t ≠ .text content)
    (ts others : List Token) : joinTexts (ts++t::others) = joinTexts ts++t::joinTexts others := by
  induction ts with
  | nil => exact joinTexts_of_not_text h others
  | cons u ts ih =>
    by_cases hu : ∀ content, u ≠ .text content
    · rw [List.cons_append, joinTexts_of_not_text hu, joinTexts_of_not_text hu, ih,
        List.cons_append]
    · obtain ⟨content, rfl⟩ := not_forall_not.mp hu
      rw [List.cons_append, joinTexts_text, joinTexts_text, ih]
      cases hj : joinTexts ts with
      | nil => exact Token.join_text_of_not_text content h (joinTexts others)
      | cons v vs => cases v <;> rfl

/-- Merging texts in nodes is joining them in tokens. -/
theorem joinTexts_nodeTokens : (nodes : List Node) →
    joinTexts (nodeTokens nodes) = nodeTokens (mergeTexts nodes)
  | [] => rfl
  | .text content::nodes => by
    have ih := joinTexts_nodeTokens nodes
    rw [mergeTexts, Node.merge, nodeTokens_join_text, ← ih]
    · rfl
    · simp
  | .var name escaped::nodes => by
    have ih := joinTexts_nodeTokens nodes
    have hj := joinTexts_of_not_text (t := .var name escaped) (by simp) (nodeTokens nodes)
    rw [ih] at hj
    rw [mergeTexts, Node.merge, Node.join]
    · exact hj
    · simp
    · simp
  | .block name inverted children::nodes => by
    have hin := joinTexts_nodeTokens children
    have hout := joinTexts_nodeTokens nodes
    have hopen := joinTexts_of_not_text (t := .opening name inverted) (by simp)
      (nodeTokens children++.closing name::nodeTokens nodes)
    rw [joinTexts_append_of_not_text (by simp), hin, hout] at hopen
    rw [mergeTexts, Node.merge, Node.join]
    · simpa [nodeTokens, Node.tokens] using hopen
    · simp

theorem renderNodes_join (stack : Stack) (node : Node) (nodes : List Node) :
    renderNodes stack (node.join nodes) = node.render stack++renderNodes stack nodes := by
  unfold Node.join
  split
  · rw [renderNodes, renderNodes, Node.render, Node.render, Node.render, String.append_assoc]
  · rw [renderNodes]

mutual

theorem render_merge (stack : Stack) : (node : Node) → node.merge.render stack = node.render stack
  | .text _ => rfl
  | .var _ _ => rfl
  | .block name inverted children => by
    rw [Node.merge, Node.render, Node.render]
    congr 1
    apply List.map_congr_left
    intro inner _
    exact renderNodes_mergeTexts inner children

theorem renderNodes_mergeTexts (stack : Stack) :
    (nodes : List Node) → renderNodes stack (mergeTexts nodes) = renderNodes stack nodes
  | [] => rfl
  | node::nodes => by
    rw [mergeTexts, renderNodes_join, render_merge stack node, renderNodes_mergeTexts stack nodes,
      renderNodes]

end

/-! ## Parsing what was printed -/

theorem nodeTokens_of_parse {source : String} {nodes : List Node} (h : parse source = .ok nodes) :
    nodeTokens nodes = (tokens source.toList).filter Token.isKept := by
  simpa [opened, nodeTokens] using nodeTokens_of_assemble h

/-- Nodes that were parsed are, once printed, parsed as they were, but with one text where
texts touch, at every depth. So a template and what is printed of it give the same pages. -/
theorem printed_parses (source : String) (nodes : List Node) (h : parse source = .ok nodes) :
    parse (printNodes nodes) = .ok (mergeTexts nodes) ∧
    ∀ model, renderSource (printNodes nodes) model = renderSource source model := by
  have htokens := nodeTokens_of_parse h
  have hkept : ∀ t ∈ nodeTokens nodes, t.isKept = true := by
    rw [htokens]
    exact fun t ht => (List.mem_filter.mp ht).2
  have hloose : Loose (nodeTokens nodes) := by
    rw [htokens]
    exact (tokens_loose source.toList).filter Token.isKept
  have hparse : parse (printNodes nodes) = .ok (mergeTexts nodes) := by
    rw [parse, printNodes_toList, tokens_sources hkept hloose, joinTexts_nodeTokens,
      assemble_nodeTokens]
  constructor
  · exact hparse
  · intro model
    rw [renderSource_of_parse hparse, renderSource_of_parse h, renderModel, renderModel,
      renderNodes_mergeTexts]

def braces : String :=
  "a\x7b\x7b! note \x7d\x7db\x7d\x7b\x7b\x7bx\x7d\x7dy \x7d\x7d\x7d\x7d" ++
  "\x7b\x7b# \x7d\x7d\x7b\x7b^q\x7b\x7d\x7d\x7b\x7b& z\x7d\x7d\x7b\x7b/q\x7b\x7d\x7d\x7b\x7b/\x7d\x7d\x7d\x7b"

def bracesNodes : List Node :=
  [.text "a", .text "b\x7d", .var "x\x7d\x7dy" false, .text "\x7d",
    .block "" false [.block "q\x7b" true [.var "z" false]], .text "\x7d\x7b"]

theorem braces_printed :
    parse braces = .ok bracesNodes ∧
    printNodes bracesNodes =
      "ab\x7d\x7b\x7b\x7b x\x7d\x7dy \x7d\x7d\x7d\x7d" ++
      "\x7b\x7b#  \x7d\x7d\x7b\x7b^ q\x7b \x7d\x7d\x7b\x7b\x7b z \x7d\x7d\x7d\x7b\x7b/ q\x7b \x7d\x7d\x7b\x7b/  \x7d\x7d\x7d\x7b" ∧
    parse (printNodes bracesNodes) = .ok (.text "ab\x7d"::bracesNodes.drop 2) ∧
    ∀ model, renderSource (printNodes bracesNodes) model = renderSource braces model := by
  have hparse : parse braces = .ok bracesNodes := by cbv
  obtain ⟨hprinted, hpages⟩ := printed_parses braces bracesNodes hparse
  exact ⟨hparse, by decide, hprinted, hpages⟩

end WebApplication.Template
