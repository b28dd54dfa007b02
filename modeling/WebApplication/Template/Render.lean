import WebApplication.Json.Writer
import WebApplication.Template.Node
import WebApplication.Text.Split

/-!
# Rendering templates

Nodes are rendered against a stack of values, the innermost first. The first part of
a dotted name is looked up from the inside out, the other parts only in what it found.
-/

set_option autoImplicit false

namespace WebApplication.Template

open Json (Value)

abbrev Stack := List Value

def lookup (stack : Stack) (name : String) : Option Value :=
  if name = "." then stack.head?
  else match Text.split '.' name with
    | [] => none
    | first::rest => do
      rest.foldlM Value.get? (← stack.findSome? (·.get? first))

def isTruthy : Value → Bool
  | .null => false
  | .bool b => b
  | .string s => s ≠ ""
  | .array items => !items.isEmpty
  | .number _ => true
  | .object _ => true

def display : Value → String
  | .null => ""
  | .string s => s
  | other => other.write

def escapeChar (c : Char) : List Char :=
  if c = '&' then ['&', 'a', 'm', 'p', ';']
  else if c = '<' then ['&', 'l', 't', ';']
  else if c = '>' then ['&', 'g', 't', ';']
  else if c = '"' then ['&', 'q', 'u', 'o', 't', ';']
  else if c = '\'' then ['&', '#', '3', '9', ';']
  else [c]

def escapeHtml (text : String) : String := String.ofList (text.toList.flatMap escapeChar)

def renderVar (stack : Stack) (name : String) (escaped : Bool) : String :=
  match lookup stack name with
  | none => ""
  | some value => if escaped then escapeHtml (display value) else display value

def blockStacks (stack : Stack) (name : String) (inverted : Bool) : List Stack :=
  let found := lookup stack name
  if inverted then if found.any isTruthy then [] else [stack]
  else match found with
    | some (.array items) => items.map (·::stack)
    | some value => if isTruthy value then [value::stack] else []
    | none => []

mutual

def Node.render (stack : Stack) : Node → String
  | .text content => content
  | .var name escaped => renderVar stack name escaped
  | .block name inverted children =>
    String.join ((blockStacks stack name inverted).map fun inner => renderNodes inner children)

def renderNodes (stack : Stack) : List Node → String
  | [] => ""
  | node::nodes => node.render stack++renderNodes stack nodes

end

def renderModel (nodes : List Node) (model : Value) : String := renderNodes [model] nodes

end WebApplication.Template
