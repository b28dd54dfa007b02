/-!
# Parsed templates

A template is a list of nodes: text, variables, and blocks that repeat or leave out
what they enclose. Every list of nodes has a source text, which `print` gives.
-/

set_option autoImplicit false

namespace WebApplication.Template

inductive Node where
  | text (content : String)
  | var (name : String) (escaped : Bool)
  | block (name : String) (inverted : Bool) (children : List Node)
  deriving Inhabited, Repr

def openTag (sign name : String) : String := "\x7b\x7b"++sign++" "++name++" \x7d\x7d"

mutual

def Node.print : Node → String
  | .text content => content
  | .var name true => "\x7b\x7b "++name++" \x7d\x7d"
  | .var name false => "\x7b\x7b\x7b "++name++" \x7d\x7d\x7d"
  | .block name inverted children =>
    openTag (if inverted then "^" else "#") name++printNodes children++openTag "/" name

def printNodes : List Node → String
  | [] => ""
  | node::nodes => node.print++printNodes nodes

end

def Node.join : Node → List Node → List Node
  | .text a, .text b::nodes => .text (a++b)::nodes
  | node, nodes => node::nodes

mutual

def Node.merge : Node → Node
  | .block name inverted children => .block name inverted (mergeTexts children)
  | node => node

def mergeTexts : List Node → List Node
  | [] => []
  | node::nodes => node.merge.join (mergeTexts nodes)

end

end WebApplication.Template
