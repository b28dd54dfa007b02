import WebApplication.Encoding.Hex
import WebApplication.Toml.Value

/-!
# TOML strings and keys

A basic string stands between double quotes and knows escapes, a literal one stands
between single quotes and knows none; three quotes open a string of several lines.
-/

set_option autoImplicit false

namespace WebApplication.Toml

def scalar? (code : Nat) : Option Char :=
  if h : code.isValidChar then some (Char.ofNatAux code h) else none

def codeEscape (digits : Nat) (cs : List Char) : Option (Char × List Char) := do
  let code := cs.take digits
  if code.length < digits then none
  else some (← scalar? (← Encoding.hexNumber? code), cs.drop digits)

def simpleEscape? (c : Char) : Option Char :=
  if c = 'b' then some '\x08'
  else if c = 't' then some '\t'
  else if c = 'n' then some '\n'
  else if c = 'f' then some '\x0c'
  else if c = 'r' then some '\r'
  else if c = '"' || c = '\\' then some c
  else none

def escape : Reader Char
  | [] => none
  | c::cs =>
    if c = 'u' then codeEscape 4 cs
    else if c = 'U' then codeEscape 8 cs
    else (simpleEscape? c).map (·, cs)

/-- A string of one line after its opening quote; `acc` is backwards. -/
def basic : Nat → List Char → Reader String
  | 0, _, _ => none
  | _+1, _, [] => none
  | steps+1, acc, c::cs =>
    if c = '"' then some (String.ofList acc.reverse, cs)
    else if c = '\\' then do
      let (e, rest) ← escape cs
      basic steps (e::acc) rest
    else if isContent c then basic steps (c::acc) cs
    else none

def literal : List Char → Reader String
  | _, [] => none
  | acc, c::cs =>
    if c = '\'' then some (String.ofList acc.reverse, cs)
    else if isContent c then literal (c::acc) cs
    else none

/-- Skips blanks and line ends. A carriage return on its own ends no line. -/
def skipBreaks : List Char → List Char
  | '\r' :: '\n' :: cs => skipBreaks cs
  | c::cs => if isSpace c || c = '\n' then skipBreaks cs else c::cs
  | [] => []

def continues (cs : List Char) : Option (List Char) :=
  (newline? (skipSpaces cs)).map skipBreaks

/-- A closing run of three to five quotes holds up to two quotes of the text. -/
def closing (quote : Char) (acc cs : List Char) : Option (String × List Char) :=
  let run := (cs.takeWhile (· = quote)).length
  if run < 3 then none
  else
    let extra := min (run-3) 2
    some (String.ofList (List.replicate extra quote++acc).reverse, cs.drop (extra+3))

def multiline (quote : Char) (escapes : Bool) : Nat → List Char → Reader String
  | 0, _, _ => none
  | _+1, _, [] => none
  | steps+1, acc, c::cs =>
    if c = quote then
      match closing quote acc (c::cs) with
      | some done => some done
      | none => multiline quote escapes steps (c::acc) cs
    else if c = '\\' && escapes then
      match continues cs with
      | some rest => multiline quote escapes steps acc rest
      | none => do
        let (e, rest) ← escape cs
        multiline quote escapes steps (e::acc) rest
    else match newline? (c::cs) with
      | some rest => multiline quote escapes steps ('\n'::acc) rest
      | none => if isContent c then multiline quote escapes steps (c::acc) cs else none

def afterOpening (cs : List Char) : List Char := (newline? cs).getD cs

def string : Reader String
  | '"' :: '"' :: '"' :: cs => multiline '"' true (cs.length+1) [] (afterOpening cs)
  | '\'' :: '\'' :: '\'' :: cs => multiline '\'' false (cs.length+1) [] (afterOpening cs)
  | '"'::cs => basic (cs.length+1) [] cs
  | '\''::cs => literal [] cs
  | _ => none

def isBareKey (c : Char) : Bool := c.isAlphanum || c = '_' || c = '-'

def simpleKey : Reader String
  | '"'::cs => basic (cs.length+1) [] cs
  | '\''::cs => literal [] cs
  | cs =>
    let word := cs.takeWhile isBareKey
    if word.isEmpty then none else some (String.ofList word, cs.dropWhile isBareKey)

/-- The most keys that one dotted key may have, and the deepest that values may nest. -/
def depthLimit : Nat := 80

def keyParts : Nat → Reader (List String)
  | 0, _ => none
  | steps+1, cs => do
    let (key, rest) ← simpleKey (skipSpaces cs)
    let rest := skipSpaces rest
    match rest with
    | '.'::more => do
      let (keys, rest) ← keyParts steps more
      some (key::keys, rest)
    | _ => some ([key], rest)

def dottedKey (cs : List Char) : Option (List String × List Char) := keyParts (depthLimit-1) cs

end WebApplication.Toml
