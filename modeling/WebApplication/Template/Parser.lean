import WebApplication.Template.Node
import WebApplication.Text.Blank

/-!
# Reading templates

The source is cut into text and tags, and the tags that open and close blocks are
paired with a stack. A tag that is never finished is itself a token, so it is only
an error where reading gets to it.
-/

set_option autoImplicit false

namespace WebApplication.Template

inductive Flaw where
  | unfinishedRaw
  | unfinishedTag
  | emptyTag
  | neverOpened (name : String)
  | closedBy (opened closing : String)
  | neverClosed (name : String)
  deriving DecidableEq, Repr

def Flaw.reason : Flaw → String
  | unfinishedRaw => "unterminated `\x7b\x7b\x7b` tag"
  | unfinishedTag => "unterminated `\x7b\x7b` tag"
  | emptyTag => "empty tag"
  | neverOpened name => s!"closing `{name}` without opening section"
  | closedBy opened closing => s!"section `{opened}` closed by `{closing}`"
  | neverClosed name => s!"section `{name}` is never closed"

inductive Token where
  | text (content : String)
  | var (name : String) (escaped : Bool)
  | opening (name : String) (inverted : Bool)
  | closing (name : String)
  | comment
  | flaw (flaw : Flaw)
  deriving DecidableEq, Repr

def breakAt (mark : List Char) : List Char → Option (List Char × List Char)
  | [] => none
  | c::cs =>
    if mark.isPrefixOf (c::cs) then some ([], (c::cs).drop mark.length)
    else (breakAt mark cs).map fun (before, after) => (c::before, after)

theorem length_of_breakAt {mark cs before after : List Char}
    (h : breakAt mark cs = some (before, after)) :
    cs.length = before.length+mark.length+after.length := by
  induction cs generalizing before with
  | nil => simp [breakAt] at h
  | cons c cs ih =>
    unfold breakAt at h
    split at h
    · rename_i hp
      have hl := (List.isPrefixOf_iff_prefix.mp hp).length_le
      simp only [Option.some.injEq, Prod.mk.injEq] at h
      obtain ⟨rfl, rfl⟩ := h
      simp only [List.length_nil, List.length_drop, List.length_cons] at hl ⊢
      omega
    · simp only [Option.map_eq_some_iff, Prod.mk.injEq, Prod.exists] at h
      obtain ⟨b, a, hb, rfl, rfl⟩ := h
      have := ih hb
      simp only [List.length_cons]
      omega

def named (cs : List Char) : String := String.ofList (Text.trimChars cs)

def tagToken (inside : List Char) : Token :=
  match Text.trimChars inside with
  | [] => .flaw .emptyTag
  | c::cs =>
    if c = '#' then .opening (named cs) false
    else if c = '^' then .opening (named cs) true
    else if c = '/' then .closing (named cs)
    else if c = '!' then .comment
    else if c = '&' then .var (named cs) false
    else .var (String.ofList (c::cs)) true

def openMark : List Char := ['{', '{']

def closeMark : List Char := ['}', '}']

def rawCloseMark : List Char := ['}', '}', '}']

def textToken (cs : List Char) : List Token :=
  if cs.isEmpty then [] else [.text (String.ofList cs)]

def tagAfter (after : List Char) : Token × Option (List Char) :=
  match after with
  | '{'::raw =>
    match breakAt rawCloseMark raw with
    | some (inside, rest) => (.var (named inside) false, some rest)
    | none => (.flaw .unfinishedRaw, none)
  | _ =>
    match breakAt closeMark after with
    | some (inside, rest) => (tagToken inside, some rest)
    | none => (.flaw .unfinishedTag, none)

theorem length_of_tagAfter {after rest : List Char} {token : Token}
    (h : tagAfter after = (token, some rest)) : rest.length < after.length := by
  unfold tagAfter at h
  split at h
  · split at h
    · rename_i hb
      have := length_of_breakAt hb
      simp only [Prod.mk.injEq, Option.some.injEq] at h
      obtain ⟨_, rfl⟩ := h
      simp [rawCloseMark] at this ⊢
      omega
    · simp at h
  · split at h
    · rename_i hb
      have := length_of_breakAt hb
      simp only [Prod.mk.injEq, Option.some.injEq] at h
      obtain ⟨_, rfl⟩ := h
      simp [closeMark] at this
      omega
    · simp at h

def tokens (source : List Char) : List Token :=
  match hb : breakAt openMark source with
  | none => textToken source
  | some (before, after) =>
    match ht : tagAfter after with
    | (token, none) => textToken before++[token]
    | (token, some rest) =>
      have : rest.length < source.length := by
        have h1 := length_of_breakAt hb
        have h2 := length_of_tagAfter ht
        simp only [openMark, List.length_cons, List.length_nil] at h1
        omega
      textToken before++token::tokens rest
termination_by source.length

/-- An open block: its name, its kind, and the nodes before it, backwards. -/
structure Frame where
  name : String
  inverted : Bool
  before : List Node

/-- Reads tokens into nodes; `acc` holds the nodes of the innermost block, backwards. -/
def assemble : List Frame → List Node → List Token → Except Flaw (List Node)
  | [], acc, [] => .ok acc.reverse
  | frame::_, _, [] => .error (.neverClosed frame.name)
  | stack, acc, .text content::ts => assemble stack (.text content::acc) ts
  | stack, acc, .var name escaped::ts => assemble stack (.var name escaped::acc) ts
  | stack, acc, .opening name inverted::ts => assemble (⟨name, inverted, acc⟩::stack) [] ts
  | [], _, .closing name::_ => .error (.neverOpened name)
  | frame::stack, acc, .closing name::ts =>
    if frame.name = name then
      assemble stack (.block name frame.inverted acc.reverse::frame.before) ts
    else .error (.closedBy frame.name name)
  | stack, acc, .comment::ts => assemble stack acc ts
  | _, _, .flaw flaw::_ => .error flaw

def parse (source : String) : Except Flaw (List Node) := assemble [] [] (tokens source.toList)

end WebApplication.Template
