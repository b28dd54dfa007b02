import WebApplication.Encoding.Hex

/-!
# Tables of code points

A table gives values to spans of code points, which rise and are apart from each other.
It is written as words: the first and, after a hyphen, the last code point of a span in
hexadecimal digits, and then what holds of it.
-/

set_option autoImplicit false

namespace WebApplication.Text

structure Span (α : Type) where
  first : Nat
  last : Nat
  value : α

abbrev Spans (α : Type) := Array (Span α)

variable {α : Type}

namespace Spans

def seek (spans : Spans α) (code : Nat) : Nat → Nat → Nat → Option (Span α)
  | 0, _, _ => none
  | steps+1, low, high =>
    if high ≤ low then none
    else
      let middle := (low+high)/2
      match spans[middle]? with
      | none => none
      | some span =>
        if code < span.first then seek spans code steps low middle
        else if span.last < code then seek spans code steps (middle+1) high
        else some span

/-- The span of a code point. A step halves the table, so there are enough of them. -/
def find? (spans : Spans α) (code : Nat) : Option (Span α) :=
  spans.seek code 24 0 spans.size

def holds (spans : Spans α) (code : Nat) : Bool := (spans.find? code).isSome

end Spans

/-! ## Reading -/

def words (cs : List Char) : List (List Char) :=
  let parts := cs.foldr (fun c parts =>
    if c = ' ' || c = '\n' then []::parts
    else match parts with
      | [] => [[c]]
      | part::rest => (c::part)::rest) []
  parts.filter fun part => !part.isEmpty

def isHexDigit (c : Char) : Bool := (Encoding.hexValue? c).isSome

def leadingHex (cs : List Char) : Nat × List Char :=
  ((Encoding.hexNumber? (cs.takeWhile isHexDigit)).getD 0, cs.dropWhile isHexDigit)

def Span.read (value : List Char → α) (word : List Char) : Span α :=
  let (first, rest) := leadingHex word
  match rest with
  | '-'::rest =>
    let (last, rest) := leadingHex rest
    ⟨first, last, value rest⟩
  | _ => ⟨first, first, value rest⟩

def Spans.ofText (value : List Char → α) (text : String) : Spans α :=
  ((words text.toList).map (Span.read value)).toArray

end WebApplication.Text
