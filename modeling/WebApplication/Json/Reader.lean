import WebApplication.Json.Refusal

/-!
# Reading JSON values

A text holds one value with blanks around it. Arrays and objects nest at most
127 deep. The readers that call each other take a bound on their number of steps;
every two steps read a byte, so twice the length of the text and a few is enough.
An object may stand for another value, whose text its one member holds.
-/

set_option autoImplicit false

namespace WebApplication.Json

/-- Arrays and objects that may still open, one more than the deepest nesting. -/
def nestingLimit : Nat := 128

def stepBound (text : Bytes) : Nat := 2*text.length+8

def outOfSteps (c : Cursor) : Fault := c.fault "recursion limit exceeded"

def moreItems (first : Bool) (c : Cursor) : Except Fault (Bool × Cursor) :=
  let c := c.skipBlanks
  match c.peek with
  | none => .error (c.faultNext "EOF while parsing a list")
  | some byte =>
    if byte = 93 then .ok (false, c)
    else if first then .ok (true, c)
    else if byte = 44 then
      let c := c.skip.skipBlanks
      match c.peek with
      | none => .error (c.faultNext "EOF while parsing a value")
      | some byte => if byte = 93 then .error (c.faultNext "trailing comma") else .ok (true, c)
    else .error (c.faultNext "expected `,` or `]`")

def moreMembers (first : Bool) (c : Cursor) : Except Fault (Bool × Cursor) :=
  let c := c.skipBlanks
  match c.peek with
  | none => .error (c.faultNext "EOF while parsing an object")
  | some byte =>
    if byte = 125 then .ok (false, c)
    else if first then
      if byte = 34 then .ok (true, c) else .error (c.faultNext "key must be a string")
    else if byte = 44 then
      let c := c.skip.skipBlanks
      match c.peek with
      | none => .error (c.faultNext "EOF while parsing a value")
      | some byte =>
        if byte = 34 then .ok (true, c)
        else if byte = 125 then .error (c.faultNext "trailing comma")
        else .error (c.faultNext "key must be a string")
    else .error (c.faultNext "expected `,` or `\x7d`")

def readColon (c : Cursor) : Except Fault Cursor :=
  let c := c.skipBlanks
  match c.peek with
  | none => .error (c.faultNext "EOF while parsing an object")
  | some byte => if byte = 58 then .ok c.skip else .error (c.faultNext "expected `:`")

def readName : Reader String := fun c => do
  let (name, c) ← readStringRest c.skip
  .ok (name, c)

/-- The name of the one member of an object that stands for another value. -/
def embeddedName : String := "$serde_json::private::RawValue"

def finish (c : Cursor) : Except Fault Unit :=
  let c := c.skipBlanks
  match c.peek with
  | none => .ok ()
  | some _ => .error (c.faultNext "trailing characters")

def closeObject (c : Cursor) : Except Fault Cursor :=
  let c := c.skipBlanks
  match c.peek with
  | none => .error (c.faultNext "EOF while parsing an object")
  | some byte =>
    if byte = 125 then .ok c.skip
    else if byte = 44 then .error (c.faultNext "trailing comma")
    else .error (c.faultNext "trailing characters")

mutual

def readValue : Nat → Nat → Reader Value
  | 0, _, c => .error (outOfSteps c)
  | steps+1, depth, c => do
    let c := c.skipBlanks
    match c.peek with
    | none => .error (c.faultNext "EOF while parsing a value")
    | some byte =>
      if byte = 110 then .ok (.null, ← readWord ['u', 'l', 'l'] c.skip)
      else if byte = 116 then .ok (.bool true, ← readWord ['r', 'u', 'e'] c.skip)
      else if byte = 102 then .ok (.bool false, ← readWord ['a', 'l', 's', 'e'] c.skip)
      else if byte = 45 || isDigit byte then
        let (n, c) ← readNumber c
        .ok (.number n, c)
      else if byte = 34 then
        let (text, c) ← readStringRest c.skip
        .ok (.string text, c)
      else if byte = 91 then
        if depth ≤ 1 then .error (c.faultNext "recursion limit exceeded")
        else
          let (items, c) ← readItems steps (depth-1) true [] c.skip
          .ok (.array items, c)
      else if byte = 123 then
        if depth ≤ 1 then .error (c.faultNext "recursion limit exceeded")
        else
          readObject steps (depth-1) c.skip
      else .error (c.faultNext "expected value")

def readItems : Nat → Nat → Bool → List Value → Reader (List Value)
  | 0, _, _, _, c => .error (outOfSteps c)
  | steps+1, depth, first, acc, c => do
    let (more, c) ← moreItems first c
    if more then
      let (item, c) ← readValue steps depth c
      readItems steps depth false (item::acc) c
    else .ok (acc.reverse, c.skip)

def readObject : Nat → Nat → Reader Value
  | 0, _, c => .error (outOfSteps c)
  | steps+1, depth, c => do
    let (more, c) ← moreMembers true c
    if !more then .ok (.object [], c.skip)
    else
      let (name, c) ← readName c
      let c ← readColon c
      if name = embeddedName then
        let (text, c) ← readText "raw value" c.skipBlanks
        let (value, rest) ← readValue steps nestingLimit (Cursor.start text.toUTF8.toList)
        finish rest
        .ok (value, ← closeObject c)
      else
        let (value, c) ← readValue steps depth c
        let (members, c) ← readMembers steps depth [(name, value)] c
        .ok (.object members, c)

def readMembers : Nat → Nat → Members → Reader Members
  | 0, _, _, c => .error (outOfSteps c)
  | steps+1, depth, acc, c => do
    let (more, c) ← moreMembers false c
    if more then
      let (name, c) ← readName c
      let (value, c) ← readValue steps depth (← readColon c)
      readMembers steps depth (SortedTable.insert name value acc) c
    else .ok (acc, c.skip)

end

def parse (text : Bytes) : Except Fault Value := do
  let (value, c) ← readValue (stepBound text) nestingLimit (Cursor.start text)
  finish c
  .ok value

/-! ## Skipping a value nobody asked for

Nesting is not limited here and numbers may have any size. -/

def skipDigits (c : Cursor) : Cursor := c.skipWhile isDigit

def skipExponent (c : Cursor) : Except Fault Cursor :=
  let c := c.skip
  let c := if c.peek == some 43 || c.peek == some 45 then c.skip else c
  if c.peek.any isDigit then .ok (skipDigits c) else .error (c.skip.fault "invalid number")

def skipFraction (c : Cursor) : Except Fault Cursor :=
  let c := c.skip
  if c.peek.any isDigit then
    let c := skipDigits c
    if isExponentLetter c.peek then skipExponent c else .ok c
  else .error (c.faultNext "invalid number")

def skipUnsigned (c : Cursor) : Except Fault Cursor :=
  match c.peek with
  | none => .error (c.fault "invalid number")
  | some byte =>
    if !isDigit byte then .error (c.skip.fault "invalid number")
    else
      let after := if byte = 48 then c.skip else skipDigits c
      if byte = 48 && after.peek.any isDigit then .error (after.faultNext "invalid number")
      else if after.peek == some 46 then skipFraction after
      else if isExponentLetter after.peek then skipExponent after
      else .ok after

mutual

def skipValue : Nat → Cursor → Except Fault Cursor
  | 0, c => .error (outOfSteps c)
  | steps+1, c =>
    let c := c.skipBlanks
    match c.peek with
    | none => .error (c.faultNext "EOF while parsing a value")
    | some byte =>
      if byte = 110 then readWord ['u', 'l', 'l'] c.skip
      else if byte = 116 then readWord ['r', 'u', 'e'] c.skip
      else if byte = 102 then readWord ['a', 'l', 's', 'e'] c.skip
      else if byte = 45 then skipUnsigned c.skip
      else if isDigit byte then skipUnsigned c
      else if byte = 34 then skipStringRest c.skip
      else if byte = 91 then skipItems steps true c.skip
      else if byte = 123 then skipMembers steps true c.skip
      else .error (c.faultNext "expected value")

def skipItems : Nat → Bool → Cursor → Except Fault Cursor
  | 0, _, c => .error (outOfSteps c)
  | steps+1, first, c => do
    let c := c.skipBlanks
    match c.peek with
    | none => .error (c.faultNext "EOF while parsing a list")
    | some byte =>
      if byte = 93 then .ok c.skip
      else if first then skipItems steps false (← skipValue steps c)
      else if byte = 44 then skipItems steps false (← skipValue steps c.skip)
      else .error (c.faultNext "expected `,` or `]`")

def skipMembers : Nat → Bool → Cursor → Except Fault Cursor
  | 0, _, c => .error (outOfSteps c)
  | steps+1, first, c => do
    let c := c.skipBlanks
    match c.peek with
    | none => .error (c.faultNext "EOF while parsing an object")
    | some byte =>
      if byte = 125 then .ok c.skip
      else if first then skipMembers steps false (← skipMember steps c)
      else if byte = 44 then skipMembers steps false (← skipMember steps c.skip.skipBlanks)
      else .error (c.faultNext "expected `,` or `\x7d`")

def skipMember : Nat → Cursor → Except Fault Cursor
  | 0, c => .error (outOfSteps c)
  | steps+1, c => do
    match c.peek with
    | none => .error (c.faultNext "EOF while parsing an object")
    | some byte =>
      if byte = 34 then skipValue steps (← readColon (← skipStringRest c.skip))
      else .error (c.faultNext "key must be a string")

end

end WebApplication.Json
