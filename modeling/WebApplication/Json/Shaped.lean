import WebApplication.Json.Reader

/-!
# Reading JSON against a shape

The text is read once, from left to right, so the first thing that does not fit is
the one reported, whether it breaks the grammar or the shape. A record may be given
as an object or as the list of its fields. What a record lacks is placed behind the
bracket that closes it.
-/

set_option autoImplicit false

namespace WebApplication.Json

open Schema

def pastList (c : Cursor) : Cursor :=
  let c := c.skipBlanks
  match c.peek with
  | some byte =>
    if byte = 93 then c.skip else if byte = 44 then c.skip.skipBlanks else c
  | none => c

def pastObject (c : Cursor) : Cursor :=
  let c := c.skipBlanks
  if c.peek == some 125 then c.skip else c

def closeList (c : Cursor) : Except Fault Cursor :=
  let c := c.skipBlanks
  match c.peek with
  | none => .error (c.faultNext "EOF while parsing a list")
  | some byte =>
    if byte = 93 then .ok c.skip
    else if byte = 44 then
      let after := c.skip.skipBlanks
      if after.peek == some 93 then .error (after.faultNext "trailing comma")
      else .error (after.faultNext "trailing characters")
    else .error (c.faultNext "trailing characters")

def readInteger (t : IntegerType) : Reader Datum := fun c => do
  if c.peek == some 45 || c.peek.any isDigit then
    match ← readNumber c with
    | (.integer n, c) =>
      if t.holds n then .ok (.integer n, c)
      else .error (c.fault (invalidValue s!"integer `{n}`" t.name))
    | (n, c) => .error (c.fault (invalidType (foundNumber n) t.name))
  else .error (refuse t.name c)

def fieldWord (n : Nat) : String := if n = 1 then "1 element" else s!"{n} elements"

mutual

def readShaped : Nat → Nat → Shape → Reader Datum
  | 0, _, _, c => .error (outOfSteps c)
  | steps+1, depth, shape, c => do
    let c := c.skipBlanks
    let opens (byte : UInt8) : Bool := c.peek == some byte
    let deep := depth ≤ 1
    match shape with
    | .bool =>
      if opens 116 then .ok (.bool true, ← readWord ['r', 'u', 'e'] c.skip)
      else if opens 102 then .ok (.bool false, ← readWord ['a', 'l', 's', 'e'] c.skip)
      else .error (refuse shape.expecting c)
    | .integer t => readInteger t c
    | .single | .double =>
      if opens 45 || c.peek.any isDigit then
        let (n, c) ← readNumber c
        match n with
        | .integer n => .ok (.double (Decimal.double.nearest (n < 0) n.natAbs 0), c)
        | .binary x => .ok (.double x.toBits.toNat, c)
      else .error (refuse shape.expecting c)
    | .text =>
      let (text, c) ← readText shape.expecting c
      .ok (.text text, c)
    | .character =>
      let (text, c) ← readText shape.expecting c
      if text.length = 1 then .ok (.text text, c)
      else .error (c.fault (invalidValue (foundText text) shape.expecting))
    | .unit | .marker _ =>
      if opens 110 then .ok (.unit, ← readWord ['u', 'l', 'l'] c.skip)
      else .error (refuse shape.expecting c)
    | .optional inner =>
      if opens 110 then .ok (.absent, ← readWord ['u', 'l', 'l'] c.skip)
      else readShaped steps depth inner c
    | .wrapper _ inner => readShaped steps depth inner c
    | .list item =>
      if !opens 91 then .error (refuse shape.expecting c)
      else if deep then .error (c.faultNext "recursion limit exceeded")
      else
        let (items, c) ← readShapedItems steps (depth-1) item true [] c.skip
        .ok (.list items, c)
    | .table _ item =>
      if !opens 123 then .error (refuse shape.expecting c)
      else if deep then .error (c.faultNext "recursion limit exceeded")
      else
        let (entries, c) ← readShapedEntries steps (depth-1) item true [] c.skip
        .ok (.table entries, c)
    | .tuple shapes =>
      if !opens 91 then .error (refuse shape.expecting c)
      else if deep then .error (c.faultNext "recursion limit exceeded")
      else
        let fields := shapes.map (Member.required "")
        let (items, c) ← readShapedRow steps (depth-1) shape.expecting 0 true [] fields c.skip
        .ok (.list (items.map Prod.snd), ← closeList c)
    | .record name strict fields =>
      if opens 91 then
        if deep then .error (c.faultNext "recursion limit exceeded")
        else
          let expected := s!"struct {name} with {fieldWord fields.length}"
          let (row, c) ← readShapedRow steps (depth-1) expected 0 true [] fields c.skip
          .ok (.record row, ← closeList c)
      else if opens 123 then
        if deep then .error (c.faultNext "recursion limit exceeded")
        else
          let (seen, c) ← readShapedFields steps (depth-1) strict fields true [] c.skip
          match complete fields seen with
          | .ok row => .ok (.record row, c.skip)
          | .error message => .error ((pastObject c).fault message)
      else .error (refuse shape.expecting c)
    | .choice _ alternatives =>
      let known := alternatives.map Prod.fst
      let chosen (name : String) (c : Cursor) : Except Fault Datum :=
        match alternatives.lookup name with
        | some .bare => .ok (.text name)
        | some other => .error (c.fault (other.refusal.getD ""))
        | none => .error (c.fault (unknownVariant name known))
      if opens 34 then
        let (name, c) ← readStringRest c.skip
        .ok (← chosen name c, c)
      else if opens 123 then
        if deep then .error (c.faultNext "recursion limit exceeded")
        else
          let (name, c) ← readText "variant identifier" c.skip.skipBlanks
          let value ← chosen name c
          let (_, c) ← readShaped steps (depth-1) .unit (← readColon c)
          let c := c.skipBlanks
          if c.peek == some 125 then .ok (value, c.skip)
          else if c.peek.isNone then .error (c.fault "EOF while parsing an object")
          else .error (c.fault "expected value")
      else if c.peek.isNone then .error (c.faultNext "EOF while parsing a value")
      else .error (c.faultNext "expected value")
    | .wide | .tree => .error (refuse shape.expecting c)

def readShapedItems : Nat → Nat → Shape → Bool → List Datum → Reader (List Datum)
  | 0, _, _, _, _, c => .error (outOfSteps c)
  | steps+1, depth, item, first, acc, c => do
    let (more, c) ← moreItems first c
    if more then
      let (d, c) ← readShaped steps depth item c
      readShapedItems steps depth item false (d::acc) c
    else .ok (acc.reverse, c.skip)

def readShapedEntries : Nat → Nat → Shape → Bool → List (String × Datum) →
    Reader (List (String × Datum))
  | 0, _, _, _, _, c => .error (outOfSteps c)
  | steps+1, depth, item, first, acc, c => do
    let (more, c) ← moreMembers first c
    if more then
      let (name, c) ← readName c
      let (d, c) ← readShaped steps depth item (← readColon c)
      readShapedEntries steps depth item false (acc.filter (·.1 ≠ name)++[(name, d)]) c
    else .ok (acc, c.skip)

/-- Reads the fields of a record from a list, in their order; those left over take
their defaults. -/
def readShapedRow : Nat → Nat → String → Nat → Bool → List (String × Datum) →
    List (Member Shape) → Reader (List (String × Datum))
  | 0, _, _, _, _, _, _, c => .error (outOfSteps c)
  | _+1, _, _, _, _, acc, [], c => .ok (acc.reverse, c)
  | steps+1, depth, expected, count, first, acc, f::fields, c => do
    let (more, c) ← moreItems first c
    if more then
      let (d, c) ← readShaped steps depth f.shape c
      readShapedRow steps depth expected (count+1) false ((f.name, d)::acc) fields c
    else match f.default with
      | some d => readShapedRow steps depth expected (count+1) first ((f.name, d)::acc) fields c
      | none =>
        .error ((pastList c).fault s!"invalid length {count}, expected {expected}")

def readShapedFields : Nat → Nat → Bool → List (Member Shape) → Bool → List (String × Datum) →
    Reader (List (String × Datum))
  | 0, _, _, _, _, _, c => .error (outOfSteps c)
  | steps+1, depth, strict, fields, first, seen, c => do
    let (more, c) ← moreMembers first c
    if more then
      let (name, c) ← readName c
      match fields.find? (·.accepts name) with
      | some f =>
        if (seen.lookup f.name).isSome then
          .error ((pastObject c).fault (duplicateField f.name))
        else
          let (d, c) ← readShaped steps depth f.shape (← readColon c)
          readShapedFields steps depth strict fields false ((f.name, d)::seen) c
      | none =>
        if strict then
          .error ((pastObject c).fault (unknownField name (fields.map Member.name)))
        else
          let c ← skipValue steps (← readColon c)
          readShapedFields steps depth strict fields false seen c
    else .ok (seen, c)

end

def parseShaped (shape : Shape) (text : Bytes) : Except Fault Datum := do
  let (d, c) ← readShaped (stepBound text) nestingLimit shape (Cursor.start text)
  finish c
  .ok d

end WebApplication.Json
