import WebApplication.Encoding.Hex
import WebApplication.Toml.Value

/-!
# Moments

A moment is a date, a time, or both, and is kept as the text in which it is written back.
In a document a time of a date may have an offset from universal time. A moment given as
the text of a string is read less strictly: its date may have an offset without a time.
-/

set_option autoImplicit false

namespace WebApplication.Toml

def valueIn (base : Nat) (ds : List Char) : Nat :=
  ds.foldl (fun n c => n*base+(Encoding.hexValue? c).getD 0) 0

def fixedDigits (count least greatest : Nat) (cs : List Char) : Option (Nat × List Char) :=
  let ds := cs.take count
  if ds.length = count && ds.all Char.isDigit then
    let n := valueIn 10 ds
    if least ≤ n && n ≤ greatest then some (n, cs.drop count) else none
  else none

def mark (c : Char) : List Char → Option (List Char)
  | d::cs => if c = d then some cs else none
  | [] => none

def padded (width n : Nat) : String :=
  let ds := Nat.toDigits 10 n
  String.ofList (List.replicate (width-ds.length) '0'++ds)

/-! ## Dates and times -/

def isLeapYear (year : Nat) : Bool := (year % 4 = 0 && year % 100 ≠ 0) || year % 400 = 0

def daysInMonth (year month : Nat) : Nat :=
  if month = 2 then (if isLeapYear year then 29 else 28)
  else if month = 4 || month = 6 || month = 9 || month = 11 then 30
  else 31

def date (cs : List Char) : Option (String × List Char) := do
  let (year, cs) ← fixedDigits 4 0 9999 cs
  let (month, cs) ← fixedDigits 2 1 12 (← mark '-' cs)
  let (day, cs) ← fixedDigits 2 1 (daysInMonth year month) (← mark '-' cs)
  some (padded 4 year++"-"++padded 2 month++"-"++padded 2 day, cs)

/-- Digits of a second beyond nine do not count, and zeros at the end are not written. -/
def secondFraction : List Char → Option (String × List Char)
  | '.'::cs =>
    let ds := cs.takeWhile Char.isDigit
    if ds.isEmpty then none
    else
      let kept := ((ds.take 9).reverse.dropWhile (· = '0')).reverse
      some (if kept.isEmpty then "" else String.ofList ('.'::kept), cs.dropWhile Char.isDigit)
  | cs => some ("", cs)

def time (lastHour : Nat) (cs : List Char) : Option (String × List Char) := do
  let (hour, cs) ← fixedDigits 2 0 lastHour cs
  let (minute, cs) ← fixedDigits 2 0 59 (← mark ':' cs)
  let (second, cs) ← fixedDigits 2 0 60 (← mark ':' cs)
  let (fraction, cs) ← secondFraction cs
  some (padded 2 hour++":"++padded 2 minute++":"++padded 2 second++fraction, cs)

def afterDate : List Char → Option (List Char)
  | c::cs => if c = 'T' || c = 't' || c = ' ' then some cs else none
  | [] => none

/-! ## Offsets -/

def isUniversal (c : Char) : Bool := c = 'Z' || c = 'z'

def isSign (c : Char) : Bool := c = '+' || c = '-'

def offsetText (sign : Char) (minutes : Nat) : String :=
  (if sign = '-' && minutes ≠ 0 then "-" else "+")++padded 2 (minutes/60)++":"++
    padded 2 (minutes % 60)

def offsetMinutes (lastHour lastMinute : Nat) (cs : List Char) : Option (Nat × List Char) := do
  let (hour, cs) ← fixedDigits 2 0 lastHour cs
  let (minute, cs) ← fixedDigits 2 0 lastMinute (← mark ':' cs)
  some (hour*60+minute, cs)

def offset : List Char → Option (String × List Char)
  | c::cs =>
    if isUniversal c then some ("Z", cs)
    else if isSign c then
      (offsetMinutes 23 59 cs).map fun (minutes, cs) => (offsetText c minutes, cs)
    else some ("", c::cs)
  | [] => some ("", [])

def maxOffset : Nat := 1440

def lastOffset? : List Char → Option String
  | [] => some ""
  | c::cs =>
    if isUniversal c then (if cs.isEmpty then some "Z" else none)
    else if isSign c then
      match offsetMinutes 99 99 cs with
      | some (minutes, []) => if minutes ≤ maxOffset then some (offsetText c minutes) else none
      | _ => none
    else none

/-! ## Moments -/

def moment (cs : List Char) : Option (Value × List Char) :=
  match date cs with
  | none => (time 23 cs).map fun (t, rest) => (.moment t, rest)
  | some (d, rest) =>
    match (afterDate rest).bind (time 23) with
    | none => some (.moment d, rest)
    | some (t, rest) => (offset rest).map fun (o, rest) => (.moment (d++"T"++t++o), rest)

/-- The moment that a string stands for. A time on its own has a colon behind its hour. -/
def momentOfText? (text : String) : Option Value :=
  let cs := text.toList
  if cs[2]? = some ':' then
    match time 24 cs with
    | some (t, []) => some (.moment t)
    | _ => none
  else do
    let (d, rest) ← date cs
    let (t, rest) ← match afterDate rest with
      | some after => (time 24 after).map fun (t, rest) => ("T"++t, rest)
      | none => some ("", rest)
    some (.moment (d++t++(← lastOffset? rest)))

end WebApplication.Toml
