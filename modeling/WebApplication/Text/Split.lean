/-!
# Cutting text at a separator

A text is cut at every occurrence of one character, and joined again with it.
Cutting loses nothing: joining the parts gives the text back.
-/

set_option autoImplicit false

namespace WebApplication.Text

def splitChars (sep : Char) : List Char → List (List Char)
  | [] => [[]]
  | c::cs =>
    if c = sep then []::splitChars sep cs
    else match splitChars sep cs with
      | [] => [[c]]
      | part::parts => (c::part)::parts

def joinChars (sep : Char) : List (List Char) → List Char
  | [] => []
  | [part] => part
  | part::parts => part++sep::joinChars sep parts

def split (sep : Char) (text : String) : List String :=
  (splitChars sep text.toList).map String.ofList

def join (sep : Char) (parts : List String) : String :=
  String.ofList (joinChars sep (parts.map String.toList))

def cut (sep : Char) : List Char → Option (List Char × List Char)
  | [] => none
  | c::cs => if c = sep then some ([], cs) else (cut sep cs).map fun (a, b) => (c::a, b)

def cutAt (sep : Char) (text : String) : Option (String × String) :=
  (cut sep text.toList).map fun (a, b) => (String.ofList a, String.ofList b)

def holdsChars (part : List Char) : List Char → Bool
  | [] => part.isEmpty
  | c::cs => part.isPrefixOf (c::cs) || holdsChars part cs

def holds (part text : String) : Bool := holdsChars part.toList text.toList

theorem splitChars_ne_nil (sep : Char) (cs : List Char) : splitChars sep cs ≠ [] := by
  induction cs with
  | nil => simp [splitChars]
  | cons c cs _ =>
    unfold splitChars
    split
    · simp
    · split <;> simp

theorem joinChars_splitChars (sep : Char) (cs : List Char) :
    joinChars sep (splitChars sep cs) = cs := by
  induction cs with
  | nil => rfl
  | cons c cs ih =>
    rcases h : splitChars sep cs with _ | ⟨part, parts⟩
    · exact absurd h (splitChars_ne_nil sep cs)
    · rw [h] at ih
      by_cases hc : c = sep
      · simp [splitChars, hc, h, joinChars, ih]
      · cases parts with
        | nil => simp_all [splitChars, joinChars]
        | cons q qs => simp_all [splitChars, joinChars]

theorem join_split (sep : Char) (text : String) : join sep (split sep text) = text := by
  simp [join, split, Function.comp_def, joinChars_splitChars]

end WebApplication.Text
