import WebApplication.Text.Unprintable

/-!
# Quoted text for messages

A quoted text stands between double quotes. A quote or backslash in it follows a
backslash, the usual control characters have their letters, and a character without
a glyph is written as its code point.
-/

set_option autoImplicit false

namespace WebApplication.Text

def quoteChar (c : Char) : List Char :=
  if c = '"' then ['\\', '"']
  else if c = '\\' then ['\\', '\\']
  else if c = '\n' then ['\\', 'n']
  else if c = '\r' then ['\\', 'r']
  else if c = '\t' then ['\\', 't']
  else if c.toNat = 0 then ['\\', '0']
  else if isUnprintable c then ['\\', 'u', '\x7b']++Nat.toDigits 16 c.toNat++['\x7d']
  else [c]

def quoted (text : String) : String :=
  String.ofList ('"'::text.toList.flatMap quoteChar++['"'])

def quotedList (texts : List String) : String :=
  "["++", ".intercalate (texts.map quoted)++"]"

end WebApplication.Text
