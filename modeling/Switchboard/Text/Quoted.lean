/-
# Switchboard.Text.Quoted -- a text between quotes, as diagnostics show it

Quotes and backslashes are escaped, the common controls have their letter, and every character
without a visible form is written by its code point. `quoted` is one character at a time, so the
quoted form of a concatenation is the concatenation of the forms.
-/

import Switchboard.Text.Hidden

namespace Switchboard.Text

/-- Digits of a number in base sixteen, lower case, without leading zeros. -/
def hex (n : Nat) : String := String.ofList (Nat.toDigits 16 n)

/-- The digits of `hex`, filled up with zeros on the left to a given width. -/
def hexPadded (width n : Nat) : String :=
  let ds := Nat.toDigits 16 n
  String.ofList (List.replicate (width - ds.length) '0' ++ ds)

/-- How one character stands inside a quoted text. -/
def quotedChar (c : Char) : String :=
  if c = '\x00' then "\\0"
  else if c = '\t' then "\\t"
  else if c = '\n' then "\\n"
  else if c = '\r' then "\\r"
  else if c = '"' then "\\\""
  else if c = '\\' then "\\\\"
  else if isHidden c then "\\u\x7b" ++ hex c.toNat ++ "\x7d"
  else c.toString

/-- A text between quotes. -/
def quoted (s : String) : String :=
  "\"" ++ String.join (s.toList.map quotedChar) ++ "\""

end Switchboard.Text
