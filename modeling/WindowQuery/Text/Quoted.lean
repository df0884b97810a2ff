import WindowQuery.Text.Case
import WindowQuery.Text.PrintTable

/-!
# Quoted text

A text between double quotes in which every character shows: quotes and backslashes are escaped,
common controls have letters of their own, and any other character that has no visible form, or
would merge with the one before it, is written as its code.
-/

namespace WindowQuery.Text

/-- A code in lower-case hexadecimal between braces. -/
def escapedCode (c : Char) : List Char :=
  ['\\', 'u', '\x7b'] ++ Nat.toDigits 16 c.toNat ++ ['\x7d']

/-- One character as it stands between quotes. -/
def quotedChar (c : Char) : List Char :=
  if c = '\x00' then ['\\', '0']
  else if c = '\t' then ['\\', 't']
  else if c = '\r' then ['\\', 'r']
  else if c = '\n' then ['\\', 'n']
  else if c = '"' then ['\\', '"']
  else if c = '\\' then ['\\', '\\']
  else if c.toNat < 127 ∧ 32 ≤ c.toNat then [c]
  else if inRanges PrintTable.combining c || inRanges PrintTable.hidden c then escapedCode c
  else [c]

/-- A text between double quotes. -/
def quoted (s : String) : String :=
  String.ofList ('"' :: s.toList.flatMap quotedChar ++ ['"'])

end WindowQuery.Text
