import InstructionStore.Text.Numeral
import InstructionStore.Unicode.Classes

/-!
# Quoted text

A message that names rejected text must show it on one line and without
ambiguity. Text is therefore **quoted**: a mark on either side, and inside it
every character that would be invisible, would break the line, would attach
to its neighbour or would end the quotation is written as an escape.

Two marks are in use: `"` around text and `'` around a single character. Only
the mark in use is escaped, so a lone apostrophe reads `"'"` in text and
`'\''` as a character.
-/

namespace InstructionStore.Text

/-- The escape that names a character by its code point. -/
def codePointEscape (c : Char) : List Char :=
  ['\\', 'u', '\x7b'] ++ hex c.toNat ++ ['\x7d']

/-- **How a character is written between two `mark`s.** -/
def escape (mark c : Char) : List Char :=
  if c = '\x00' then ['\\', '0']
  else if c = '\t' then ['\\', 't']
  else if c = '\r' then ['\\', 'r']
  else if c = '\n' then ['\\', 'n']
  else if c = '\\' ∨ c = mark then ['\\', c]
  else if Unicode.isExtending c ∨ ¬ Unicode.isPrintable c then codePointEscape c
  else [c]

/-- **Quoted text**, as messages show it. -/
def quoted (text : String) : String :=
  String.ofList ('"' :: text.toList.flatMap (escape '"') ++ ['"'])

/-- **A quoted character**, as messages show it. -/
def quotedChar (c : Char) : String :=
  String.ofList ('\'' :: escape '\'' c ++ ['\''])

end InstructionStore.Text
