/-
# Texts quoted for a diagnostic

Messages that repeat a text which may hold anything put it between double quotes
and write what cannot be seen by number. A reader can tell from the message
where the text ends and which characters it is made of; the single quote is left
alone, since it cannot end the text.
-/

import WhereClause.Text.Blank
import WhereClause.Text.GlyphData

namespace WhereClause.Text

/-- Whether a character shows as a glyph of its own. In ASCII these are the
space and what follows it, the last character excepted. -/
def isVisible (c : Char) : Bool :=
  if c.toNat < 0x7f then
    0x20 ≤ c.toNat
  else
    !inRanges invisibleRanges c.toNat && !inRanges graphemeExtendRanges c.toNat

/-- A character by number: its code point in hexadecimal, between braces. -/
def escapedByNumber (c : Char) : List Char :=
  "\\u\x7b".toList ++ Nat.toDigits 16 c.toNat ++ "\x7d".toList

/-- A character as a quoted text shows it. -/
def escaped (c : Char) : List Char :=
  match c with
  | '"' => ['\\', '"']
  | '\\' => ['\\', '\\']
  | '\n' => ['\\', 'n']
  | '\r' => ['\\', 'r']
  | '\t' => ['\\', 't']
  | '\x00' => ['\\', '0']
  | c => if isVisible c then [c] else escapedByNumber c

/-- A text between double quotes, fit for a diagnostic. -/
def quoted (s : String) : String :=
  String.ofList ('"' :: s.toList.flatMap escaped ++ ['"'])

end WhereClause.Text
