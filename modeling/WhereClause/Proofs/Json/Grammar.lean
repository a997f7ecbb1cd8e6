/-
# The grammar of JSON

How JSON values are written (RFC 8259), production by production, and without reading them.
White space may stand around every value and every mark. A character of a string is written
as itself or by an escape, of which most characters have several.

Of a number only the text is kept. Everything else a value writes is in the value, but for
its layout.
-/

import WhereClause.Json.Lexeme
import WhereClause.Proofs.Numeral.Value

namespace WhereClause.Json

/-- White space, or nothing. -/
def IsSpaces (text : List Char) : Prop :=
  ∀ c ∈ text, c = ' ' ∨ c = '\t' ∨ c = '\n' ∨ c = '\r'

theorem isSpaces_nil : IsSpaces [] :=
  List.forall_mem_nil _

/-! ### Strings -/

/-- The code units of a character in UTF-16. -/
def codeUnits (c : Char) : List ℕ :=
  if c.toNat < 0x10000 then
    [c.toNat]
  else
    [0xd800 + (c.toNat - 0x10000) / 0x400, 0xdc00 + (c.toNat - 0x10000) % 0x400]

/-- A hexadecimal digit and its value. The letters may have either case. -/
def IsHexDigit (c : Char) (value : ℕ) : Prop :=
  value < 16 ∧ (c = value.digitChar ∨ c = value.digitChar.toUpper)

/-- The escape of a code unit by its number, in four hexadecimal digits. -/
inductive SpellsUnit : ℕ → List Char → Prop
  | escape {a b c d : Char} {i j k l : ℕ} (first : IsHexDigit a i) (second : IsHexDigit b j)
      (third : IsHexDigit c k) (fourth : IsHexDigit d l) :
      SpellsUnit (((i * 16 + j) * 16 + k) * 16 + l) ['\\', 'u', a, b, c, d]

/-- The marks and letters that make an escape with one character after the backslash, and
the characters that they stand for. -/
def shortEscapes : List (Char × Char) :=
  [('"', '"'), ('\\', '\\'), ('/', '/'), ('b', '\x08'), ('f', '\x0c'), ('n', '\n'),
    ('r', '\r'), ('t', '\t')]

/-- How a character is written in a string. -/
inductive SpellsChar : Char → List Char → Prop
  | plain {c : Char} (visible : 0x20 ≤ c.toNat) (notQuote : c ≠ '"') (notBackslash : c ≠ '\\') :
      SpellsChar c [c]
  | short {mark c : Char} (listed : (mark, c) ∈ shortEscapes) : SpellsChar c ['\\', mark]
  | units {c : Char} {escapes : List (List Char)}
      (spelled : List.Forall₂ SpellsUnit (codeUnits c) escapes) : SpellsChar c escapes.flatten

/-- How characters are written one after another. -/
inductive SpellsChars : List Char → List Char → Prop
  | nil : SpellsChars [] []
  | cons {c : Char} {cs written others : List Char} (first : SpellsChar c written)
      (rest : SpellsChars cs others) : SpellsChars (c :: cs) (written ++ others)

/-- How a string is written, with its quotes. -/
inductive SpellsString : String → List Char → Prop
  | quoted {text : String} {body : List Char} (spelled : SpellsChars text.toList body) :
      SpellsString text ('"' :: (body ++ ['"']))

/-! ### Numbers -/

/-- The digits of an integer without a sign. There are no zeros in front. -/
def IsWhole (digits : List Char) : Prop :=
  digits ≠ [] ∧ Numeral.IsDigits digits ∧ (digits.head? = some '0' → digits = ['0'])

/-- A point with digits behind it, or nothing. -/
def IsFraction (text : List Char) : Prop :=
  text = [] ∨ ∃ digits, digits ≠ [] ∧ Numeral.IsDigits digits ∧ text = '.' :: digits

/-- How numbers are written. -/
inductive IsNumber : List Char → Prop
  | number {minus whole fraction exponent : List Char} {power : ℤ}
      (isMinus : minus = [] ∨ minus = ['-']) (isWhole : IsWhole whole)
      (isFraction : IsFraction fraction)
      (isExponent : Numeral.DenotesExponent exponent power) :
      IsNumber (minus ++ (whole ++ (fraction ++ exponent)))

/-- A number, by how it is written. -/
structure Figure where
  text : List Char
  isNumber : IsNumber text

/-! ### Values -/

/-- A JSON value. The members of an object have an order and need not have different keys. -/
inductive Value
  | null
  | boolean (value : Bool)
  | number (figure : Figure)
  | string (text : String)
  | array (elements : List Value)
  | object (members : List (String × Value))

/-- The value is a natural number, written with digits only. -/
def Value.IsNatural (value : Value) (n : UInt64) : Prop :=
  ∃ figure, value = .number figure ∧ IsWhole figure.text ∧
    Numeral.natural figure.text = n.toNat

/-- Items with commas between them, and white space around each. -/
inductive Separated {α : Type} (Spells : α → List Char → Prop) : List α → List Char → Prop
  | nothing {spaces : List Char} (isSpaces : IsSpaces spaces) : Separated Spells [] spaces
  | last {item : α} {before text after : List Char} (isBefore : IsSpaces before)
      (spelled : Spells item text) (isAfter : IsSpaces after) :
      Separated Spells [item] (before ++ (text ++ after))
  | more {item : α} {items : List α} {before text after rest : List Char}
      (isBefore : IsSpaces before) (spelled : Spells item text) (isAfter : IsSpaces after)
      (nonempty : items ≠ []) (others : Separated Spells items rest) :
      Separated Spells (item :: items) (before ++ (text ++ (after ++ ',' :: rest)))

/-- A key and a value with a colon between them. -/
inductive SpellsMember (Spells : Value → List Char → Prop) : String × Value → List Char → Prop
  | member {key : String} {value : Value} {written before after text : List Char}
      (spelledKey : SpellsString key written) (isBefore : IsSpaces before)
      (isAfter : IsSpaces after) (spelled : Spells value text) :
      SpellsMember Spells (key, value) (written ++ (before ++ ':' :: (after ++ text)))

/-- How a value is written. -/
inductive Value.Spells : Value → List Char → Prop
  | null : Spells .null ['n', 'u', 'l', 'l']
  | true : Spells (.boolean true) ['t', 'r', 'u', 'e']
  | false : Spells (.boolean false) ['f', 'a', 'l', 's', 'e']
  | number (figure : Figure) : Spells (.number figure) figure.text
  | string {text : String} {written : List Char} (spelled : SpellsString text written) :
      Spells (.string text) written
  | array {elements : List Value} {text : List Char} (spelled : Separated Spells elements text) :
      Spells (.array elements) ('[' :: (text ++ [']']))
  | object {members : List (String × Value)} {text : List Char}
      (spelled : Separated (SpellsMember Spells) members text) :
      Spells (.object members) ('\x7b' :: (text ++ ['\x7d']))

/-- How a value is written as a whole text, with white space around it. -/
inductive SpellsText : Value → List Char → Prop
  | text {value : Value} {before written after : List Char} (isBefore : IsSpaces before)
      (spelled : value.Spells written) (isAfter : IsSpaces after) :
      SpellsText value (before ++ (written ++ after))

end WhereClause.Json
