/-
# Lowercase texts

Lowercasing by the full rules of the Unicode standard, without language-specific
rules. Three things set it apart from the map on single characters: the dotted
capital I becomes two characters, a capital sigma becomes the final form at the
end of a word, and every other character is looked up in a table.

A sigma ends a word when, marks and punctuation inside words aside, a letter
stands before it and none stands after it.
-/

import WhereClause.Text.Blank
import WhereClause.Text.CaseData

namespace WhereClause.Text

/-- The code point that a run of the table gives for `code`, if `code` is in it. -/
def CaseRun.lowered? (run : CaseRun) (code : Nat) : Option Nat :=
  if run.first ≤ code && code ≤ run.last && (code - run.first) % run.stride == 0 then
    some (Int.toNat (code + run.shift))
  else
    none

/-- The lowercase form of a single character where no context matters and the
form is a single character too. -/
def lowercaseSimple (c : Char) : Char :=
  if c.toNat < 0x80 then
    c.toLower
  else
    match caseRuns.findSome? (·.lowered? c.toNat) with
    | some code => Char.ofNat code
    | none => c

/-- Whether a character is a letter with case. -/
def isCased (c : Char) : Bool :=
  inRanges casedRanges c.toNat

/-- Whether a search for a neighbouring letter passes over a character. -/
def isCaseIgnorable (c : Char) : Bool :=
  inRanges caseIgnorableRanges c.toNat

/-- Whether a letter comes first in a text, characters to pass over aside. -/
def meetsLetter (cs : List Char) : Bool :=
  match cs.dropWhile isCaseIgnorable with
  | [] => false
  | c :: _ => isCased c

/-- The lowercase form of a character between the characters before it, nearest
first, and the characters after it. -/
def lowercaseBetween (before : List Char) (c : Char) (after : List Char) : List Char :=
  if c = 'Σ' then
    if meetsLetter before && !meetsLetter after then ['ς'] else ['σ']
  else if c = 'İ' then
    ['i', '\u0307']
  else
    [lowercaseSimple c]

/-- Lowercase a text and put it after `done`, which holds the forms found so far, last
first, when the characters of `before` precede it, nearest first. -/
def lowercaseFrom (before done : List Char) : List Char → List Char
  | [] => done.reverse
  | c :: after =>
    lowercaseFrom (c :: before) (List.reverseAux (lowercaseBetween before c after) done) after

/-- The lowercase form of a list of characters. -/
def lowercaseChars (cs : List Char) : List Char :=
  lowercaseFrom [] [] cs

/-- The lowercase form of a text. -/
def lowercase (s : String) : String :=
  String.ofList (lowercaseChars s.toList)

end WhereClause.Text
