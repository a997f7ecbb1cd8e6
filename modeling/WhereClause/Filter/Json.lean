/-
# The JSON form of a filter

A filter as a JSON object, which tells its kind in the first member and holds
the filters below it in others. Members stand on lines of their own, indented by
two spaces for each object or array around them.
-/

import WhereClause.Filter
import WhereClause.Json.Quoted

namespace WhereClause

namespace Filter

/-- The beginning of a line at some depth. -/
def indent (depth : Nat) : String :=
  "\n".pushn ' ' (2 * depth)

/-- The beginning of a member with the given key. -/
def memberKey (depth : Nat) (key : String) : String :=
  indent depth ++ Json.written key ++ ": "

/-- A member whose value is a text. -/
def textMember (depth : Nat) (key value : String) : String :=
  memberKey depth key ++ Json.written value

/-- The values of a membership test as an array at the given depth. -/
def valuesJson (depth : Nat) : List Literal → String
  | [] => "[]"
  | first :: rest =>
    let item (value : Literal) := indent (depth + 1) ++ Json.written value.sql
    rest.foldl (fun text value => text ++ "," ++ item value) ("[" ++ item first)
      ++ indent depth ++ "]"

/-- The beginning of the object of a filter: its kind, as the first member. -/
def openObject (depth : Nat) (kind : String) : String :=
  "\x7b" ++ textMember (depth + 1) "kind" kind

/-- The end of an object. -/
def closeObject (depth : Nat) : String :=
  indent depth ++ "\x7d"

/-- Write a filter at the given depth after a text. -/
def writeJson (depth : Nat) (written : String) : Filter → String
  | .condition field comparison value =>
    written ++ openObject depth "condition"
      ++ "," ++ textMember (depth + 1) "field" field.name
      ++ "," ++ textMember (depth + 1) "op" comparison.sql
      ++ "," ++ textMember (depth + 1) "value" value.sql
      ++ closeObject depth
  | .oneOf field values =>
    written ++ openObject depth "in"
      ++ "," ++ textMember (depth + 1) "field" field.name
      ++ "," ++ memberKey (depth + 1) "values" ++ valuesJson (depth + 1) values
      ++ closeObject depth
  | .binary connective left right =>
    let opening := written ++ openObject depth "binary"
      ++ "," ++ textMember (depth + 1) "op" connective.sql
      ++ "," ++ memberKey (depth + 1) "left"
    let middle := left.writeJson (depth + 1) opening ++ "," ++ memberKey (depth + 1) "right"
    right.writeJson (depth + 1) middle ++ closeObject depth
  | .negation operand =>
    let opening := written ++ openObject depth "not" ++ "," ++ memberKey (depth + 1) "child"
    operand.writeJson (depth + 1) opening ++ closeObject depth
  | .group inner =>
    let opening := written ++ openObject depth "paren" ++ "," ++ memberKey (depth + 1) "child"
    inner.writeJson (depth + 1) opening ++ closeObject depth

/-- The JSON form of a filter, or of the absence of one. -/
def json : Option Filter → String
  | none => "null"
  | some filter => filter.writeJson 0 ""

end Filter

end WhereClause
