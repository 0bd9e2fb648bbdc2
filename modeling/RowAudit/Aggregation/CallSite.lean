import RowAudit.Aggregation.Basic
import RowAudit.Formula.Token.Scan

/-!
# Aggregations as formula text

`Aggregation.callSite` is the one way in which an aggregation is written as a call inside a formula,
and serves as its key. Neither the label nor the handling is part of it, and a list of conditions is
written like the formula that spells it.
-/

namespace RowAudit.Aggregation

open RowAudit.Formula

/-- A character inside a quoted text of a formula. -/
def escapedChar (c : Char) : List Char := if c == '\\' || c == '"' then ['\\', c] else [c]

/-- A text as a quoted text of a formula. -/
def quotedLiteral (s : String) : String :=
  String.ofList ('"' :: s.toList.flatMap escapedChar ++ ['"'])

mutual

/-- A cell as formula text. -/
def literal : Cell → String
  | .text s => quotedLiteral s
  | .moment m => "\"" ++ m.text ++ "\""
  | .list items => "[" ++ String.intercalate ", " (literals items) ++ "]"
  | .null => "null"
  | .bool b => Cell.display (.bool b)
  | .number x => Cell.display (.number x)
  | .record fields => Cell.display (.record fields)

/-- `literal` over the items of a list. -/
def literals : List Cell → List String
  | [] => []
  | c :: rest => literal c :: literals rest

end

/-- Words that are no column names by themselves. -/
def reservedWords : List String :=
  ["and", "or", "not", "true", "false", "null", "undefined", "row", "value"]

/-- Whether a column name can stand in a formula as it is. -/
def isPlainName (s : String) : Bool :=
  match s.toList with
  | [] => false
  | c :: cs =>
    isNameStart c && cs.all isNamePart
      && !reservedWords.contains (String.ofList ((c :: cs).map Char.toLower))

/-- A column as formula text. -/
def columnText (name : String) : String :=
  if isPlainName name then name else "row[" ++ quotedLiteral name ++ "]"

/-- A condition as formula text. -/
def Condition.source (c : Condition) : String :=
  columnText c.column ++ " " ++ c.operator.symbol ++ " " ++ literal c.value

/-- The sign between the conditions of a filter. -/
def Logic.joiner : Logic → String
  | .and => " && "
  | .or => " || "

/-- A filter as formula text. -/
def Filter.source : Filter → String
  | formula source => source
  | conditions cs logic => String.intercalate logic.joiner (cs.map Condition.source)

/-- An aggregation as a call: the function, the column, and as many of the filter, the list of
group columns and the distinct column as are needed. -/
def callSite (a : Aggregation) : String :=
  let filter := a.filter.filter fun f => !f.isEmpty
  let grouped := !a.groupColumns.isEmpty
  let distinct := a.distinctColumn.isSome
  let filterPart :=
    if filter.isSome || grouped || distinct then
      [match filter with
       | some f => quotedLiteral f.source
       | none => "null"]
    else []
  let groupPart :=
    if grouped || distinct then
      ["[" ++ String.intercalate ", " (a.groupColumns.map quotedLiteral) ++ "]"]
    else []
  let distinctPart := (a.distinctColumn.map quotedLiteral).toList
  a.function.name ++ "("
    ++ String.intercalate ", " (quotedLiteral a.column :: filterPart ++ groupPart ++ distinctPart)
    ++ ")"

end RowAudit.Aggregation
