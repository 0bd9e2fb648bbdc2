import RowAudit.Json.Document

/-!
# What a document can lack

A `Misfit` says why a document cannot be read as a typed value. `Misfit.message` is its wording;
a malformed text has none. Three causes count as malformed when the document comes from text,
because a reader of text meets them as a wrong character: `inText` makes that change.
-/

namespace RowAudit

/-- Why a document cannot be read as a value of some type. -/
inductive Misfit where
  /-- The text is no JSON. -/
  | malformed
  /-- A value of the wrong kind. -/
  | wrongType (found expected : String)
  /-- A value of the right kind outside the type. -/
  | wrongValue (found expected : String)
  /-- A word that names none of the choices. -/
  | unknownChoice (word : String) (choices : List String)
  | missingField (name : String)
  | duplicateField (name : String)
  /-- A list that ends before a required field. -/
  | tooShort (length : Nat) (expected : String)
  /-- A list with items beyond the last field. -/
  | tooLong (length : Nat)
  /-- A value that can name no choice. -/
  | notAChoice (found : String)
  /-- An object that names a choice without being a single pair. -/
  | notASinglePair
  /-- Any other fault. -/
  | other (message : String)
  deriving DecidableEq, Repr

namespace Misfit

/-- The choices as a message lists them. -/
def listed (choices : List String) : String :=
  let ticked := choices.map fun c => "`" ++ c ++ "`"
  match ticked with
  | [a] => a
  | [a, b] => a ++ " or " ++ b
  | _ => "one of " ++ String.intercalate ", " ticked

/-- The wording of a misfit; a malformed text has none. -/
def message : Misfit → Option String
  | malformed => none
  | wrongType found expected => some ("invalid type: " ++ found ++ ", expected " ++ expected)
  | wrongValue found expected => some ("invalid value: " ++ found ++ ", expected " ++ expected)
  | unknownChoice word choices =>
    some ("unknown variant `" ++ word ++ "`, expected " ++ listed choices)
  | missingField name => some ("missing field `" ++ name ++ "`")
  | duplicateField name => some ("duplicate field `" ++ name ++ "`")
  | tooShort length expected =>
    some ("invalid length " ++ toString length ++ ", expected " ++ expected)
  | tooLong length =>
    some ("invalid length " ++ toString length ++ ", expected fewer elements in array")
  | notAChoice found => some ("invalid type: " ++ found ++ ", expected string or map")
  | notASinglePair => some "invalid value: map, expected map with a single key"
  | other message => some message

/-- The misfit as a reader of text meets it. -/
def inText : Misfit → Misfit
  | tooLong _ => malformed
  | notAChoice _ => malformed
  | notASinglePair => malformed
  | m => m

end Misfit

end RowAudit
