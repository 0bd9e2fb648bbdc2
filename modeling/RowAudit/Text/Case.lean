import RowAudit.Text.Class
import RowAudit.Text.Table.Cases

/-!
# Lower case and case folds

`lower` lowers a text as a whole: every character goes to its lower-case form after Unicode 17, and
a capital sigma goes to the final form when it ends a word. `foldClass` lists the characters that
differ from a given one in case alone after Unicode 16, the version that patterns know.
-/

namespace RowAudit.Text

/-- Whether the first character that case rules do not look through is cased. -/
def meetsCased (cs : List Char) : Bool :=
  match cs.dropWhile isCaseIgnorable with
  | c :: _ => isCased c
  | [] => false

/-- The lower-case form of a single character; only the dotted capital I has two characters. -/
def lowerChar (c : Char) : List Char :=
  if c.toNat < 128 then [c.toLower]
  else if c.toNat == 0x130 then ['i', Char.ofNat 0x307]
  else
    match (Shift.image? Table.lower c.toNat).or (Shift.image? Table.recentLower c.toNat) with
    | some n => [Char.ofNat n]
    | none => [c]

/-- The capital sigma. -/
def capitalSigma : Char := Char.ofNat 0x3A3

/-- Lowers the characters of a text, given the characters before them in reverse. -/
def lowerAfter : List Char → List Char → List Char
  | _, [] => []
  | before, c :: rest =>
    if c == capitalSigma then
      (if meetsCased before && !meetsCased rest then Char.ofNat 0x3C2 else Char.ofNat 0x3C3)
        :: lowerAfter (c :: before) rest
    else lowerChar c ++ lowerAfter (c :: before) rest

/-- A text in lower case. -/
def lower (s : String) : String := String.ofList (lowerAfter [] s.toList)

/-- The representative of the characters equal to this one up to case. -/
def foldChar (c : Char) : Char :=
  match Shift.image? Table.fold c.toNat with
  | some n => Char.ofNat n
  | none => c

/-- All characters equal to this one up to case. -/
def foldClass (c : Char) : List Char :=
  let f := foldChar c
  f :: (Shift.preimages Table.fold f.toNat).map Char.ofNat

end RowAudit.Text
