import RowAudit.Text.Class

/-!
# Working on text

Trimming, splitting, searching and cutting texts. Trimming, splitting and searching are defined over
the characters of a text, cutting over the bytes of its UTF-8 form; lengths and positions are
counted in bytes where the definitions say so.
-/

namespace RowAudit.Text

/-- The number of bytes that the characters take. -/
def byteLength (cs : List Char) : Nat := cs.foldl (fun n c => n + c.utf8Size) 0

/-- Drops leading white space. -/
def dropBlanks (cs : List Char) : List Char := cs.dropWhile isBlank

/-- Drops trailing white space. -/
def dropBlanksRight (cs : List Char) : List Char := (cs.reverse.dropWhile isBlank).reverse

/-- Drops white space on both sides. -/
def trimChars (cs : List Char) : List Char := dropBlanksRight (dropBlanks cs)

/-- A text without the white space around it. -/
def trim (s : String) : String := String.ofList (trimChars s.toList)

/-- Whether a text holds white space at most. -/
def isBlankText (s : String) : Bool := s.toList.all isBlank

/-- Cuts a text at each comma. -/
def splitAtCommas (cs : List Char) : List (List Char) :=
  match cs with
  | [] => [[]]
  | c :: rest =>
    if c == ',' then [] :: splitAtCommas rest
    else
      match splitAtCommas rest with
      | piece :: pieces => (c :: piece) :: pieces
      | [] => [[c]]

/-- The trimmed, non-empty pieces of a comma-separated text. -/
def commaList (s : String) : List String :=
  ((splitAtCommas s.toList).map fun piece => String.ofList (trimChars piece)).filter (· ≠ "")

/-- Whether `needle` occurs in a row somewhere in the characters. -/
def occursIn (needle : List Char) : List Char → Bool
  | [] => needle.isEmpty
  | c :: rest => needle.isPrefixOf (c :: rest) || occursIn needle rest

/-- Equality up to the case of ASCII letters. -/
def eqIgnoringAsciiCase (s t : String) : Bool :=
  s.toList.map Char.toLower == t.toList.map Char.toLower

/-! ## Cutting texts to a number of bytes -/

/-- Whether a text can be cut at a byte: a character starts there, or the text ends. -/
def isBoundary (s : String) (i : Nat) : Bool := (String.Pos.Raw.mk i).isValid s

/-- The test for boundaries is that of the library. -/
theorem isBoundary_iff {s : String} {i : Nat} :
    isBoundary s i = true ↔ (String.Pos.Raw.mk i).IsValid s := String.Pos.Raw.isValid_eq_true_iff

/-- A text starts at a boundary. -/
theorem isBoundary_zero (s : String) : isBoundary s 0 = true :=
  isBoundary_iff.2 String.Pos.Raw.isValid_zero

/-- The last boundary up to a byte, looked for byte by byte towards the start; none if the search
goes past it. -/
def boundaryUpTo? (s : String) : Nat → Option Nat
  | 0 => if isBoundary s 0 then some 0 else none
  | i + 1 => if isBoundary s (i + 1) then some (i + 1) else boundaryUpTo? s i

/-- The start is a boundary, so the search does not go past it. -/
theorem exists_boundaryUpTo? (s : String) (i : Nat) :
    ∃ j, boundaryUpTo? s i = some j ∧ isBoundary s j = true := by
  induction i with
  | zero => exact ⟨0, if_pos (isBoundary_zero s), isBoundary_zero s⟩
  | succ i ih =>
    rw [boundaryUpTo?]
    split
    · next h => exact ⟨i + 1, rfl, h⟩
    · exact ih

/-- The text before a byte; none if that is no boundary. -/
def textBefore? (s : String) (i : Nat) : Option String :=
  if h : isBoundary s i = true then some (s.sliceTo ⟨⟨i⟩, isBoundary_iff.1 h⟩).copy else none

/-- The mark that stands for the part cut off. -/
def cutMark : String := "...(truncated)"

/-- A text cut to at most `limit` bytes, with `cutMark` in place of what was cut off; none if there
is no place to cut it. -/
def truncate? (s : String) (limit : Nat) : Option String :=
  if s.utf8ByteSize ≤ limit then some s
  else do
    let stop ← boundaryUpTo? s limit
    let kept ← textBefore? s stop
    some (kept ++ cutMark)

/-- A text can be truncated to any limit. -/
theorem isSome_truncate? (s : String) (limit : Nat) : (truncate? s limit).isSome = true := by
  unfold truncate?
  split
  · rfl
  · obtain ⟨j, hj, hboundary⟩ := exists_boundaryUpTo? s limit
    simp [hj, textBefore?, hboundary]

/-- A text cut to at most `limit` bytes; there always is a place to cut it. -/
def truncate (s : String) (limit : Nat) : String :=
  (truncate? s limit).get (isSome_truncate? s limit)

/-! ## Quoting -/

/-- The lower-case hexadecimal digits of a number. -/
def hexDigits (n : Nat) : List Char := Nat.toDigits 16 n

/-- The form of a character inside a text that a message quotes. -/
def quotedChar (c : Char) : List Char :=
  if c == '"' then ['\\', '"']
  else if c == '\\' then ['\\', '\\']
  else if c == '\n' then ['\\', 'n']
  else if c == '\r' then ['\\', 'r']
  else if c == '\t' then ['\\', 't']
  else if c.toNat == 0 then ['\\', '0']
  else if isExtender c || !isPrintable c then
    ['\\', 'u', '\x7b'] ++ hexDigits c.toNat ++ ['\x7d']
  else [c]

/-- A text in quotes as messages show it: quotes and backslashes escaped, and characters that
would not show, or would join the one before them, given by their number. -/
def quoted (s : String) : String :=
  String.ofList ('"' :: s.toList.flatMap quotedChar ++ ['"'])

end RowAudit.Text
