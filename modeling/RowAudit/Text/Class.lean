import RowAudit.Text.Table.Letters
import RowAudit.Text.Table.Marks
import RowAudit.Text.Table.Recent
import RowAudit.Text.Table.Signs

/-!
# Character classes

The classes that the formula language, the number and date readers and the quoted texts of messages
are written over. Each is decided by a comparison for the ASCII characters and by the tables of
general categories beyond them. The classes follow Unicode 17: the tables of version 16, which
patterns use as they are, and what version 17 adds to them.
-/

namespace RowAudit.Text

/-- White space: the ASCII blanks and line ends, and the blanks and separators of Unicode. -/
def isBlank (c : Char) : Bool :=
  let n := c.toNat
  (9 ≤ n && n ≤ 13) || n == 32 || n == 0x85 || n == 0xA0 || n == 0x1680
    || (0x2000 ≤ n && n ≤ 0x200A) || n == 0x2028 || n == 0x2029 || n == 0x202F || n == 0x205F
    || n == 0x3000

/-- The ten ASCII digits. -/
def isAsciiDigit (c : Char) : Bool := '0' ≤ c && c ≤ '9'

/-- The ASCII letters. -/
def isAsciiLetter (c : Char) : Bool := ('a' ≤ c && c ≤ 'z') || ('A' ≤ c && c ≤ 'Z')

/-- Letters without regard to case class, those of version 17 left out. -/
def isLetter (c : Char) : Bool :=
  if c.toNat < 128 then isAsciiLetter c
  else covers Table.lu c || covers Table.ll c || covers Table.lt c || covers Table.lm c
    || covers Table.lo c

/-- Alphabetic characters: letters, letter numerals and the marks that belong to letters. -/
def isAlphabetic (c : Char) : Bool :=
  if c.toNat < 128 then isAsciiLetter c
  else isLetter c || covers Table.nl c || covers Table.otherAlphabetic c
    || covers Table.recentAlphabetic c

/-- Numerals of any kind: digits, letter numerals, fractions, superscripts. -/
def isNumeral (c : Char) : Bool :=
  if c.toNat < 128 then isAsciiDigit c
  else covers Table.nd c || covers Table.nl c || covers Table.no c || covers Table.recentNumeral c

/-- Alphabetic characters and numerals. -/
def isAlphanumeric (c : Char) : Bool := isAlphabetic c || isNumeral c

/-- The voiced pharyngeal fricative, a letter without case since version 17. -/
def uncasedLetter : Nat := 0x295

/-- Characters that have an upper-case, a lower-case or a title-case form as their own kind. -/
def isCased (c : Char) : Bool :=
  if c.toNat < 128 then isAsciiLetter c
  else c.toNat != uncasedLetter
    && (covers Table.lu c || covers Table.ll c || covers Table.lt c || covers Table.otherUpper c
      || covers Table.otherLower c || covers Table.recentCased c)

/-- Characters that case rules look through: marks, modifiers, format characters and the
punctuation that stands inside words. -/
def isCaseIgnorable (c : Char) : Bool :=
  covers Table.mn c || covers Table.me c || covers Table.cf c || covers Table.lm c
    || covers Table.sk c || covers Table.wordMiddle c || covers Table.recentIgnorable c

/-- Characters that extend the one before them. -/
def isExtender (c : Char) : Bool :=
  covers Table.mn c || covers Table.me c || covers Table.otherExtender c
    || covers Table.recentExtender c

/-- Characters with a glyph of their own: neither controls, format characters, separators other
than the space, nor unassigned. -/
def isPrintable (c : Char) : Bool :=
  if c.toNat < 128 then 32 ≤ c.toNat && c.toNat < 127
  else isLetter c || isNumeral c || covers Table.mn c || covers Table.mc c || covers Table.me c
    || covers Table.pc c || covers Table.pd c || covers Table.ps c || covers Table.pe c
    || covers Table.pi c || covers Table.pf c || covers Table.po c || covers Table.sm c
    || covers Table.sc c || covers Table.sk c || covers Table.so c || covers Table.recent c

end RowAudit.Text
