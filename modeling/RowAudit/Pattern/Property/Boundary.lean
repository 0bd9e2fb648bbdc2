import RowAudit.Pattern.Property.Binary
import RowAudit.Text.Table.Boundaries
import RowAudit.Text.Table.Scripts

/-!
# Boundaries

The parts that characters have in the rules that cut a text into clusters, words and sentences, each
with the names that patterns may use for it, in lower case and without separators.
-/

namespace RowAudit.Pattern.Property

open RowAudit.Text

/-- The characters of a script, none if no script has the name. -/
def ofScript (name : String) : CharSet :=
  .table ((Table.scripts.filter (·.1.contains name)).flatMap Prod.snd)

/-- Characters that spell the subdivision of a flag. -/
def tags : CharSet := .range 0xE0020 0xE007F

/-- The carriage return. -/
def carriageReturn : CharSet := .range 13 13

/-- The line feed. -/
def lineFeed : CharSet := .range 10 10

/-- The character that joins the emoji around it. -/
def joiner : CharSet := .range 0x200D 0x200D

/-! ## Clusters -/

/-- Characters that belong to the cluster before them. -/
def clusterExtend : CharSet := .union extending (.table Table.emojiModifier)

/-- Controls, which are clusters of their own. -/
def clusterControl : CharSet :=
  .diff
    (.unions [.table Table.zl, .table Table.zp, .table Table.cc, .table Table.cf,
      .inter (.compl assigned) (.table Table.defaultIgnorable)])
    (.unions [carriageReturn, lineFeed, .table Table.prependedMark, .table Table.joinControl, tags])

/-- Marks with width that belong to the cluster before them. -/
def clusterSpacing : CharSet :=
  .diff (.union (.table Table.mc) (.ranges [(0xE33, 0xE33), (0xEB3, 0xEB3)]))
    (.union clusterExtend (.table Table.standingMark))

/-- Syllables of two letters, which take a third. -/
def openSyllables : CharSet := .table [⟨0xAC00, 0xD788, 28⟩]

/-- The parts of characters in clusters. -/
def clusterParts : List (List String × CharSet) :=
  [(["cn", "control"], clusterControl),
   (["cr"], carriageReturn),
   (["ex", "extend"], clusterExtend),
   (["l"], .ranges [(0x1100, 0x115F), (0xA960, 0xA97C)]),
   (["lf"], lineFeed),
   (["lv"], openSyllables),
   (["lvt"], .diff (.range 0xAC00 0xD7A3) openSyllables),
   (["pp", "prepend"], .union (.table Table.prependedMark) (.table Table.prependedLetter)),
   (["ri", "regionalindicator"], .table Table.regionalIndicator),
   (["sm", "spacingmark"], clusterSpacing),
   (["t"], .ranges [(0x11A8, 0x11FF), (0xD7CB, 0xD7FB)]),
   (["v"],
    .ranges [(0x1160, 0x11A7), (0xD7B0, 0xD7C6), (0x16D63, 0x16D63), (0x16D67, 0x16D6A)]),
   (["zwj"], joiner)]

/-! ## Words -/

/-- Characters that belong to the word before them. -/
def wordExtend : CharSet := .union clusterExtend (.table Table.mc)

/-- Format characters that words look through. -/
def wordFormat : CharSet :=
  .diff (.table Table.cf)
    (.unions [.table Table.prependedMark, .range 0x200B 0x200B, .table Table.joinControl, tags])

/-- Letters of Hebrew. -/
def wordHebrew : CharSet := .inter (ofScript "hebr") (.table Table.lo)

/-- Digits in words, with the signs that go before them and the decimal separator of Arabic. -/
def wordNumeric : CharSet :=
  .unions [.table Table.nd, .diff (.table Table.prependedMark) (.range 0x70F 0x70F),
    .ranges [(0x66B, 0x66B), (0x19DA, 0x19DA)]]

/-- Letters of scripts that are written with blanks between words. -/
def wordLetter : CharSet :=
  .union
    (.diff alphabetic
      (.unions [.table Table.ideographic, .table Table.katakana, .table Table.unspaced, wordExtend,
        wordHebrew, ofScript "hira"]))
    (.table Table.letterLike)

/-- The parts of characters in words. -/
def wordParts : List (List String × CharSet) :=
  [(["cr"], carriageReturn),
   (["dq", "doublequote"], .range 0x22 0x22),
   (["ex", "extendnumlet"], .table Table.wordLink),
   (["extend"], wordExtend),
   (["fo", "format"], wordFormat),
   (["hl", "hebrewletter"], wordHebrew),
   (["ka", "katakana"], .table Table.katakana),
   (["le", "aletter"], wordLetter),
   (["lf"], lineFeed),
   (["mb", "midnumlet"], .table Table.middleOfBoth),
   (["ml", "midletter"], .table Table.middleOfLetters),
   (["mn", "midnum"], .table Table.middleOfDigits),
   (["nl", "newline"], .ranges [(11, 12), (0x85, 0x85), (0x2028, 0x2029)]),
   (["nu", "numeric"], wordNumeric),
   (["ri", "regionalindicator"], .table Table.regionalIndicator),
   (["sq", "singlequote"], .range 0x27 0x27),
   (["wsegspace"],
    .ranges [(32, 32), (0x1680, 0x1680), (0x2000, 0x2006), (0x2008, 0x200A), (0x205F, 0x205F),
      (0x3000, 0x3000)]),
   (["zwj"], joiner)]

/-! ## Sentences -/

/-- Characters that belong to the one before them in sentences. -/
def sentenceExtend : CharSet := .unions [extending, .table Table.mc, joiner]

/-- Lower-case characters in sentences; Georgian letters go without case there. -/
def sentenceLower : CharSet := .diff lower (.union sentenceExtend georgian)

/-- Capitals in sentences, those of Georgian left out. -/
def sentenceUpper : CharSet :=
  .diff (.union upper (.table Table.lt)) (.ranges [(0x1C90, 0x1CBA), (0x1CBD, 0x1CBF)])

/-- Full stops. -/
def sentencePoint : CharSet := .table Table.sentencePoint

/-- Quotes and brackets. -/
def sentenceClose : CharSet :=
  .diff
    (.unions [.table Table.ps, .table Table.pe, .table Table.pi, .table Table.pf,
      .table Table.quotationMark, .table Table.ornamentalQuote])
    (.ranges [(0xFF02, 0xFF02), (0xFF07, 0xFF07)])

/-- The parts of characters in sentences. -/
def sentenceParts : List (List String × CharSet) :=
  [(["at", "aterm"], sentencePoint),
   (["cl", "close"], sentenceClose),
   (["cr"], carriageReturn),
   (["ex", "extend"], sentenceExtend),
   (["fo", "format"], .union wordFormat (.ranges [(0x70F, 0x70F), (0x200B, 0x200B)])),
   (["le", "oletter"],
    .union (.diff alphabetic (.unions [sentenceLower, sentenceUpper, sentenceExtend]))
      (.range 0x5F3 0x5F3)),
   (["lf"], lineFeed),
   (["lo", "lower"], sentenceLower),
   (["nu", "numeric"], .union wordNumeric (.range 0x66C 0x66C)),
   (["sc", "scontinue"], .table Table.sentenceMiddle),
   (["se", "sep"], .ranges [(0x85, 0x85), (0x2028, 0x2029)]),
   (["sp"],
    .ranges [(9, 9), (11, 12), (32, 32), (0xA0, 0xA0), (0x1680, 0x1680), (0x2000, 0x200A),
      (0x202F, 0x202F), (0x205F, 0x205F), (0x3000, 0x3000)]),
   (["st", "sterm"], .diff (.table Table.sentenceTerminal) sentencePoint),
   (["up", "upper"], sentenceUpper)]

end RowAudit.Pattern.Property
