import RowAudit.Pattern.Property.Category

/-!
# Properties without a value

The properties that a character has or has not, each with the names that patterns may use for it, in
lower case and without separators. What follows from the general categories, the case maps and other
properties is computed from them; the rest comes from tables.
-/

namespace RowAudit.Pattern.Property

open RowAudit.Text

/-! ## Case -/

/-- Upper-case characters. -/
def upper : CharSet := .union (.table Table.lu) (.table Table.otherUpper)

/-- Lower-case characters. -/
def lower : CharSet := .union (.table Table.ll) (.table Table.otherLower)

/-- Georgian letters, whose capitals are no title-case forms. -/
def georgian : CharSet := .ranges [(0x10D0, 0x10FA), (0x10FD, 0x10FF)]

/-- Characters that differ from their lower-case form. -/
def changesInLower : CharSet :=
  .union (.table (Table.lower.map Shift.span)) (.range 0x130 0x130)

/-- Characters that differ from their upper-case form. -/
def changesInUpper : CharSet :=
  .union (.table (Table.lower.map Shift.onto)) (.table Table.raisedAlone)

/-- Characters that differ from their title-case form: title-case digraphs do not, their capitals
do. -/
def changesInTitle : CharSet :=
  .union (.diff changesInUpper (.union (.table Table.lt) georgian))
    (.ranges [(0x1C4, 0x1C4), (0x1C7, 0x1C7), (0x1CA, 0x1CA), (0x1F1, 0x1F1)])

/-- Characters that differ from their full case fold. The older Cherokee letters, which are
capitals, are their own folds. -/
def changesInFold : CharSet :=
  .union (.diff changesInLower (.range 0x13A0 0x13F5)) (.table Table.foldedAlone)

/-! ## Identifiers -/

/-- Characters that may begin an identifier although they are no letters. -/
def otherStart : CharSet :=
  .ranges [(0x1885, 0x1886), (0x2118, 0x2118), (0x212E, 0x212E), (0x309B, 0x309C)]

/-- Characters that may follow in an identifier although they are neither letters, marks, digits
nor connectors. -/
def otherPart : CharSet :=
  .ranges [(0xB7, 0xB7), (0x387, 0x387), (0x1369, 0x1371), (0x19DA, 0x19DA), (0x200C, 0x200D),
    (0x30FB, 0x30FB), (0xFF65, 0xFF65)]

/-- Characters that may begin an identifier. -/
def identifierStart : CharSet :=
  .diff (.unions [letters, .table Table.nl, otherStart]) (.range 0x2E2F 0x2E2F)

/-- Characters that may follow in an identifier. -/
def identifierPart : CharSet :=
  .unions [identifierStart, .table Table.mn, .table Table.mc, .table Table.nd, .table Table.pc,
    otherPart]

/-- Characters whose normal forms are no identifiers. -/
def unstable : CharSet :=
  .table [⟨0x37A, 0x37A, 1⟩, ⟨0x309B, 0x309C, 1⟩, ⟨0xFC5E, 0xFC63, 1⟩, ⟨0xFDFA, 0xFDFB, 1⟩,
    ⟨0xFE70, 0xFE7E, 2⟩]

/-- Characters whose normal forms begin no identifiers. -/
def unstableStart : CharSet :=
  .union unstable (.ranges [(0xE33, 0xE33), (0xEB3, 0xEB3), (0xFF9E, 0xFF9F)])

/-! ## All of them -/

/-- Characters that extend the one before them. -/
def extending : CharSet :=
  .unions [.table Table.mn, .table Table.me, .table Table.otherExtender]

/-- The properties that characters have or have not. -/
def binary : List (List String × CharSet) :=
  [(["ahex", "asciihexdigit"], .table Table.asciiHexDigit),
   (["alpha", "alphabetic"], alphabetic),
   (["bidic", "bidicontrol"], .table Table.bidiControl),
   (["bidim", "bidimirrored"], .table Table.bidiTurned),
   (["cased"], .unions [upper, lower, .table Table.lt]),
   (["ci", "caseignorable"],
    .unions [.table Table.mn, .table Table.me, .table Table.cf, .table Table.lm, .table Table.sk,
      .table Table.wordMiddle]),
   (["cwcf", "changeswhencasefolded"], changesInFold),
   (["cwcm", "changeswhencasemapped"], .unions [changesInLower, changesInUpper, changesInTitle]),
   (["cwl", "changeswhenlowercased"], changesInLower),
   (["cwt", "changeswhentitlecased"], changesInTitle),
   (["cwu", "changeswhenuppercased"], changesInUpper),
   (["dash"], .table Table.dash),
   (["dep", "deprecated"], .table Table.deprecated),
   (["di", "defaultignorablecodepoint"], .table Table.defaultIgnorable),
   (["dia", "diacritic"], .table Table.diacritic),
   (["ebase", "emojimodifierbase"], .table Table.emojiModifierBase),
   (["ecomp", "emojicomponent"], .table Table.emojiComponent),
   (["emod", "emojimodifier"], .table Table.emojiModifier),
   (["emoji"], .table Table.emoji),
   (["epres", "emojipresentation"], .table Table.emojiPresentation),
   (["ext", "extender"], .table Table.extender),
   (["extpict", "extendedpictographic"], .table Table.extendedPictographic),
   (["grbase", "graphemebase"],
    .diff (.unions [letters, marks, numerals, punctuation, symbols, .table Table.zs]) extending),
   (["grext", "graphemeextend"], extending),
   (["grlink", "graphemelink"], .table Table.graphemeLink),
   (["hex", "hexdigit"], .table Table.hexDigit),
   (["hyphen"], .table Table.hyphen),
   (["idc", "idcontinue"], identifierPart),
   (["idcompatmathcontinue"], .table Table.mathPart),
   (["idcompatmathstart"], .table Table.mathStart),
   (["ideo", "ideographic"], .table Table.ideographic),
   (["ids", "idstart"], identifierStart),
   (["idsb", "idsbinaryoperator"], .table Table.idsBinary),
   (["idst", "idstrinaryoperator"], .table Table.idsTrinary),
   (["idsu", "idsunaryoperator"], .table Table.idsUnary),
   (["joinc", "joincontrol"], .table Table.joinControl),
   (["loe", "logicalorderexception"], .table Table.logicalOrderException),
   (["lower", "lowercase"], lower),
   (["math"], .table Table.math),
   (["mcm", "modifiercombiningmark"], .table Table.modifierMark),
   (["nchar", "noncharactercodepoint"], .table Table.noncharacter),
   (["oalpha", "otheralphabetic"], .table Table.otherAlphabetic),
   (["odi", "otherdefaultignorablecodepoint"],
    .diff (.table Table.defaultIgnorable)
      (.union (.table Table.cf) (.table Table.variationSelector))),
   (["ogrext", "othergraphemeextend"], .table Table.otherExtender),
   (["oidc", "otheridcontinue"], otherPart),
   (["oids", "otheridstart"], otherStart),
   (["olower", "otherlowercase"], .table Table.otherLower),
   (["omath", "othermath"], .diff (.table Table.math) (.table Table.sm)),
   (["oupper", "otheruppercase"], .table Table.otherUpper),
   (["patsyn", "patternsyntax"], .table Table.patternSyntax),
   (["patws", "patternwhitespace"], .table Table.patternBlank),
   (["pcm", "prependedconcatenationmark"], .table Table.prependedMark),
   (["qmark", "quotationmark"], .table Table.quotationMark),
   (["radical"], .table Table.radical),
   (["ri", "regionalindicator"], .table Table.regionalIndicator),
   (["sd", "softdotted"], .table Table.softDotted),
   (["sterm", "sentenceterminal"], .table Table.sentenceTerminal),
   (["term", "terminalpunctuation"], .table Table.terminalPunctuation),
   (["uideo", "unifiedideograph"], .table Table.unifiedIdeograph),
   (["upper", "uppercase"], upper),
   (["vs", "variationselector"], .table Table.variationSelector),
   (["wspace", "whitespace", "space"], blank),
   (["xidc", "xidcontinue"], .diff identifierPart unstable),
   (["xids", "xidstart"], .diff identifierStart unstableStart)]

end RowAudit.Pattern.Property
