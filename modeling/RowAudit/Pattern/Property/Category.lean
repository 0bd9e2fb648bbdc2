import RowAudit.Pattern.CharSet
import RowAudit.Text.Table.Properties

/-!
# General categories

The general categories and their groups as sets, each with the names that patterns may use for it,
in lower case and without separators. `word` and `blank` are the classes that have a letter of their
own in patterns.
-/

namespace RowAudit.Pattern.Property

open RowAudit.Text

/-! ## Categories -/

/-- Letters. -/
def letters : CharSet :=
  .unions [.table Table.lu, .table Table.ll, .table Table.lt, .table Table.lm, .table Table.lo]

/-- Marks. -/
def marks : CharSet := .unions [.table Table.mn, .table Table.mc, .table Table.me]

/-- Numerals. -/
def numerals : CharSet := .unions [.table Table.nd, .table Table.nl, .table Table.no]

/-- Punctuation. -/
def punctuation : CharSet :=
  .unions [.table Table.pc, .table Table.pd, .table Table.ps, .table Table.pe, .table Table.pi,
    .table Table.pf, .table Table.po]

/-- Symbols. -/
def symbols : CharSet :=
  .unions [.table Table.sm, .table Table.sc, .table Table.sk, .table Table.so]

/-- Separators. -/
def separators : CharSet := .unions [.table Table.zs, .table Table.zl, .table Table.zp]

/-- All characters that are assigned. -/
def assigned : CharSet :=
  .unions [letters, marks, numerals, punctuation, symbols, separators, .table Table.cc,
    .table Table.cf, .table Table.co]

/-- The general categories and their groups. -/
def categories : List (List String × CharSet) :=
  [(["any"], .all),
   (["assigned"], assigned),
   (["ascii"], .range 0 0x7F),
   (["c", "other"], .unions [.table Table.cc, .table Table.cf, .table Table.co, .compl assigned]),
   (["cc", "control", "cntrl"], .table Table.cc),
   (["cf", "format"], .table Table.cf),
   (["cn", "unassigned"], .compl assigned),
   (["co", "privateuse"], .table Table.co),
   (["l", "letter"], letters),
   (["lc", "casedletter"], .unions [.table Table.lu, .table Table.ll, .table Table.lt]),
   (["ll", "lowercaseletter"], .table Table.ll),
   (["lm", "modifierletter"], .table Table.lm),
   (["lo", "otherletter"], .table Table.lo),
   (["lt", "titlecaseletter"], .table Table.lt),
   (["lu", "uppercaseletter"], .table Table.lu),
   (["m", "mark", "combiningmark"], marks),
   (["mc", "spacingmark"], .table Table.mc),
   (["me", "enclosingmark"], .table Table.me),
   (["mn", "nonspacingmark"], .table Table.mn),
   (["n", "number"], numerals),
   (["nd", "decimalnumber", "digit"], .table Table.nd),
   (["nl", "letternumber"], .table Table.nl),
   (["no", "othernumber"], .table Table.no),
   (["p", "punctuation", "punct"], punctuation),
   (["pc", "connectorpunctuation"], .table Table.pc),
   (["pd", "dashpunctuation"], .table Table.pd),
   (["pe", "closepunctuation"], .table Table.pe),
   (["pf", "finalpunctuation"], .table Table.pf),
   (["pi", "initialpunctuation"], .table Table.pi),
   (["po", "otherpunctuation"], .table Table.po),
   (["ps", "openpunctuation"], .table Table.ps),
   (["s", "symbol"], symbols),
   (["sc", "currencysymbol"], .table Table.sc),
   (["sk", "modifiersymbol"], .table Table.sk),
   (["sm", "mathsymbol"], .table Table.sm),
   (["so", "othersymbol"], .table Table.so),
   (["z", "separator"], separators),
   (["zl", "lineseparator"], .table Table.zl),
   (["zp", "paragraphseparator"], .table Table.zp),
   (["zs", "spaceseparator"], .table Table.zs)]

/-- A category that has no characters of its own, since surrogates are no characters. -/
def surrogateNames : List String := ["cs", "surrogate"]

/-! ## Classes with a letter of their own -/

/-- White space. -/
def blank : CharSet :=
  .ranges [(9, 13), (32, 32), (0x85, 0x85), (0xA0, 0xA0), (0x1680, 0x1680), (0x2000, 0x200A),
    (0x2028, 0x2029), (0x202F, 0x202F), (0x205F, 0x205F), (0x3000, 0x3000)]

/-- Decimal digits. -/
def digit : CharSet := .table Table.nd

/-- Alphabetic characters. -/
def alphabetic : CharSet :=
  .unions [letters, .table Table.nl, .table Table.otherAlphabetic]

/-- Word characters: alphabetic characters, marks, decimal digits, connectors and joiners. -/
def word : CharSet :=
  .unions [alphabetic, marks, .table Table.nd, .table Table.pc, .table Table.joinControl]

end RowAudit.Pattern.Property
