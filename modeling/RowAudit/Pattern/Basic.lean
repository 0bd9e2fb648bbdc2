import RowAudit.Pattern.Meaning
import RowAudit.Pattern.Reader
import RowAudit.Pattern.Weight

/-!
# Patterns

A pattern is read, given its meaning, and weighed once; `Pattern.occursIn` then says whether it
matches a part of a text. Flags are single letters: `i` ignores case, `m` lets anchors see lines,
`s` lets the dot match line ends, `x` skips blanks; `g`, `u` and `y` change nothing, because one
match anywhere is all that is asked for.
-/

namespace RowAudit

/-- A compiled pattern. -/
structure Pattern where
  source : String
  expr : Pattern.Expr Pattern.CharSet Pattern.Look

namespace Pattern

/-- The number of bytes that the program of a pattern may take. -/
def maxWeight : Nat := 10485760

/-- The number of bytes of a program beside those of its expression: the search for a start, the
whole match, and the end. -/
def baseWeight : Nat := 208

/-- Options that flags turn on. -/
structure Options where
  modes : Modes := {}
  verbose : Bool := false

/-- The options that the letters of a text turn on. -/
def Options.read : Options → List Char → Except String Options
  | o, [] => .ok o
  | o, 'i' :: rest => read { o with modes := { o.modes with ignoreCase := true } } rest
  | o, 'm' :: rest => read { o with modes := { o.modes with multiLine := true } } rest
  | o, 's' :: rest => read { o with modes := { o.modes with dotAll := true } } rest
  | o, 'x' :: rest => read { o with verbose := true } rest
  | o, c :: rest =>
    if c == 'g' || c == 'u' || c == 'y' then read o rest
    else .error ("unsupported regex flag '" ++ String.ofList [c] ++ "'")

/-- The expression of a source text, or what is wrong with it. -/
def compileExpr (source : String) (options : Options) : Except String (Expr CharSet Look) :=
  let meaning := do
    let tree ← Tree.read source options.verbose
    tree.meaning options.modes
  match meaning with
  | .error f => .error (f.describe source)
  | .ok (x, _) =>
    if maxWeight < baseWeight + x.weight then
      .error ("Compiled regex exceeds size limit of " ++ toString maxWeight ++ " bytes.")
    else .ok x

/-- Compiles a pattern with flags. -/
def compile (source flags : String) : Except String Pattern := do
  let options ← Options.read {} flags.toList
  match compileExpr source options with
  | .ok x => .ok ⟨source, x⟩
  | .error message => .error ("invalid regex pattern '" ++ source ++ "': " ++ message)

/-- Whether a pattern matches a part of a text. -/
def occursIn (p : Pattern) (text : String) : Bool := p.expr.occursIn text.toList

end Pattern

end RowAudit
