import RowAudit.Pattern.Expr
import RowAudit.Pattern.Tree

/-!
# What patterns mean

A pattern as it is written becomes an expression under the flags in force. Flags hold from where
they stand to the end of the group around them. Without the Unicode flag a pattern is about bytes:
its classes may hold ASCII characters alone, because a byte beyond them would be a part of a
character.
-/

namespace RowAudit.Pattern

/-! ## Modes -/

/-- The flags that bear on the meaning of a pattern. -/
structure Modes where
  ignoreCase : Bool := false
  multiLine : Bool := false
  dotAll : Bool := false
  unicode : Bool := true
  carriageReturns : Bool := false
  deriving DecidableEq, Repr

/-- The modes after a list of flags. -/
def Modes.after (m : Modes) (items : List FlagItem) : Modes :=
  let of := fun (flag : Flag) (before : Bool) => (FlagItem.state? flag true items).getD before
  { ignoreCase := of .ignoreCase m.ignoreCase
    multiLine := of .multiLine m.multiLine
    dotAll := of .dotAll m.dotAll
    unicode := of .unicode m.unicode
    carriageReturns := of .carriageReturns m.carriageReturns }

/-! ## Classes -/

/-- The characters of a named class. -/
def AsciiClass.set : AsciiClass → CharSet
  | alnum => .ranges [(0x30, 0x39), (0x41, 0x5A), (0x61, 0x7A)]
  | alpha => .ranges [(0x41, 0x5A), (0x61, 0x7A)]
  | ascii => .range 0 0x7F
  | blank => .ranges [(9, 9), (32, 32)]
  | cntrl => .ranges [(0, 0x1F), (0x7F, 0x7F)]
  | digit => .range 0x30 0x39
  | graph => .range 0x21 0x7E
  | lower => .range 0x61 0x7A
  | print => .range 0x20 0x7E
  | punct => .ranges [(0x21, 0x2F), (0x3A, 0x40), (0x5B, 0x60), (0x7B, 0x7E)]
  | space => .ranges [(9, 13), (32, 32)]
  | upper => .range 0x41 0x5A
  | word => .ranges [(0x30, 0x39), (0x41, 0x5A), (0x5F, 0x5F), (0x61, 0x7A)]
  | xdigit => .ranges [(0x30, 0x39), (0x41, 0x46), (0x61, 0x66)]

/-- The characters of a class with a letter of its own. -/
def Shorthand.set (unicode : Bool) : Shorthand → CharSet
  | digit => if unicode then Property.digit else AsciiClass.digit.set
  | blank => if unicode then Property.blank else AsciiClass.space.set
  | word => if unicode then Property.word else AsciiClass.word.set

namespace Modes

/-- Fails at a part of the pattern. -/
def fail {α : Type} (cause : Cause) (e : Extent) : Except Fault α := .error ⟨cause, e, none⟩

/-- The characters that differ from those of a set in case at most, if case is ignored. -/
def fold (m : Modes) (s : CharSet) : CharSet :=
  if m.ignoreCase then (if m.unicode then .folded s else .asciiFolded s) else s

/-- A set, unless it has bytes beyond ASCII in a pattern about bytes. -/
def checked (m : Modes) (e : Extent) (s : CharSet) : Except Fault CharSet :=
  if m.unicode || s.isAsciiOnly then .ok s else fail .partialCharacter e

/-- A set with its case folded, then negated. -/
def finish (m : Modes) (e : Extent) (negated : Bool) (s : CharSet) : Except Fault CharSet :=
  m.checked e (.negatedIf negated (m.fold s))

/-- The characters with a property. To rule a value out negates the property, so that ruling it out
in a negated property asks for it. -/
def property (m : Modes) (e : Extent) (negated : Bool) (query : PropertyQuery) :
    Except Fault CharSet :=
  if m.unicode then
    let found := match query with
      | .named name => Property.ofName name
      | .valued _ name value => Property.ofValue name value
    match found with
    | .ok s => m.finish e (negated != query.isUnequal) s
    | .error cause => fail cause e
  else fail .unicodeNotAllowed e

/-- The characters of a class with a letter of its own. -/
def shorthand (m : Modes) (e : Extent) (negated : Bool) (kind : Shorthand) :
    Except Fault CharSet :=
  m.checked e (.negatedIf negated (kind.set m.unicode))

/-- The character of a literal, which is no byte beyond ASCII. -/
def char (m : Modes) (l : Literal) : Except Fault Char :=
  if !m.unicode && l.asByte && 128 ≤ l.char.toNat then fail .partialCharacter l.extent
  else .ok l.char

/-- The character of a literal inside brackets. -/
def classChar (m : Modes) (l : Literal) : Except Fault Char := do
  let c ← m.char l
  if !m.unicode && 128 ≤ c.toNat then fail .unicodeNotAllowed l.extent else .ok c

mutual

/-- The set that a class denotes. -/
def set (m : Modes) : ClassTree → Except Fault CharSet
  | .empty _ => .ok .none
  | .literal l => do
    let c ← m.classChar l
    .ok (.single c)
  | .range first last => do
    let lo ← m.classChar first
    let hi ← m.classChar last
    .ok (.range lo.toNat hi.toNat)
  | .ascii e negated kind => m.finish e negated kind.set
  | .shorthand e negated kind => m.shorthand e negated kind
  | .property e negated query => m.property e negated query
  | .bracketed e negated body => do
    let s ← m.set body
    m.finish e negated s
  | .union _ items => do
    let sets ← m.sets items
    .ok (.unions sets)
  | .combined _ operator left right => do
    let s ← m.set left
    let t ← m.set right
    match operator with
    | .intersection => .ok (.inter (m.fold s) (m.fold t))
    | .difference => .ok (.diff (m.fold s) (m.fold t))
    | .symmetricDifference => .ok (.symmDiff (m.fold s) (m.fold t))

/-- `Modes.set` over the items of a class. -/
def sets (m : Modes) : List ClassTree → Except Fault (List CharSet)
  | [] => .ok []
  | item :: rest => do
    let s ← m.set item
    let more ← m.sets rest
    .ok (s :: more)

end

/-! ## Atoms -/

/-- The characters that a dot stands for. -/
def dot (m : Modes) : CharSet :=
  if m.dotAll then .all
  else if m.carriageReturns then .compl (.ranges [(10, 10), (13, 13)])
  else .compl (.range 10 10)

/-- The condition that an anchor stands for. -/
def look (m : Modes) (kind : Anchor) : Look :=
  let word := Shorthand.word.set m.unicode
  match kind with
  | .lineStart =>
    if m.multiLine then (if m.carriageReturns then .breakStart else .lineStart) else .start
  | .lineEnd =>
    if m.multiLine then (if m.carriageReturns then .breakStop else .lineStop) else .stop
  | .textStart => .start
  | .textEnd => .stop
  | .boundary => .boundary word
  | .noBoundary => .noBoundary word
  | .wordStart => .wordStart word
  | .wordEnd => .wordStop word
  | .wordStartHalf => .notAfterWord word
  | .wordEndHalf => .notBeforeWord word

/-- The expression of an atom. -/
def atom (m : Modes) : Atom → Except Fault (Expr CharSet Look)
  | .literal l => do
    let c ← m.char l
    .ok (.step (m.fold (.single c)))
  | .dot e => if m.unicode then .ok (.step m.dot) else fail .partialCharacter e
  | .anchor _ kind => .ok (.hold (m.look kind))
  | .shorthand e negated kind => (m.shorthand e negated kind).map .step
  | .property e negated query => (m.property e negated query).map .step

end Modes

/-! ## Patterns -/

mutual

/-- The expression of a pattern, and the modes after it. -/
def Tree.meaning (m : Modes) : Tree → Except Fault (Expr CharSet Look × Modes)
  | .empty _ => .ok (.empty, m)
  | .flags _ items => .ok (.empty, m.after items)
  | .atom a => do
    let x ← m.atom a
    .ok (x, m)
  | .bracketed e negated body => do
    let s ← m.set body
    let t ← m.finish e negated s
    .ok (.step t, m)
  | .repetition _ count body => do
    let (x, m) ← body.meaning m
    .ok (.repeated count.least count.most x, m)
  | .group _ .counted body => do
    let (x, _) ← body.meaning m
    .ok (.capture x, m)
  | .group _ (.flagged items) body => do
    let (x, _) ← body.meaning (m.after items)
    .ok (x, m)
  | .alternation _ branches => Tree.anyMeaning m branches
  | .sequence _ items => Tree.allMeaning m items

/-- The expression of alternatives, under modes that go on from one to the next. -/
def Tree.anyMeaning (m : Modes) : List Tree → Except Fault (Expr CharSet Look × Modes)
  | [] => .ok (.empty, m)
  | [branch] => branch.meaning m
  | branch :: rest => do
    let (x, m) ← branch.meaning m
    let (y, m) ← Tree.anyMeaning m rest
    .ok (.either x y, m)

/-- The expression of parts one after the other. -/
def Tree.allMeaning (m : Modes) : List Tree → Except Fault (Expr CharSet Look × Modes)
  | [] => .ok (.empty, m)
  | [item] => item.meaning m
  | item :: rest => do
    let (x, m) ← item.meaning m
    let (y, m) ← Tree.allMeaning m rest
    .ok (.both x y, m)

end

end RowAudit.Pattern
