import RowAudit.Pattern.Fault

/-!
# Pattern trees

The form of a pattern as it is written: characters and classes of characters, anchors, groups with
flags, repetitions, sequences and alternatives. Every part knows where it stands, because a fault
found later points at it.
-/

namespace RowAudit.Pattern

/-! ## Flags -/

/-- What a flag turns on. -/
inductive Flag where
  | ignoreCase
  | multiLine
  | dotAll
  | swapGreed
  | unicode
  | carriageReturns
  | verbose
  deriving DecidableEq, Repr

/-- One item of a list of flags: a flag, or the minus sign from which on flags are turned off. -/
inductive FlagItem where
  | turn (flag : Flag)
  | minus
  deriving DecidableEq, Repr

/-- What a list of flags says about one of them, if it occurs. -/
def FlagItem.state? (flag : Flag) : Bool → List FlagItem → Option Bool
  | _, [] => none
  | _, .minus :: rest => state? flag false rest
  | on, .turn f :: rest => if f = flag then some on else state? flag on rest

/-! ## Characters and classes -/

/-- A character that stands for itself, and whether it is written as two hexadecimal digits. -/
structure Literal where
  extent : Extent
  char : Char
  asByte : Bool
  deriving DecidableEq, Repr

/-- The classes with a letter of their own. -/
inductive Shorthand where
  | digit
  | blank
  | word
  deriving DecidableEq, Repr

/-- The classes of ASCII characters with a name inside brackets. -/
inductive AsciiClass where
  | alnum
  | alpha
  | ascii
  | blank
  | cntrl
  | digit
  | graph
  | lower
  | print
  | punct
  | space
  | upper
  | word
  | xdigit
  deriving DecidableEq, Repr

/-- The class that a name names. -/
def AsciiClass.named? (name : List Char) : Option AsciiClass :=
  match String.ofList name with
  | "alnum" => some .alnum
  | "alpha" => some .alpha
  | "ascii" => some .ascii
  | "blank" => some .blank
  | "cntrl" => some .cntrl
  | "digit" => some .digit
  | "graph" => some .graph
  | "lower" => some .lower
  | "print" => some .print
  | "punct" => some .punct
  | "space" => some .space
  | "upper" => some .upper
  | "word" => some .word
  | "xdigit" => some .xdigit
  | _ => none

/-- Characters by a property: one that they have, or one whose value is given or ruled out. -/
inductive PropertyQuery where
  | named (name : List Char)
  | valued (unequal : Bool) (name value : List Char)
  deriving DecidableEq, Repr

/-- Whether a query rules a value out. -/
def PropertyQuery.isUnequal : PropertyQuery → Bool
  | named _ => false
  | valued unequal _ _ => unequal

/-- Operations on two classes. -/
inductive ClassOperator where
  | intersection
  | difference
  | symmetricDifference
  deriving DecidableEq, Repr

/-- What stands between brackets. -/
inductive ClassTree where
  | empty (extent : Extent)
  | literal (literal : Literal)
  | range (first last : Literal)
  | ascii (extent : Extent) (negated : Bool) (kind : AsciiClass)
  | shorthand (extent : Extent) (negated : Bool) (kind : Shorthand)
  | property (extent : Extent) (negated : Bool) (query : PropertyQuery)
  | bracketed (extent : Extent) (negated : Bool) (body : ClassTree)
  | union (extent : Extent) (items : List ClassTree)
  | combined (extent : Extent) (operator : ClassOperator) (left right : ClassTree)

/-- Where a class stands. -/
def ClassTree.extent : ClassTree → Extent
  | empty e => e
  | literal l => l.extent
  | range first last => ⟨first.extent.start, last.extent.stop⟩
  | ascii e _ _ => e
  | shorthand e _ _ => e
  | property e _ _ => e
  | bracketed e _ _ => e
  | union e _ => e
  | combined e _ _ _ => e

/-- Items side by side between brackets; `before` is where the first would stand. -/
def ClassTree.ofItems (before : Place) : List ClassTree → ClassTree
  | [] => .empty ⟨before, before⟩
  | [item] => item
  | first :: rest =>
    .union ⟨first.extent.start, ((rest.getLast?).getD first).extent.stop⟩ (first :: rest)

/-! ## Patterns -/

/-- Conditions on a place of a text. -/
inductive Anchor where
  | lineStart
  | lineEnd
  | textStart
  | textEnd
  | boundary
  | noBoundary
  | wordStart
  | wordEnd
  | wordStartHalf
  | wordEndHalf
  deriving DecidableEq, Repr

/-- The smallest parts of a pattern. -/
inductive Atom where
  | literal (literal : Literal)
  | dot (extent : Extent)
  | anchor (extent : Extent) (kind : Anchor)
  | shorthand (extent : Extent) (negated : Bool) (kind : Shorthand)
  | property (extent : Extent) (negated : Bool) (query : PropertyQuery)
  deriving DecidableEq, Repr

/-- Where an atom stands. -/
def Atom.extent : Atom → Extent
  | literal l => l.extent
  | dot e => e
  | anchor e _ => e
  | shorthand e _ _ => e
  | property e _ _ => e

/-- How often something is repeated: at least `least` times, and no more than `most` times if that
is given. -/
structure Count where
  least : Nat
  most : Option Nat
  deriving DecidableEq, Repr

/-- A count whose bounds admit a number. -/
def Count.isValid (c : Count) : Bool :=
  match c.most with
  | some most => c.least ≤ most
  | none => true

/-- The kinds of groups: those that are counted, and those that carry flags. -/
inductive GroupKind where
  | counted
  | flagged (flags : List FlagItem)
  deriving DecidableEq, Repr

/-- A pattern as it is written. -/
inductive Tree where
  | empty (extent : Extent)
  | flags (extent : Extent) (items : List FlagItem)
  | atom (atom : Atom)
  | bracketed (extent : Extent) (negated : Bool) (body : ClassTree)
  | repetition (extent : Extent) (count : Count) (body : Tree)
  | group (extent : Extent) (kind : GroupKind) (body : Tree)
  | alternation (extent : Extent) (branches : List Tree)
  | sequence (extent : Extent) (items : List Tree)

namespace Tree

/-- Where a pattern stands. -/
def extent : Tree → Extent
  | empty e => e
  | flags e _ => e
  | atom a => a.extent
  | bracketed e _ _ => e
  | repetition e _ _ => e
  | group e _ _ => e
  | alternation e _ => e
  | sequence e _ => e

/-- Parts one after the other. -/
def ofItems (e : Extent) : List Tree → Tree
  | [] => .empty e
  | [item] => item
  | items => .sequence e items

/-- Whether a repetition may follow: flags and nothing at all cannot be repeated. -/
def isRepeatable : Tree → Bool
  | empty _ => false
  | flags _ _ => false
  | _ => true

end Tree

/-! ## Depth -/

/-- The number of levels that a pattern may have. -/
def maxLevels : Nat := 250

mutual

/-- The first part of a class that lies deeper than the levels left. -/
def ClassTree.beyond? (levels : Nat) : ClassTree → Option Extent
  | .bracketed e _ body => if levels = 0 then some e else body.beyond? (levels - 1)
  | .union e items => if levels = 0 then some e else ClassTree.anyBeyond? (levels - 1) items
  | .combined e _ left right =>
    if levels = 0 then some e
    else (left.beyond? (levels - 1)).or (right.beyond? (levels - 1))
  | .empty _ => none
  | .literal _ => none
  | .range _ _ => none
  | .ascii _ _ _ => none
  | .shorthand _ _ _ => none
  | .property _ _ _ => none

/-- `ClassTree.beyond?` over the items of a class. -/
def ClassTree.anyBeyond? (levels : Nat) : List ClassTree → Option Extent
  | [] => none
  | item :: rest => (item.beyond? levels).or (ClassTree.anyBeyond? levels rest)

end

mutual

/-- The first part of a pattern that lies deeper than the levels left. -/
def Tree.beyond? (levels : Nat) : Tree → Option Extent
  | .bracketed e _ body => if levels = 0 then some e else body.beyond? (levels - 1)
  | .repetition e _ body => if levels = 0 then some e else body.beyond? (levels - 1)
  | .group e _ body => if levels = 0 then some e else body.beyond? (levels - 1)
  | .alternation e branches => if levels = 0 then some e else Tree.anyBeyond? (levels - 1) branches
  | .sequence e items => if levels = 0 then some e else Tree.anyBeyond? (levels - 1) items
  | .empty _ => none
  | .flags _ _ => none
  | .atom _ => none

/-- `Tree.beyond?` over the parts of a pattern. -/
def Tree.anyBeyond? (levels : Nat) : List Tree → Option Extent
  | [] => none
  | item :: rest => (item.beyond? levels).or (Tree.anyBeyond? levels rest)

end

end RowAudit.Pattern
