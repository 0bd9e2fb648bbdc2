import RowAudit.Pattern.CharSet
import RowAudit.Pattern.Property

/-!
# Expressions and the places that they reach

What a pattern means is an expression over steps, which pass one character, and holds, which stay
where they are. To match a text, every step and every hold is replaced by the set of places of the
text at which it applies; `Expr.reach` then carries a set of places from where a match may start to
where it may end. A set of places is a number whose binary digits say which places belong to it.
-/

namespace RowAudit.Pattern

open RowAudit.Text

/-! ## Conditions on places -/

/-- A condition on a place of a text. -/
inductive Look where
  | start
  | stop
  | lineStart
  | lineStop
  /-- After a line end, a carriage return, or both together, but not between the two. -/
  | breakStart
  /-- Before a line end, a carriage return, or both together, but not between the two. -/
  | breakStop
  /-- Where words begin or end; words are made of the characters of a set. -/
  | boundary (word : CharSet)
  | noBoundary (word : CharSet)
  | wordStart (word : CharSet)
  | wordStop (word : CharSet)
  | notAfterWord (word : CharSet)
  | notBeforeWord (word : CharSet)
  deriving DecidableEq, Repr

/-- Whether there is a character, and it belongs to a set. -/
def isIn (s : CharSet) (c : Option Char) : Bool := c.elim false s.contains

/-- Whether a condition holds between two characters; there is none before the first place and
after the last. -/
def Look.holds (look : Look) (before after : Option Char) : Bool :=
  match look with
  | start => before.isNone
  | stop => after.isNone
  | lineStart => before.isNone || before == some '\n'
  | lineStop => after.isNone || after == some '\n'
  | breakStart =>
    before.isNone || before == some '\n' || (before == some '\r' && after != some '\n')
  | breakStop =>
    after.isNone || after == some '\r' || (after == some '\n' && before != some '\r')
  | boundary word => isIn word before != isIn word after
  | noBoundary word => isIn word before == isIn word after
  | wordStart word => !isIn word before && isIn word after
  | wordStop word => isIn word before && !isIn word after
  | notAfterWord word => !isIn word before
  | notBeforeWord word => !isIn word after

/-! ## Expressions -/

/-- An expression over steps and holds. -/
inductive Expr (σ : Type) (η : Type) where
  | empty
  | step (set : σ)
  | hold (look : η)
  | both (left right : Expr σ η)
  | either (left right : Expr σ η)
  | repetition (least : Nat) (most : Option Nat) (body : Expr σ η)
  | capture (body : Expr σ η)

namespace Expr

variable {σ η : Type}

/-- An expression with its steps and holds replaced. -/
def map {σ' η' : Type} (f : σ → σ') (g : η → η') : Expr σ η → Expr σ' η'
  | empty => empty
  | step s => step (f s)
  | hold h => hold (g h)
  | both a b => both (a.map f g) (b.map f g)
  | either a b => either (a.map f g) (b.map f g)
  | repetition least most a => repetition least most (a.map f g)
  | capture a => capture (a.map f g)

/-- Whether all matches are empty. -/
def isWidthless : Expr σ η → Bool
  | empty => true
  | step _ => false
  | hold _ => true
  | both a b => a.isWidthless && b.isWidthless
  | either a b => a.isWidthless && b.isWidthless
  | repetition _ most a => a.isWidthless || most == some 0
  | capture a => a.isWidthless

/-- Repeats an expression. More than one empty match changes nothing. -/
def repeated (least : Nat) (most : Option Nat) (a : Expr σ η) : Expr σ η :=
  if a.isWidthless then repetition (min least 1) (some (min (most.getD 1) 1)) a
  else repetition least most a

/-! ## Sets of places -/

/-- The places of a text, counted from `n`, that satisfy a condition on what comes before and
after. -/
def placesFrom (holds : Option Char → Option Char → Bool) : Option Char → List Char → Nat
  | before, [] => if holds before none then 1 else 0
  | before, c :: rest =>
    (if holds before (some c) then 1 else 0) + 2 * placesFrom holds (some c) rest

/-- The places of a text that satisfy a condition. -/
def places (holds : Option Char → Option Char → Bool) (text : List Char) : Nat :=
  placesFrom holds none text

/-- Applies a step a number of times. -/
def times (f : Nat → Nat) : Nat → Nat → Nat
  | 0, s => s
  | n + 1, s => if s = 0 then 0 else times f n (f s)

/-- Adds what up to a number of steps reach. -/
def upTo (f : Nat → Nat) : Nat → Nat → Nat
  | 0, s => s
  | n + 1, s =>
    let t := s ||| f s
    if t = s then s else upTo f n t

/-- The places at which matches end that start at one of the given places. Since a text has no more
than `count` places, so many rounds add all that a repetition can reach. -/
def reach (count : Nat) : Expr Nat Nat → Nat → Nat
  | empty, s => s
  | step here, s => (s &&& here) <<< 1
  | hold here, s => s &&& here
  | both a b, s => b.reach count (a.reach count s)
  | either a b, s => a.reach count s ||| b.reach count s
  | repetition least most a, s =>
    let rounds := match most with
      | some n => min (n - least) count
      | none => count
    upTo (a.reach count) rounds (times (a.reach count) least s)
  | capture a, s => a.reach count s

/-- An expression laid over a text: its steps and holds as sets of places. -/
def onText (text : List Char) (a : Expr CharSet Look) : Expr Nat Nat :=
  a.map (fun s => places (fun _ after => isIn s after) text)
    (fun look => places look.holds text)

/-- Whether a match occurs anywhere in a text. -/
def occursIn (a : Expr CharSet Look) (text : List Char) : Bool :=
  let count := text.length + 1
  (a.onText text).reach count (Nat.pow 2 count - 1) != 0

end Expr

end RowAudit.Pattern
