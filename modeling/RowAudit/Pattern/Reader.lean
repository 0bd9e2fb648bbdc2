import RowAudit.Pattern.Tree
import RowAudit.Text.Class

/-!
# Reading patterns

Patterns are read from left to right. Groups that are open wait on a stack, each with the
alternatives that it interrupts; brackets have a stack of their own. Every turn of the two loops
consumes a character, so the number of characters left bounds the number of turns.

A verbose pattern may hold white space, and comments from `#` to the end of the line, between its
parts; both are skipped wherever the grammar allows it.
-/

namespace RowAudit.Pattern

open RowAudit.Text

/-- What is left to read, where it starts, whether blanks are skipped, and the names of the groups
so far. -/
structure Progress where
  rest : List Char
  place : Place
  verbose : Bool
  names : List (List Char × Extent)

/-- A step of reading. -/
abbrev Step (α : Type) := StateT Progress (Except Fault) α

/-! ## Single characters -/

/-- The next character. -/
def peek : Step (Option Char) := do pure (← get).rest.head?

/-- The character after the next. -/
def peekSecond : Step (Option Char) := do pure (← get).rest.tail.head?

/-- The place of the next character. -/
def here : Step Place := do pure (← get).place

/-- Fails at a part of the pattern. -/
def failAt {α : Type} (cause : Cause) (e : Extent) : Step α := throw ⟨cause, e, none⟩

/-- The extent of the next character. -/
def nextExtent : Step Extent := do
  let p ← get
  pure ⟨p.place, p.rest.head?.elim p.place p.place.after⟩

/-- The part from a place up to the next character. -/
def since (start : Place) : Step Extent := do pure ⟨start, ← here⟩

/-- Fails between two characters. -/
def failHere {α : Type} (cause : Cause) : Step α := do failAt cause (← since (← here))

/-- Fails at the next character. -/
def failAtNext {α : Type} (cause : Cause) : Step α := do failAt cause (← nextExtent)

/-- Passes the next character. -/
def advance : Step Unit := modify fun p =>
  match p.rest with
  | [] => p
  | c :: rest => { p with rest := rest, place := p.place.after c }

/-- The place after white space and comments, and what follows there. -/
def pastBlanks : Bool → Place → List Char → Place × List Char
  | _, p, [] => (p, [])
  | inComment, p, c :: rest =>
    if inComment then pastBlanks (c != '\n') (p.after c) rest
    else if isBlank c then pastBlanks false (p.after c) rest
    else if c == '#' then pastBlanks true (p.after c) rest
    else (p, c :: rest)

/-- Passes white space and comments in a verbose pattern. -/
def skipBlanks : Step Unit := modify fun p =>
  if p.verbose then
    let (place, rest) := pastBlanks false p.place p.rest
    { p with rest := rest, place := place }
  else p

/-- Passes the next character and the blanks after it. -/
def advanceOver : Step Unit := do
  advance
  skipBlanks

/-- Passes a text if it comes next, and says whether it did. -/
def eat (text : List Char) : Step Bool := do
  if text.isPrefixOf (← get).rest then
    text.forM fun _ => advance
    pure true
  else pure false

/-- The first character that is no blank, without a look at where a comment ends. -/
def beyondBlanks : Bool → List Char → Option Char
  | _, [] => none
  | inComment, c :: rest =>
    if isBlank c then beyondBlanks inComment rest
    else if !inComment && c == '#' then beyondBlanks true rest
    else some c

/-- The character after the next one and the blanks that follow it. -/
def peekBeyond : Step (Option Char) := do
  let p ← get
  let later := p.rest.tail
  pure (if p.verbose then (beyondBlanks false later).or later.head? else later.head?)

/-- The characters from the next one on that belong to a class, with blanks skipped, at most as
many as given. -/
def takeUpTo (belongs : Char → Bool) : Nat → Step (List Char)
  | 0 => pure []
  | n + 1 => do
    match ← peek with
    | some c =>
      if belongs c then
        advanceOver
        let more ← takeUpTo belongs n
        pure (c :: more)
      else pure []
    | none => pure []

/-- The characters from the next one on that belong to a class, with blanks skipped. -/
def takeAll (belongs : Char → Bool) : Step (List Char) := do
  takeUpTo belongs (← get).rest.length

/-! ## Numbers -/

/-- The value of a digit in any base up to sixteen. -/
def digitValue (c : Char) : Nat :=
  if isAsciiDigit c then c.toNat - '0'.toNat
  else if 'a' ≤ c && c ≤ 'f' then c.toNat - 'a'.toNat + 10
  else c.toNat - 'A'.toNat + 10

/-- The number that digits denote. -/
def numeral (base : Nat) (digits : List Char) : Nat :=
  digits.foldl (fun n c => n * base + digitValue c) 0

/-- The hexadecimal digits. -/
def isHexDigit (c : Char) : Bool :=
  isAsciiDigit c || ('a' ≤ c && c ≤ 'f') || ('A' ≤ c && c ≤ 'F')

/-- The greatest count. -/
def maxCount : Nat := 4294967295

/-- Passes a count with white space around it. What is wrong with it is told, not thrown, because
other faults may come first. -/
def readCount : Step (Except Fault Nat) := do
  let _ ← takeAll isBlank
  let start ← here
  let digits ← takeAll isAsciiDigit
  let e ← since start
  let _ ← takeAll isBlank
  let n := numeral 10 digits
  pure (if digits.isEmpty then .error ⟨.repetitionCountEmpty, e, none⟩
    else if n ≤ maxCount then .ok n
    else .error ⟨.decimalInvalid, e, none⟩)

/-- The character with a number. -/
def charOf (n : Nat) (e : Extent) : Step Char :=
  if n < 0xD800 ∨ (0xDFFF < n ∧ n < 0x110000) then pure (Char.ofNat n)
  else failAt .escapeHexInvalid e

/-- Reads a given number of hexadecimal digits. -/
def readHexDigits : Nat → Step (List Char)
  | 0 => pure []
  | n + 1 => do
    match ← peek with
    | none => failHere .escapeUnexpectedEnd
    | some c =>
      if isHexDigit c then
        advanceOver
        let more ← readHexDigits n
        pure (c :: more)
      else failAtNext .escapeHexInvalidDigit

/-- Reads the character whose number follows the letter of an escape sequence, either in braces or
as a given number of digits. -/
def readHex (start : Place) (digits : Nat) : Step Atom := do
  advanceOver
  match ← peek with
  | none => failHere .escapeUnexpectedEnd
  | some '{' =>
    let brace ← here
    let inner := brace.after '{'
    advanceOver
    let number ← takeAll isHexDigit
    match ← peek with
    | none => failAt .escapeUnexpectedEnd (← since brace)
    | some '}' =>
      let e ← since inner
      advanceOver
      if number.isEmpty then failAt .escapeHexEmpty (← since brace)
      else
        let c ← charOf (numeral 16 number) e
        pure (.literal ⟨← since start, c, false⟩)
    | some _ => failAtNext .escapeHexInvalidDigit
  | some _ =>
    let first ← here
    let number ← readHexDigits digits
    let c ← charOf (numeral 16 number) (← since first)
    pure (.literal ⟨← since start, c, digits == 2⟩)

/-! ## Escape sequences -/

/-- A name cut at the first place where a mark occurs. -/
def cutAt (mark : List Char) : List Char → Option (List Char × List Char)
  | [] => none
  | c :: rest =>
    if mark.isPrefixOf (c :: rest) then some ([], (c :: rest).drop mark.length)
    else (cutAt mark rest).map fun (before, after) => (c :: before, after)

/-- The property that a text between braces asks for. -/
def PropertyQuery.ofText (text : List Char) : PropertyQuery :=
  match cutAt ['!', '='] text with
  | some (name, value) => .valued true name value
  | none =>
    match (cutAt [':'] text).or (cutAt ['='] text) with
    | some (name, value) => .valued false name value
    | none => .named text

/-- Reads a class of characters with a property, from the letter `p` on. -/
def readProperty (start : Place) (negated : Bool) : Step Atom := do
  advanceOver
  match ← peek with
  | none => failHere .escapeUnexpectedEnd
  | some '{' =>
    advanceOver
    let name ← takeAll (· != '}')
    match ← peek with
    | none => failHere .escapeUnexpectedEnd
    | some _ =>
      advance
      pure (.property (← since start) negated (.ofText name))
  | some '\\' => failAtNext .propertyInvalid
  | some c =>
    advanceOver
    pure (.property (← since start) negated (.named [c]))

/-- Characters with a meaning in patterns, which stand for themselves after a backslash. -/
def isMeta (c : Char) : Bool := "\\.+*?()|[]\x7b\x7d^$#&-~".toList.contains c

/-- Characters that stand for themselves after a backslash: all of ASCII but letters, digits and
the angle brackets. -/
def isEscapable (c : Char) : Bool :=
  isMeta c || (c.toNat < 128 && !isAsciiLetter c && !isAsciiDigit c && c != '<' && c != '>')

/-- Letters that name a control character after a backslash. -/
def control? : Char → Option Char
  | 'a' => some (Char.ofNat 7)
  | 'f' => some (Char.ofNat 12)
  | 't' => some '\t'
  | 'n' => some '\n'
  | 'r' => some '\r'
  | 'v' => some (Char.ofNat 11)
  | _ => none

/-- The letters of the special word boundaries. -/
def isBoundaryLetter (c : Char) : Bool := isAsciiLetter c || c == '-'

/-- Reads the rest of a special word boundary, after the sequence for a word boundary. Braces that
do not start with a letter are left alone: they hold a count. -/
def readBoundary (start : Place) : Step Atom := do
  let plain ← since start
  match ← peek with
  | some '{' =>
    let atBrace ← get
    advanceOver
    match ← peek with
    | none => failAt .wordBoundaryUnexpectedEnd (← since start)
    | some c =>
      if isBoundaryLetter c then
        let inner ← here
        let name ← takeAll isBoundaryLetter
        if (← peek) == some '}' then
          let e ← since inner
          advance
          match String.ofList name with
          | "start" => pure (.anchor (← since start) .wordStart)
          | "end" => pure (.anchor (← since start) .wordEnd)
          | "start-half" => pure (.anchor (← since start) .wordStartHalf)
          | "end-half" => pure (.anchor (← since start) .wordEndHalf)
          | _ => failAt .wordBoundaryUnrecognized e
        else failAt .wordBoundaryUnclosed (← since atBrace.place)
      else
        set atBrace
        pure (.anchor plain .boundary)
  | _ => pure (.anchor plain .boundary)

/-- Reads an escape sequence. -/
def readEscape : Step Atom := do
  let start ← here
  advance
  match ← peek with
  | none => failAt .escapeUnexpectedEnd (← since start)
  | some c =>
    if isAsciiDigit c then failAt .backreference ⟨start, (← nextExtent).stop⟩
    else if c == 'x' then readHex start 2
    else if c == 'u' then readHex start 4
    else if c == 'U' then readHex start 8
    else if c == 'p' || c == 'P' then readProperty start (c == 'P')
    else
      advance
      let e ← since start
      if isEscapable c then pure (.literal ⟨e, c, false⟩)
      else
        match control? c with
        | some d => pure (.literal ⟨e, d, false⟩)
        | none =>
          match c with
          | 'd' => pure (.shorthand e false .digit)
          | 's' => pure (.shorthand e false .blank)
          | 'w' => pure (.shorthand e false .word)
          | 'D' => pure (.shorthand e true .digit)
          | 'S' => pure (.shorthand e true .blank)
          | 'W' => pure (.shorthand e true .word)
          | 'A' => pure (.anchor e .textStart)
          | 'z' => pure (.anchor e .textEnd)
          | 'B' => pure (.anchor e .noBoundary)
          | '<' => pure (.anchor e .wordStart)
          | '>' => pure (.anchor e .wordEnd)
          | 'b' => readBoundary start
          | _ => failAt .escapeUnrecognized e

/-- Reads the next character as one that stands for itself. -/
def readVerbatim : Step Atom := do
  let e ← nextExtent
  let c := ((← peek)).getD ' '
  advance
  pure (.literal ⟨e, c, false⟩)

/-- Reads an atom outside brackets. -/
def readAtom : Step Atom := do
  let e ← nextExtent
  match ← peek with
  | some '\\' => readEscape
  | some '.' =>
    advance
    pure (.dot e)
  | some '^' =>
    advance
    pure (.anchor e .lineStart)
  | some '$' =>
    advance
    pure (.anchor e .lineEnd)
  | _ => readVerbatim

/-! ## Brackets -/

/-- Items of a class, latest first, and the place before the first of them. -/
structure Items where
  before : Place
  items : List ClassTree

/-- The items as a class. -/
def Items.toTree (is : Items) : ClassTree := .ofItems is.before is.items.reverse

/-- What waits while brackets are read: the items around an open bracket, or the left side of an
operation. -/
inductive OpenClass where
  | bracket (outer : Items) (opening : Extent) (negated : Bool)
  | operation (operator : ClassOperator) (left : ClassTree)

/-- The part of the pattern that opened the innermost bracket. -/
def OpenClass.innermost : List OpenClass → Option Extent
  | [] => none
  | .bracket _ opening _ :: _ => some opening
  | .operation _ _ :: rest => innermost rest

/-- Fails because the innermost bracket is not closed. -/
def failUnclosed {α : Type} (stack : List OpenClass) : Step α := do
  let p ← here
  failAt .classUnclosed ((OpenClass.innermost stack).getD ⟨p, p⟩)

/-- The items that an opening bracket starts with: minus signs, or else a closing bracket, stand
for themselves there. -/
def readOpeningMinuses (start : Place) : Nat → List ClassTree → Step (List ClassTree)
  | 0, items => pure items
  | n + 1, items => do
    if (← peek) == some '-' then
      let e ← nextExtent
      advanceOver
      if (← peek).isNone then failAt .classUnclosed ⟨start, start⟩
      else readOpeningMinuses start n (.literal ⟨e, '-', false⟩ :: items)
    else pure items

/-- Fails if the pattern ends inside the bracket that starts at a place. -/
def mustGoOn (start : Place) : Step Unit := do
  if (← peek).isNone then failAt .classUnclosed (← since start) else pure ()

/-- Reads an opening bracket with what belongs to it. -/
def readOpening (outer : Items) : Step (OpenClass × Items) := do
  let start ← here
  advanceOver
  mustGoOn start
  let negated := (← peek) == some '^'
  if negated then
    advanceOver
    mustGoOn start
  let before ← here
  let items ← readOpeningMinuses start (← get).rest.length []
  let items ←
    if items.isEmpty && (← peek) == some ']' then do
      let e ← nextExtent
      advanceOver
      mustGoOn start
      pure [ClassTree.literal ⟨e, ']', false⟩]
    else pure items
  pure (.bracket outer (← since start) negated, ⟨before, items⟩)

/-- Reads a named class of ASCII characters. If there is none, nothing is read. -/
def readAsciiClass : Step (Option ClassTree) := do
  let p ← get
  let start := p.place
  let negated := ['[', ':', '^'].isPrefixOf p.rest
  let body := p.rest.drop (if negated then 3 else 2)
  let name := body.takeWhile (· != ':')
  if ['[', ':'].isPrefixOf p.rest && [':', ']'].isPrefixOf (body.drop name.length) then
    match AsciiClass.named? name with
    | some kind =>
      let width := (if negated then 3 else 2) + name.length + 2
      (p.rest.take width).forM fun _ => advance
      pure (some (.ascii (← since start) negated kind))
    | none => pure none
  else pure none

/-- An atom as an item of a class. -/
def Atom.toItem : Atom → Except Fault ClassTree
  | .literal l => .ok (.literal l)
  | .shorthand e negated kind => .ok (.shorthand e negated kind)
  | .property e negated query => .ok (.property e negated query)
  | a => .error ⟨.classEscapeInvalid, a.extent, none⟩

/-- An atom as a boundary of a range. -/
def Atom.toBoundary : Atom → Except Fault Literal
  | .literal l => .ok l
  | a => .error ⟨.classRangeLiteral, a.extent, none⟩

/-- Reads a character or an escape sequence inside brackets. -/
def readClassAtom : Step Atom := do
  if (← peek) == some '\\' then readEscape else readVerbatim

/-- Reads an item inside brackets: a range, or a single atom. A minus sign before the closing
bracket or another minus sign starts no range. -/
def readItem (stack : List OpenClass) : Step ClassTree := do
  let first ← readClassAtom
  skipBlanks
  if (← peek).isNone then failUnclosed stack
  else
    let beyond ← peekBeyond
    if (← peek) != some '-' || beyond == some ']' || beyond == some '-' then first.toItem
    else
      advanceOver
      if (← peek).isNone then failUnclosed stack
      else
        let last ← readClassAtom
        let e : Extent := ⟨first.extent.start, last.extent.stop⟩
        let lo ← first.toBoundary
        let hi ← last.toBoundary
        if lo.char ≤ hi.char then pure (.range lo hi) else failAt .classRangeInvalid e

/-- The operator that a doubled sign is. -/
def classOperator? : Char → Option ClassOperator
  | '&' => some .intersection
  | '-' => some .difference
  | '~' => some .symmetricDifference
  | _ => none

/-- Ends the right side of an operation, if one waits. -/
def OpenClass.joined : List OpenClass → ClassTree → List OpenClass × ClassTree
  | .operation operator left :: rest, right =>
    (rest, .combined ⟨left.extent.start, right.extent.stop⟩ operator left right)
  | stack, right => (stack, right)

/-- Reads brackets, from the first opening bracket to the one that closes it. -/
def readClassFrom : Nat → List OpenClass → Items → Step Tree
  | 0, stack, _ => failUnclosed stack
  | n + 1, stack, current => do
    skipBlanks
    match ← peek with
    | none => failUnclosed stack
    | some '[' =>
      let named ← if stack.isEmpty then pure none else readAsciiClass
      match named with
      | some item => readClassFrom n stack { current with items := item :: current.items }
      | none =>
        let (opened, inner) ← readOpening current
        readClassFrom n (opened :: stack) inner
    | some ']' =>
      match OpenClass.joined stack current.toTree with
      | (.bracket outer opening negated :: rest, body) =>
        advance
        let e ← since opening.start
        if rest.isEmpty then pure (.bracketed e negated body)
        else
          readClassFrom n rest { outer with items := .bracketed e negated body :: outer.items }
      | (rest, _) => failUnclosed rest
    | some c =>
      let doubled := (← peekSecond) == some c
      match (if doubled then classOperator? c else none) with
      | some operator =>
        let (rest, left) := OpenClass.joined stack current.toTree
        advance
        advance
        readClassFrom n (.operation operator left :: rest) ⟨← here, []⟩
      | none =>
        let item ← readItem stack
        readClassFrom n stack { current with items := item :: current.items }

/-- Reads brackets. -/
def readClass : Step Tree := do
  let p ← get
  readClassFrom (p.rest.length + 1) [] ⟨p.place, []⟩

/-! ## Groups -/

/-- The flag that a letter names. -/
def Flag.named? : Char → Option Flag
  | 'i' => some .ignoreCase
  | 'm' => some .multiLine
  | 's' => some .dotAll
  | 'U' => some .swapGreed
  | 'u' => some .unicode
  | 'R' => some .carriageReturns
  | 'x' => some .verbose
  | _ => none

/-- Adds an item to a list of flags, in which no item occurs twice. -/
def addFlag (items : List (FlagItem × Extent)) (item : FlagItem) (e : Extent) (twice : Cause) :
    Step (List (FlagItem × Extent)) :=
  match items.find? (·.1 = item) with
  | some (_, earlier) => throw ⟨twice, e, some earlier⟩
  | none => pure (items ++ [(item, e)])

/-- Reads flags up to the sign that ends them. A minus sign must not be the last. -/
def readFlags : Nat → List (FlagItem × Extent) → Step (List FlagItem)
  | 0, _ => failHere .flagUnexpectedEnd
  | n + 1, items => do
    let e ← nextExtent
    match ← peek with
    | none => failHere .flagUnexpectedEnd
    | some c =>
      if c == ':' || c == ')' then
        match items.getLast? with
        | some (.minus, e) => failAt .flagDanglingNegation e
        | _ => pure (items.map Prod.fst)
      else
        let items ←
          if c == '-' then addFlag items .minus e .flagRepeatedNegation
          else
            match Flag.named? c with
            | some flag => addFlag items (.turn flag) e .flagDuplicate
            | none => failAt .flagUnrecognized e
        advance
        readFlags n items

/-- Characters that the name of a group may hold; the first is a letter or an underscore. -/
def isNameChar (isFirst : Bool) (c : Char) : Bool :=
  c == '_' || (if isFirst then isAlphabetic c
    else c == '.' || c == '[' || c == ']' || isAlphanumeric c)

/-- Reads the characters of the name of a group, up to the bracket that ends it. -/
def readNameChars : Nat → Bool → Step (List Char)
  | 0, _ => pure []
  | n + 1, isFirst => do
    match ← peek with
    | none => pure []
    | some c =>
      if c == '>' then pure []
      else if isNameChar isFirst c then
        advance
        let more ← readNameChars n false
        pure (c :: more)
      else failAtNext .groupNameInvalid

/-- Reads the name of a group, which no earlier group has. -/
def readName : Step Unit := do
  let start ← here
  let name ← readNameChars (← get).rest.length true
  let e ← since start
  if (← peek).isNone then failHere .groupNameUnexpectedEnd
  else
    advance
    if name.isEmpty then failAt .groupNameEmpty ⟨start, start⟩
    else
      let p ← get
      match p.names.find? (·.1 == name) with
      | some (_, earlier) => throw ⟨.groupNameDuplicate, e, some earlier⟩
      | none => set { p with names := p.names ++ [(name, e)] }

/-- What an opening parenthesis turns out to be: flags for what follows, or a group. -/
inductive Opening where
  | flags (extent : Extent) (items : List FlagItem)
  | group (parenthesis : Extent) (kind : GroupKind)

/-- Reads an opening parenthesis with what belongs to it. -/
def readGroup : Step Opening := do
  let parenthesis ← nextExtent
  advanceOver
  let inner ← here
  let around ← ["?=", "?!", "?<=", "?<!"].anyM fun text => eat text.toList
  if around then failAt .lookAround (← since parenthesis.start)
  else if (← eat "?P<".toList) || (← eat "?<".toList) then
    readName
    pure (.group parenthesis .counted)
  else if ← eat ['?'] then
    if (← peek).isNone then failAt .groupUnclosed parenthesis
    else
      let items ← readFlags ((← get).rest.length + 1) []
      let closed := (← peek) == some ')'
      advance
      if !closed then pure (.group parenthesis (.flagged items))
      else if items.isEmpty then failAt .repetitionMissing ⟨inner, inner⟩
      else pure (.flags (← since parenthesis.start) items)
  else pure (.group parenthesis .counted)

/-! ## Repetitions -/

/-- The part that a repetition repeats, and the parts before it. -/
def repeated (items : List Tree) : Step (Tree × List Tree) :=
  match items with
  | body :: earlier =>
    if body.isRepeatable then pure (body, earlier) else failHere .repetitionMissing
  | [] => failHere .repetitionMissing

/-- Passes the question mark that makes a repetition reluctant. -/
def skipReluctance : Step Unit := do
  if (← peek) == some '?' then advance

/-- Reads a repetition that is a single sign. -/
def readSign (count : Count) (items : List Tree) : Step (List Tree) := do
  let (body, earlier) ← repeated items
  advance
  skipReluctance
  pure (.repetition (← since body.extent.start) count body :: earlier)

/-- Fails if the pattern ends inside the braces that start at a place. -/
def mustCount (start : Place) : Step Unit := do
  if (← peek).isNone then failAt .repetitionCountUnclosed (← since start)

/-- Reads a repetition with counts in braces. -/
def readCounted (items : List Tree) : Step (List Tree) := do
  let start ← here
  let (body, earlier) ← repeated items
  advanceOver
  mustCount start
  let least ← readCount
  mustCount start
  let count ← do
    if (← peek) == some ',' then
      advanceOver
      mustCount start
      if (← peek) == some '}' then
        let n ← least
        pure (⟨n, none⟩ : Count)
      else
        let n ← least
        let m ← (← readCount : Except Fault Nat)
        pure ⟨n, some m⟩
    else
      let n ← least
      pure ⟨n, some n⟩
  if (← peek) != some '}' then failAt .repetitionCountUnclosed (← since start)
  else
    advanceOver
    skipReluctance
    if count.isValid then
      pure (.repetition (← since body.extent.start) count body :: earlier)
    else failAt .repetitionCountInvalid (← since start)

/-! ## Whole patterns -/

/-- The alternatives of a group: those that are finished, latest first, and the parts of the one
that is being read, latest first. -/
structure Branches where
  start : Place
  finished : List Tree
  branchStart : Place
  items : List Tree

namespace Branches

/-- Nothing yet. -/
def begin (p : Place) : Branches := ⟨p, [], p, []⟩

/-- Ends an alternative. -/
def split (b : Branches) (stop next : Place) : Branches :=
  ⟨b.start, .ofItems ⟨b.branchStart, stop⟩ b.items.reverse :: b.finished, next, []⟩

/-- Adds a part. -/
def add (b : Branches) (item : Tree) : Branches := { b with items := item :: b.items }

/-- The alternatives up to a place as one pattern. -/
def toTree (b : Branches) (stop : Place) : Tree :=
  let last := Tree.ofItems ⟨b.branchStart, stop⟩ b.items.reverse
  if b.finished.isEmpty then last
  else .alternation ⟨b.start, stop⟩ (b.finished.reverse ++ [last])

end Branches

/-- A group that is open: its parenthesis and kind, the alternatives that it interrupts, and whether
blanks were skipped before it. -/
structure OpenGroup where
  parenthesis : Extent
  kind : GroupKind
  outer : Branches
  verbose : Bool

/-- Whether blanks are skipped after flags. -/
def verboseAfter (items : List FlagItem) (before : Bool) : Bool :=
  (FlagItem.state? .verbose true items).getD before

/-- Reads a pattern to its end. -/
def readFrom : Nat → List OpenGroup → Branches → Step Tree
  | 0, _, b => do pure (b.toTree (← here))
  | n + 1, stack, b => do
    skipBlanks
    match ← peek with
    | none =>
      match stack with
      | g :: _ => failAt .groupUnclosed g.parenthesis
      | [] => pure (b.toTree (← here))
    | some '(' =>
      match ← readGroup with
      | .flags e items =>
        modify fun p => { p with verbose := verboseAfter items p.verbose }
        readFrom n stack (b.add (.flags e items))
      | .group parenthesis kind =>
        let p ← get
        let items := match kind with
          | .counted => []
          | .flagged items => items
        set { p with verbose := verboseAfter items p.verbose }
        readFrom n (⟨parenthesis, kind, b, p.verbose⟩ :: stack) (.begin (← here))
    | some ')' =>
      match stack with
      | [] => failAtNext .groupUnopened
      | g :: rest =>
        modify fun p => { p with verbose := g.verbose }
        let body := b.toTree (← here)
        advance
        readFrom n rest (g.outer.add (.group (← since g.parenthesis.start) g.kind body))
    | some '|' =>
      let stop ← here
      advance
      readFrom n stack (b.split stop (← here))
    | some '[' =>
      let tree ← readClass
      readFrom n stack (b.add tree)
    | some '?' => readFrom n stack { b with items := ← readSign ⟨0, some 1⟩ b.items }
    | some '*' => readFrom n stack { b with items := ← readSign ⟨0, none⟩ b.items }
    | some '+' => readFrom n stack { b with items := ← readSign ⟨1, none⟩ b.items }
    | some '{' => readFrom n stack { b with items := ← readCounted b.items }
    | some _ =>
      let a ← readAtom
      readFrom n stack (b.add (.atom a))

/-- Reads a pattern, verbose or not. Its parts must not lie too deep. -/
def Tree.read (source : String) (verbose : Bool) : Except Fault Tree := do
  let cs := source.toList
  let start := Place.first
  let (tree, _) ← (readFrom (cs.length + 1) [] (.begin start)).run ⟨cs, start, verbose, []⟩
  match tree.beyond? maxLevels with
  | some e => .error ⟨.nestLimitExceeded maxLevels, e, none⟩
  | none => .ok tree

end RowAudit.Pattern
