import RowAudit.Formula.Fault
import RowAudit.Text.Class

/-!
# Reading tokens

`Token.scan` cuts the characters of a formula into tokens. At each character that is no white space
`lexeme` reads the longest token starting there and says how many characters it takes beyond the
first. Every mistake is reported at the start of the token in which it lies.
-/

namespace RowAudit.Formula

open RowAudit.Text

/-- The characters that a name starts with. -/
def isNameStart (c : Char) : Bool := isAlphabetic c || c == '_' || c == '$'

/-- The characters that a name goes on with. -/
def isNamePart (c : Char) : Bool := isAlphanumeric c || c == '_' || c == '$'

/-! ## Numbers -/

/-- The state of a number that is being read. -/
structure Numeral where
  pointSeen : Bool
  powerSeen : Bool
  /-- The last character was the mark of a power of ten. -/
  afterPower : Bool

/-- Whether a number goes on with a character, and how. A sign belongs to it only right after the
mark of a power of ten. -/
def Numeral.next? (n : Numeral) (c : Char) : Option Numeral :=
  if isAsciiDigit c then some { n with afterPower := false }
  else if c == '.' then
    if n.pointSeen || n.powerSeen then none else some ⟨true, n.powerSeen, false⟩
  else if c == 'e' || c == 'E' then
    if n.powerSeen then none else some ⟨n.pointSeen, true, true⟩
  else if c == '+' || c == '-' then
    if n.afterPower then some { n with afterPower := false } else none
  else none

/-- The characters with which a number goes on. -/
def Numeral.take (n : Numeral) : List Char → List Char
  | [] => []
  | c :: rest =>
    match n.next? c with
    | some m => c :: m.take rest
    | none => []

/-- The number that starts with a digit or a point. -/
def numberLexeme (c : Char) (cs : List Char) : Except Flaw (Token × Nat) :=
  let more := Numeral.take ⟨c == '.', false, false⟩ cs
  match Number.ofChars? (c :: more) with
  | some x => .ok (.number x, more.length)
  | none => .error (.badNumber (String.ofList (c :: more)))

/-! ## Texts, names and signs -/

/-- The character that a backslash and a letter stand for. -/
def unescaped : Char → Char
  | 'n' => '\n'
  | 't' => '\t'
  | 'r' => '\r'
  | c => c

/-- The content of a text up to its closing quote, and the number of characters read. -/
def quotedText (quote : Char) : List Char → Option (List Char × Nat)
  | [] => none
  | '\\' :: [] => none
  | '\\' :: c :: rest => (quotedText quote rest).map fun (s, n) => (unescaped c :: s, n + 2)
  | c :: rest =>
    if c = quote then some ([], 1)
    else (quotedText quote rest).map fun (s, n) => (c :: s, n + 1)

/-- The token of a word: an operator word in any case, or else a name. -/
def wordToken (s : String) : Token :=
  if eqIgnoringAsciiCase s "and" then .sign .and
  else if eqIgnoringAsciiCase s "or" then .sign .or
  else if eqIgnoringAsciiCase s "not" then .sign .not
  else .name s

/-- The longest sign that starts with a character, and the number of characters beyond it. -/
def sign? : Char → List Char → Option (Sign × Nat)
  | '+', _ => some (.plus, 0)
  | '-', _ => some (.minus, 0)
  | '*', _ => some (.star, 0)
  | '/', _ => some (.slash, 0)
  | '%', _ => some (.percent, 0)
  | '(', _ => some (.openParen, 0)
  | ')', _ => some (.closeParen, 0)
  | '[', _ => some (.openBracket, 0)
  | ']', _ => some (.closeBracket, 0)
  | ',', _ => some (.comma, 0)
  | '.', _ => some (.dot, 0)
  | '=', '=' :: '=' :: _ => some (.equal, 2)
  | '=', '=' :: _ => some (.equal, 1)
  | '=', _ => some (.equal, 0)
  | '!', '=' :: '=' :: _ => some (.notEqual, 2)
  | '!', '=' :: _ => some (.notEqual, 1)
  | '!', _ => some (.not, 0)
  | '<', '=' :: _ => some (.atMost, 1)
  | '<', '>' :: _ => some (.notEqual, 1)
  | '<', _ => some (.less, 0)
  | '>', '=' :: _ => some (.atLeast, 1)
  | '>', _ => some (.greater, 0)
  | '&', '&' :: _ => some (.and, 1)
  | '|', '|' :: _ => some (.or, 1)
  | _, _ => none

/-- Whether the next character is a digit. -/
def startsWithDigit : List Char → Bool
  | c :: _ => isAsciiDigit c
  | [] => false

/-- The token that starts with a character, and the number of characters that it takes beyond it. -/
def lexeme (c : Char) (cs : List Char) : Except Flaw (Token × Nat) :=
  if isAsciiDigit c || (c == '.' && startsWithDigit cs) then numberLexeme c cs
  else if c == '"' || c == '\'' || c == '`' then
    match quotedText c cs with
    | some (s, n) => .ok (.text (String.ofList s), n)
    | none => .error .openText
  else if isNameStart c then
    let more := cs.takeWhile isNamePart
    .ok (wordToken (String.ofList (c :: more)), more.length)
  else
    match sign? c cs with
    | some (s, n) => .ok (.sign s, n)
    | none => .error (.strayCharacter c)

/-- The tokens of a row of characters of which the first one stands at a position. The first `skip`
characters belong to a token that has been read. -/
def Token.scanFrom (skip position : Nat) : List Char → Except Fault (List Spanned)
  | [] => .ok []
  | c :: cs =>
    match skip with
    | n + 1 => scanFrom n (position + c.utf8Size) cs
    | 0 =>
      if isBlank c then scanFrom 0 (position + c.utf8Size) cs
      else
        match lexeme c cs with
        | .error flaw => .error (.malformed flaw position)
        | .ok (t, n) =>
          (scanFrom n (position + c.utf8Size) cs).map fun ts => ⟨t, position⟩ :: ts

/-- The tokens of a text that starts at a position. -/
def Token.scan (s : String) (position : Nat) : Except Fault (List Spanned) :=
  scanFrom 0 position s.toList

end RowAudit.Formula
