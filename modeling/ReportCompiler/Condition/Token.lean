import ReportCompiler.Number.Reader
import ReportCompiler.Text.Quoted
import ReportCompiler.Text.Word

/-!
Tokens of a condition. Blanks divide tokens and are dropped; at every other place the first kind that
fits takes as much as it can, in the order operator, text, number, path.
-/

namespace ReportCompiler

open ReportCompiler.Text

namespace Condition

inductive TokenKind where
  | operator
  | text
  | number
  | path
deriving DecidableEq, Repr, Inhabited

/-- A token with its text as written. -/
structure Token where
  kind : TokenKind
  source : String
deriving DecidableEq, Repr, Inhabited

/-- What is wrong with a condition. -/
inductive Flaw where
  | unexpectedCharacter (c : Char) (position : Nat)
  | unexpectedToken (source : String)
  | unexpectedEnd
  | unclosed
deriving DecidableEq, Repr

def Flaw.message : Flaw → String
  | unexpectedCharacter c position =>
      "Unexpected character " ++ quote (String.singleton c) ++ " at " ++ toString position
  | unexpectedToken source => "Unexpected token " ++ quote source
  | unexpectedEnd => "Unexpected end of condition"
  | unclosed => "Missing closing parenthesis"

/-! ### One token -/

/-- All operators; one that begins with another comes before it. -/
def operators : List String :=
  ["===", "!==", "==", "!=", ">=", "<=", "&&", "||", "<", ">", "!", "(", ")"]

/-- A token of one kind at the front of a text, and what follows it. -/
abbrev Scanner := List Char → Option (List Char × List Char)

def operator? : Scanner := fun chars =>
  (operators.find? fun operator => operator.toList.isPrefixOf chars).map
    fun operator => (operator.toList, chars.drop operator.toList.length)

/-- The rest of a quoted text, with its closing mark. A backslash takes the next character with it,
which may not be a line end. -/
def quoted? (mark : Char) : Scanner
  | [] => none
  | '\\' :: c :: rest =>
      if c == '\n' then none
      else (quoted? mark rest).map fun (inside, after) => ('\\' :: c :: inside, after)
  | c :: rest =>
      if c == mark then some ([c], rest)
      else if c == '\\' then none
      else (quoted? mark rest).map fun (inside, after) => (c :: inside, after)

def text? : Scanner
  | [] => none
  | c :: rest =>
      if c == '\'' || c == '"' then
        (quoted? c rest).map fun (inside, after) => (c :: inside, after)
      else none

/-- Digits with an optional point, or a point followed by digits. -/
def unsigned? : Scanner := fun chars =>
  let whole := chars.takeWhile isDecimalDigit
  match chars.dropWhile isDecimalDigit with
  | '.' :: rest =>
      let fraction := rest.takeWhile isDecimalDigit
      if whole.isEmpty && fraction.isEmpty then none
      else some (whole ++ '.' :: fraction, rest.dropWhile isDecimalDigit)
  | after => if whole.isEmpty then none else some (whole, after)

def number? : Scanner
  | '-' :: rest => (unsigned? rest).map fun (digits, after) => ('-' :: digits, after)
  | chars => unsigned? chars

def startsName (c : Char) : Bool := isLatinLetter c || c == '_' || c == '$'

def isNamePart (c : Char) : Bool := isWord c || c == '$'

/-- The mark between two names of a path and what follows it. -/
def divider? : Scanner
  | '.' :: rest => some (['.'], rest)
  | '?' :: '.' :: rest => some (['?', '.'], rest)
  | _ => none

/-- Further names of a path; a divider belongs to the path only with a name after it. -/
def names : Nat → List Char → List Char × List Char
  | 0, chars => ([], chars)
  | fuel + 1, chars =>
      match divider? chars with
      | some (mark, rest) =>
          let name := rest.takeWhile isNamePart
          if name.isEmpty then ([], chars)
          else
            let (further, after) := names fuel (rest.dropWhile isNamePart)
            (mark ++ name ++ further, after)
      | none => ([], chars)

def path? : Scanner
  | [] => none
  | c :: rest =>
      if startsName c then
        let (further, after) := names rest.length (rest.dropWhile isNamePart)
        some (c :: rest.takeWhile isNamePart ++ further, after)
      else none

/-- The scanners in the order in which they are tried. -/
def scanners : List (TokenKind × Scanner) :=
  [(.operator, operator?), (.text, text?), (.number, number?), (.path, path?)]

def token? (chars : List Char) : Option (Token × List Char) :=
  scanners.findSome? fun (kind, scan) =>
    (scan chars).map fun (source, after) => ({ kind, source := String.ofList source }, after)

/-! ### All tokens -/

/-- Tokens of a text that begins at `position`. -/
def tokensFrom (position : Nat) : Nat → List Char → Except Flaw (List Token)
  | 0, _ => .ok []
  | _, [] => .ok []
  | fuel + 1, c :: rest =>
      if isBlank c then tokensFrom (position + 1) fuel rest
      else
        match token? (c :: rest) with
        | some (token, after) => do
            return token :: (← tokensFrom (position + token.source.length) fuel after)
        | none => .error (.unexpectedCharacter c position)

def tokens (condition : String) : Except Flaw (List Token) :=
  tokensFrom 0 condition.toList.length condition.toList

end Condition

end ReportCompiler
