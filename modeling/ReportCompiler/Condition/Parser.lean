import ReportCompiler.Condition.Basic
import ReportCompiler.Value.Numeric

/-!
Reading a condition:

    any        := all ('||' all)*
    all        := negation ('&&' negation)*
    negation   := '!' negation | comparison
    comparison := operand (operator operand)?
    operand    := path | text | number | keyword | '(' any ')'

Each rule is a reader that takes the reader of parenthesised conditions as an argument; the loop is
closed by the number of parentheses that may still be opened.
-/

namespace ReportCompiler

open ReportCompiler.Text

namespace Condition

/-- Reads something at the front of a token list and gives what is left. -/
abbrev TokenReader (result : Type) := List Token → Except Flaw (result × List Token)

/-- Names that stand for a value. -/
def keywords : List (String × Value) :=
  [("true", .bool true), ("false", .bool false), ("null", .null), ("undefined", .null)]

/-- The characters between the marks of a quoted text; a backslash stands for the character after it. -/
def unescape : List Char → List Char
  | '\\' :: c :: rest => c :: unescape rest
  | c :: rest => c :: unescape rest
  | [] => []

def textLiteral (source : String) : Value :=
  .text (String.ofList (unescape ((source.toList.drop 1).dropLast)))

def numberLiteral (source : String) : Value :=
  match Number.ofLeading? source with
  | some n => .number n
  | none => .null

/-- A keyword's value, or a path in which `?.` counts as a plain point. -/
def named (source : String) : Condition :=
  match keywords.lookup source with
  | some value => .literal value
  | none => .path (String.ofList (source.toList.filter (· != '?')))

def isOperator (spelling : String) (token : Token) : Bool :=
  token.kind == .operator && token.source == spelling

def operand (inner : TokenReader Condition) : TokenReader Condition
  | [] => .error .unexpectedEnd
  | token :: rest =>
      match token.kind with
      | .text => .ok (.literal (textLiteral token.source), rest)
      | .number => .ok (.literal (numberLiteral token.source), rest)
      | .path => .ok (named token.source, rest)
      | .operator =>
          if token.source == "(" then do
            let (condition, rest) ← inner rest
            match rest with
            | closing :: rest =>
                if isOperator ")" closing then return (condition, rest) else throw .unclosed
            | [] => throw .unclosed
          else .error (.unexpectedToken token.source)

def comparisonOf? (token : Token) : Option Comparison :=
  if token.kind == .operator then Comparison.ofSpelling? token.source else none

def compared (inner : TokenReader Condition) : TokenReader Condition := fun tokens => do
  let (left, rest) ← operand inner tokens
  match rest with
  | [] => return (left, [])
  | token :: after =>
      match comparisonOf? token with
      | some relation =>
          let (right, rest) ← operand inner after
          return (.comparison relation left right, rest)
      | none => return (left, rest)

def negated (inner : TokenReader Condition) : TokenReader Condition
  | [] => compared inner []
  | token :: rest =>
      if isOperator "!" token then do
        let (condition, rest) ← negated inner rest
        return (.negation condition, rest)
      else compared inner (token :: rest)

/-- Further operands, each after the same operator. -/
def further (operator : String) (read : TokenReader Condition) : Nat → TokenReader (List Condition)
  | 0, tokens => .ok ([], tokens)
  | _, [] => .ok ([], [])
  | fuel + 1, token :: rest =>
      if isOperator operator token then do
        let (condition, rest) ← read rest
        let (conditions, rest) ← further operator read fuel rest
        return (condition :: conditions, rest)
      else .ok ([], token :: rest)

/-- A chain of operands; a single one stands for itself. -/
def chain (operator : String) (join : List Condition → Condition) (read : TokenReader Condition) :
    TokenReader Condition := fun tokens => do
  let (first, rest) ← read tokens
  let (others, rest) ← further operator read rest.length rest
  return (if others.isEmpty then first else join (first :: others), rest)

def anyOf (inner : TokenReader Condition) : TokenReader Condition :=
  chain "||" .any (chain "&&" .all (negated inner))

/-- A whole condition in which at most `depth` parentheses are open at once. -/
def expression : Nat → TokenReader Condition
  | 0 => anyOf fun _ => .error .unexpectedEnd
  | depth + 1 => anyOf (expression depth)

def ofTokens (tokens : List Token) : Except Flaw Condition := do
  let (condition, rest) ← expression tokens.length tokens
  match rest with
  | [] => return condition
  | token :: _ => throw (.unexpectedToken token.source)

def parse (text : String) : Except Flaw Condition := do ofTokens (← tokens text)

/-- Why a condition cannot be used; nothing when it can, or when there is none. -/
def complaint? : Value → Option String
  | .null => none
  | .text s =>
      if isBlankText s then none
      else
        match parse (trim s) with
        | .ok _ => none
        | .error flaw => some flaw.message
  | _ => some "condition must be a string"

end Condition

end ReportCompiler
