import ReportCompiler.Markup.Basic

/-!
Markup read back, one character at a time: text, closing tags, and opening tags whose attributes have
values between double quotes. A tree whose names are plain and whose texts and values hold no character
that would end them is read as the very tokens it was built from.
-/

namespace ReportCompiler

/-! ### Tokens -/

inductive Token where
  /-- One character of text, as it is written. -/
  | text (c : Char)
  | opening (tag : String) (attributes : List Attribute) (isSingle : Bool)
  | closing (tag : String)
deriving DecidableEq, Repr

namespace Token

/-- Every closing tag ends the element that was opened last, and none is left open. -/
def closes : List String → List Token → Bool
  | [], [] => true
  | _ :: _, [] => false
  | pending, .text _ :: rest => closes pending rest
  | pending, .opening _ _ true :: rest => closes pending rest
  | pending, .opening tag _ false :: rest => closes (tag :: pending) rest
  | [], .closing _ :: _ => false
  | tag :: pending, .closing other :: rest => tag == other && closes pending rest

def areBalanced (tokens : List Token) : Bool := closes [] tokens

/-- What the token holds does not end it. -/
def IsEnclosed : Token → Prop
  | .text c => c ≠ '<'
  | .opening _ attributes _ => ∀ a ∈ attributes, '"' ∉ a.source.toList
  | .closing _ => True

end Token

/-! ### The reader -/

namespace Lexer

def isNameChar (c : Char) : Bool := c.isAlphanum || c == '-'

def isGap (c : Char) : Bool := c == ' ' || c == '\n' || c == '\t'

/-- Where the reader stands; names and values hold what has been read of them. -/
inductive State where
  | content
  | afterLess
  | afterLessSlash
  | closingName (name : List Char)
  | openingName (name : List Char)
  | betweenAttributes (tag : String) (attributes : List Attribute)
  | attributeName (tag : String) (attributes : List Attribute) (name : List Char)
  | afterEquals (tag : String) (attributes : List Attribute) (name : List Char)
  | attributeValue (tag : String) (attributes : List Attribute) (name value : List Char)
  | afterValue (tag : String) (attributes : List Attribute)
  | afterSlash (tag : String) (attributes : List Attribute)

/-- After a tag's name and after a value: the tag ends, or a gap comes first. -/
def afterPart (tag : String) (attributes : List Attribute) (c : Char) :
    Option (State × List Token) :=
  if c = '>' then some (.content, [.opening tag attributes false])
  else if c = '/' then some (.afterSlash tag attributes, [])
  else if isGap c then some (.betweenAttributes tag attributes, [])
  else none

/-- One character: the next place and the tokens that end with it. Anything else is no markup. -/
def step : State → Char → Option (State × List Token)
  | .content, c => if c = '<' then some (.afterLess, []) else some (.content, [.text c])
  | .afterLess, c =>
      if c = '/' then some (.afterLessSlash, [])
      else if c.isAlpha then some (.openingName [c], [])
      else none
  | .afterLessSlash, c => if c.isAlpha then some (.closingName [c], []) else none
  | .closingName name, c =>
      if isNameChar c then some (.closingName (name ++ [c]), [])
      else if c = '>' then some (.content, [.closing (String.ofList name)])
      else none
  | .openingName name, c =>
      if isNameChar c then some (.openingName (name ++ [c]), [])
      else afterPart (String.ofList name) [] c
  | .betweenAttributes tag attributes, c =>
      if isNameChar c then some (.attributeName tag attributes [c], [])
      else afterPart tag attributes c
  | .attributeName tag attributes name, c =>
      if isNameChar c then some (.attributeName tag attributes (name ++ [c]), [])
      else if c = '=' then some (.afterEquals tag attributes name, [])
      else none
  | .afterEquals tag attributes name, c =>
      if c = '"' then some (.attributeValue tag attributes name [], []) else none
  | .attributeValue tag attributes name value, c =>
      if c = '"' then
        let read : Attribute := { name := String.ofList name, source := String.ofList value }
        some (.afterValue tag (attributes ++ [read]), [])
      else some (.attributeValue tag attributes name (value ++ [c]), [])
  | .afterValue tag attributes, c => afterPart tag attributes c
  | .afterSlash tag attributes, c =>
      if c = '>' then some (.content, [.opening tag attributes true]) else none

/-- A text that ends inside a tag is not read at all. -/
def readFrom : State → List Char → Option (List Token)
  | .content, [] => some []
  | _, [] => none
  | state, c :: rest =>
      match step state c with
      | some (next, tokens) => (readFrom next rest).map (tokens ++ ·)
      | none => none

end Lexer

/-- The tokens of a text of markup. -/
def Markup.lex (html : String) : Option (List Token) := Lexer.readFrom .content html.toList

end ReportCompiler
