import ReportCompiler.Stencil.Word
import ReportCompiler.Value.Basic

/-!
Stencils: texts with places to fill in, choices between texts, and other stencils put in. The source is
first cut into pieces, text and tags; a choice then lasts until the tag that ends it.
-/

namespace ReportCompiler

open ReportCompiler.Text

namespace Stencil

inductive Expression where
  | constant (value : Value)
  | name (name : String)
  | attribute (of : Expression) (name : String)
  /-- Text that is markup already. -/
  | markup (operand : Expression)
  /-- The JSON of a value, which is markup too. -/
  | json (operand : Expression)
deriving Repr

inductive Node where
  | text (s : String)
  | output (expression : Expression)
  | choice (condition : Expression) (yes no : List Node)
  | inclusion (name : Expression)
deriving Repr

/-! ### Pieces -/

inductive Piece where
  | text (chars : List Char)
  | output (words : List Word)
  | statement (words : List Word)
deriving Repr

/-- Every line ends with one kind of line end. -/
def withLineEnds : List Char → List Char
  | '\r' :: '\n' :: rest => '\n' :: withLineEnds rest
  | '\r' :: rest => '\n' :: withLineEnds rest
  | c :: rest => c :: withLineEnds rest
  | [] => []

/-- The sign after an opening mark: whether it takes the blanks before the tag away, and the rest. -/
def signed : List Char → Bool × List Char
  | '-' :: rest => (true, rest)
  | '+' :: rest => (false, rest)
  | rest => (false, rest)

/-- What follows a statement of one word, if the text after its opening mark begins with it. -/
def afterKeyword? (keyword : String) (chars : List Char) : Option (List Char) :=
  let chars := trimLeft (signed chars).2
  if keyword.toList.isPrefixOf chars then
    afterMark? '%' (trimLeft (chars.drop keyword.length))
  else none

/-- The text before a tag, given backwards; the tag may take the blanks at its end away. -/
def before (trims : Bool) (text : List Char) : List Piece :=
  let kept := if trims then text.dropWhile isBlank else text
  if kept.isEmpty then [] else [.text kept.reverse]

/-- Text, given backwards, up to the statement that ends it, and what follows that statement. -/
def verbatim? (text : List Char) : List Char → Option (List Piece × List Char)
  | [] => none
  | '{' :: rest =>
      match rest with
      | '%' :: inside =>
          match afterKeyword? "endraw" inside with
          | some after => some (before (signed inside).1 text, after)
          | none => verbatim? ('{' :: text) rest
      | _ => verbatim? ('{' :: text) rest
  | c :: rest => verbatim? (c :: text) rest

/-- What follows a comment. -/
def afterComment? : List Char → Option (List Char)
  | [] => none
  | c :: rest =>
      match afterMark? '#' (c :: rest) with
      | some after => some after
      | none => afterComment? rest

def pieces? : Nat → List Char → List Char → Option (List Piece)
  | 0, _, _ => none
  | fuel + 1, text, chars =>
      match chars with
      | [] => some (before false text)
      | '{' :: '{' :: rest => do
          let (trims, inside) := signed rest
          let (words, after) ← words? '}' (inside.length + 1) inside
          return before trims text ++ .output words :: (← pieces? fuel [] after)
      | '{' :: '#' :: rest => do
          let (trims, inside) := signed rest
          return before trims text ++ (← pieces? fuel [] (← afterComment? inside))
      | '{' :: '%' :: rest => do
          let (trims, inside) := signed rest
          match afterKeyword? "raw" rest with
          | some after =>
              let (held, after) ← verbatim? [] after
              return before trims text ++ held ++ (← pieces? fuel [] after)
          | none =>
              let (words, after) ← words? '%' (inside.length + 1) inside
              return before trims text ++ .statement words :: (← pieces? fuel [] after)
      | c :: rest => pieces? fuel (c :: text) rest

/-! ### Expressions -/

def constants : List (String × Value) :=
  [("true", .bool true), ("True", .bool true), ("false", .bool false), ("False", .bool false),
    ("none", .null), ("None", .null)]

def ofName (name : String) : Expression :=
  match constants.lookup name with
  | some value => .constant value
  | none => .name name

def first? : Word → Option Expression
  | .name name => some (ofName name)
  | .number n => some (.constant (.int n))
  | .text s => some (.constant (.text s))
  | .symbol _ => none

def filtered? : Expression → List Word → Option Expression
  | e, [] => some e
  | e, .symbol '|' :: .name "safe" :: rest => filtered? (.markup e) rest
  | e, .symbol '|' :: .name "tojson" :: rest => filtered? (.json e) rest
  | _, _ => none

def extended? : Expression → List Word → Option Expression
  | e, .symbol '.' :: .name name :: rest => extended? (.attribute e name) rest
  | e, rest => filtered? e rest

/-- A name or a constant, then attributes, then filters. -/
def expression? : List Word → Option Expression
  | [] => none
  | word :: rest => (first? word).bind fun e => extended? e rest

/-! ### Nodes -/

/-- A choice that is still open, and what stands before it. -/
structure Frame where
  /-- Backwards. -/
  before : List Node
  condition : Expression
  /-- The first branch, once the other one has begun. -/
  yes : Option (List Node)
  /-- Whether the choice stands for the other branch of the one around it. -/
  isChained : Bool

/-- Open choices, innermost first, and the nodes read since, backwards. -/
structure Draft where
  frames : List Frame
  nodes : List Node

namespace Draft

def empty : Draft := { frames := [], nodes := [] }

def add (draft : Draft) (node : Node) : Draft := { draft with nodes := node :: draft.nodes }

def Frame.node (frame : Frame) (nodes : List Node) : Node :=
  match frame.yes with
  | some yes => .choice frame.condition yes nodes.reverse
  | none => .choice frame.condition nodes.reverse []

/-- Ends the innermost choice, and with it the one whose other branch it is. -/
def close? : List Frame → List Node → Option Draft
  | [], _ => none
  | frame :: rest, nodes =>
      let closed := Frame.node frame nodes :: frame.before
      if frame.isChained then close? rest closed else some { frames := rest, nodes := closed }

def openChoice (draft : Draft) (condition : Expression) (isChained : Bool) : Draft :=
  let frame := { before := draft.nodes, condition, yes := none, isChained }
  { frames := frame :: draft.frames, nodes := [] }

/-- Begins the other branch of the innermost choice. -/
def turn? (draft : Draft) : Option Draft :=
  match draft.frames with
  | [] => none
  | frame :: rest =>
      match frame.yes with
      | some _ => none
      | none =>
          some { frames := { frame with yes := some draft.nodes.reverse } :: rest, nodes := [] }

def statement? (draft : Draft) : List Word → Option Draft
  | .name "if" :: rest => (expression? rest).map fun e => draft.openChoice e false
  | .name "elif" :: rest =>
      (expression? rest).bind fun e => draft.turn?.map fun turned => turned.openChoice e true
  | [.name "else"] => draft.turn?
  | [.name "endif"] => close? draft.frames draft.nodes
  | .name "include" :: rest => (expression? rest).map fun e => draft.add (.inclusion e)
  | _ => none

def piece? (draft : Draft) : Piece → Option Draft
  | .text chars => some (draft.add (.text (String.ofList chars)))
  | .output words => (expression? words).map fun e => draft.add (.output e)
  | .statement words => draft.statement? words

end Draft

/-- The nodes of a source; none when a tag is malformed or a choice is left open. -/
def parse? (source : String) : Option (List Node) := do
  let chars := withLineEnds source.toList
  let draft ← (← pieces? (chars.length + 1) [] chars).foldlM Draft.piece? .empty
  if draft.frames.isEmpty then some draft.nodes.reverse else none

end Stencil

end ReportCompiler
