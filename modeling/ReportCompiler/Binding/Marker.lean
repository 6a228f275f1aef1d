import ReportCompiler.Binding.Path
import ReportCompiler.Value.Display

/-!
Markers in text: a path between double braces stands for the value that it finds. A marker holds at
least one character and no closing brace; anything else is plain text.
-/

namespace ReportCompiler

open ReportCompiler.Text

namespace Marker

/-- A text cut at its markers. -/
inductive Piece where
  | plain (c : Char)
  | marker (inside : List Char)
deriving DecidableEq, Repr

namespace Piece

/-- How the piece is written in the text. -/
def source : Piece → List Char
  | plain c => [c]
  | marker inside => '\x7b' :: '\x7b' :: inside ++ ['\x7d', '\x7d']

def path? : Piece → Option String
  | plain _ => none
  | marker inside => some (trim (String.ofList inside))

end Piece

/-- The inside of the marker that the text begins with, and what follows the marker. -/
def at? : List Char → Option (List Char × List Char)
  | '\x7b' :: '\x7b' :: rest =>
      let inside := rest.takeWhile (· != '\x7d')
      if inside.isEmpty then none
      else
        match rest.dropWhile (· != '\x7d') with
        | '\x7d' :: '\x7d' :: after => some (inside, after)
        | _ => none
  | _ => none

def piecesFrom : Nat → List Char → List Piece
  | 0, _ => []
  | _, [] => []
  | fuel + 1, c :: rest =>
      match at? (c :: rest) with
      | some (inside, after) => .marker inside :: piecesFrom fuel after
      | none => .plain c :: piecesFrom fuel rest

def pieces (text : String) : List Piece := piecesFrom text.toList.length text.toList

/-- The paths of all markers, in order. -/
def paths (text : String) : List String := (pieces text).filterMap Piece.path?

/-- Whether a text has opening and closing braces at all, wherever they stand. -/
def occursIn : Value → Bool
  | .text s => contains s "\x7b\x7b" && contains s "\x7d\x7d"
  | _ => false

/-- What a piece shows once its path is resolved. -/
def shown (data : Value) (piece : Piece) : Except Fault String :=
  match piece.path? with
  | none => .ok (String.ofList piece.source)
  | some path => (Path.resolve path data).map Value.display

/-- The text with each marker replaced by the value of its path. Without data it stays as it is. -/
def interpolate (text : String) (data : Value) : Except Fault String :=
  if data.isNull then .ok text
  else do return String.join (← (pieces text).mapM (shown data))

/-- The path of a text that is one marker, possibly with a line end after it. -/
def alone? : List Piece → Option String
  | [piece] => piece.path?
  | [piece, .plain '\n'] => piece.path?
  | _ => none

/-- A text that is one marker gives the value itself, other texts with markers are interpolated. -/
def resolve (value data : Value) : Except Fault Value :=
  match value with
  | .text s =>
      match alone? (pieces s) with
      | some path => Path.resolve path data
      | none => (interpolate s data).map .text
  | _ => .ok value

end Marker

end ReportCompiler
