import ReportCompiler.Text.Basic
import ReportCompiler.Text.Word

/-!
The inside of a tag as words: names, numbers, quoted text and symbols. Blanks only part words. The words
of a tag end where its closing mark begins, outside quoted text.
-/

namespace ReportCompiler

open ReportCompiler.Text

namespace Stencil

inductive Word where
  | name (s : String)
  | number (n : Nat)
  | text (s : String)
  | symbol (c : Char)
deriving DecidableEq, Repr

namespace Word

/-- What a quote encloses, and what follows its closing quote. A character after a backslash never
closes it. -/
def quoted? (quote : Char) : List Char → Option (List Char × List Char)
  | [] => none
  | '\\' :: c :: rest =>
      (quoted? quote rest).map fun (inside, after) => ('\\' :: c :: inside, after)
  | c :: rest =>
      if c == quote then some ([], rest)
      else (quoted? quote rest).map fun (inside, after) => (c :: inside, after)

def symbols : List Char := "+-/*%~[](){}=!<>.:|,;".toList

def ofDigits (digits : List Char) : Nat :=
  digits.foldl (fun n c => 10 * n + (c.toNat - '0'.toNat)) 0

/-- The first word of a text that begins with none of the blanks. -/
def next? : List Char → Option (Word × List Char)
  | [] => none
  | c :: rest =>
      if c == '"' || c == '\'' then
        (quoted? c rest).map fun (inside, after) => (.text (String.ofList inside), after)
      else if c.isDigit then
        some (.number (ofDigits ((c :: rest).takeWhile Char.isDigit)),
          (c :: rest).dropWhile Char.isDigit)
      else if isWord c then
        some (.name (String.ofList ((c :: rest).takeWhile isWord)), (c :: rest).dropWhile isWord)
      else if symbols.contains c then some (.symbol c, rest)
      else none

end Word

/-- What follows the closing mark of a tag, if the text begins with it. A minus sign in the mark takes
the blanks after it away. -/
def afterMark? (mark : Char) : List Char → Option (List Char)
  | '-' :: c :: '}' :: rest => if c == mark then some (trimLeft rest) else none
  | '+' :: c :: '}' :: rest => if c == mark && mark != '}' then some rest else none
  | c :: '}' :: rest => if c == mark then some rest else none
  | _ => none

/-- The words up to the closing mark, and what follows it. -/
def words? (mark : Char) : Nat → List Char → Option (List Word × List Char)
  | 0, _ => none
  | fuel + 1, chars =>
      let chars := trimLeft chars
      match afterMark? mark chars with
      | some after => some ([], after)
      | none =>
          match Word.next? chars with
          | none => none
          | some (word, rest) =>
              (words? mark fuel rest).map fun (words, after) => (word :: words, after)

end Stencil

end ReportCompiler
