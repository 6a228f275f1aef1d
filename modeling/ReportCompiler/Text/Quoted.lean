import ReportCompiler.Text.Basic
import ReportCompiler.Text.Printable

/-!
Quoted text, as messages show it: between single quotes, or between double quotes when the text holds
a single quote and no double one. Backslash, the chosen quote and everything unprintable is escaped;
other characters stand for themselves.
-/

namespace ReportCompiler.Text

/-- The mark that needs the fewest escapes; the single quote wins a tie. -/
def quoteMark (chars : List Char) : Char :=
  if chars.contains '\'' && !chars.contains '"' then '"' else '\''

/-- The shortest numeric escape that holds the code point. -/
def numericEscape (code : Nat) : List Char :=
  if code < 0x100 then '\\' :: 'x' :: hexPadded 2 code
  else if code < 0x10000 then '\\' :: 'u' :: hexPadded 4 code
  else '\\' :: 'U' :: hexPadded 8 code

def quoteChar (mark c : Char) : List Char :=
  if c == mark || c == '\\' then ['\\', c]
  else if c == '\n' then ['\\', 'n']
  else if c == '\r' then ['\\', 'r']
  else if c == '\t' then ['\\', 't']
  else if isPrintable c then [c]
  else numericEscape c.toNat

def quote (text : String) : String :=
  let mark := quoteMark text.toList
  String.ofList (mark :: text.toList.flatMap (quoteChar mark) ++ [mark])

end ReportCompiler.Text
