import ReportCompiler.Document.Config
import ReportCompiler.Document.Program.Bindings
import ReportCompiler.Document.Program.Charts
import ReportCompiler.Document.Program.Conditions
import ReportCompiler.Document.Program.Dates
import ReportCompiler.Document.Program.Pipeline
import ReportCompiler.Document.Program.Values
import ReportCompiler.Document.Program.Widgets
import ReportCompiler.Value.Json

/-!
The program that is embedded in every document. It opens with the constants that it shares with the
widgets; the rest is fixed.
-/

namespace ReportCompiler

open ReportCompiler.Text

namespace Program

/-- The declaration of a constant, whose name is written in capitals. -/
def declaration (entry : String × Value) : String :=
  "  var " ++ entry.1.toUpper ++ " = " ++ entry.2.json .embedded ++ ";"

def opening : List String := ["// ReportBuilder runtime", "(function () \x7b", "  'use strict';", ""]

def text : String :=
  join "\n" (opening ++ Document.constants.map declaration ++ [""] ++ values ++ bindings
    ++ conditions ++ dates ++ widgets ++ charts ++ pipeline ++ ["", "\x7d)();", ""])

end Program

end ReportCompiler
