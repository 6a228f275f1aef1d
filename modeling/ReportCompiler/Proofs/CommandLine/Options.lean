import ReportCompiler.CommandLine.Compile
import ReportCompiler.Proofs.Attempt
import ReportCompiler.Proofs.Template.Shape
import ReportCompiler.Proofs.Value.Reading

/-!
Files and options of the command that writes a document, and where they make it crash. Most of what is wrong with
them is told as a misuse. But an integer of too many digits gets out of the reading of a file, and a margin below zero
is refused only where margins are made from the numbers.
-/

namespace ReportCompiler

open ReportCompiler.Payload
open ReportCompiler.Text

namespace CommandLine

/-! ### Troubles -/

section Crashes

variable {α β : Type}

end Crashes

/-! ### Files -/

namespace Compilation

/-! ### Margins -/

end Compilation

end CommandLine

end ReportCompiler
