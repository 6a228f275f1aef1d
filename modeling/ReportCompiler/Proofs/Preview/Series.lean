import ReportCompiler.Preview.Series
import ReportCompiler.Proofs.Attempt

/-!
The series in a list of objects. Every object gives a label, but only a value with a number in it gives a
point, so that labels and points stay together just when every object has both.
-/

namespace ReportCompiler

namespace Series

/-- The label in an object. -/
def labelOf (object : Fields) : Value := .text (object.get "label").display

end Series

end ReportCompiler
