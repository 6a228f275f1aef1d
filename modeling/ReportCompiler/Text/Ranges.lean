/-!
Membership of a character in a table of closed code point ranges. The tables of the neighbouring
modules hold the ranges of one Unicode property each, in ascending order.
-/

namespace ReportCompiler.Text

/-- A character belongs to a table when one of its ranges holds the code point. -/
def inRanges (table : List (Nat × Nat)) (c : Char) : Bool :=
  table.any fun range => range.1 ≤ c.toNat && c.toNat ≤ range.2

theorem inRanges_append (first second : List (Nat × Nat)) (c : Char) :
    inRanges (first ++ second) c = (inRanges first c || inRanges second c) := by
  simp [inRanges, List.any_append]

end ReportCompiler.Text
