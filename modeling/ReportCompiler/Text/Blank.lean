import ReportCompiler.Text.Ranges

/-!
White space, as trimming and patterns see it: the separators of Unicode together with the control
characters that bound lines and the four information separators. `isWhiteSpace` is the narrower
property of the standard, without the information separators.
-/

namespace ReportCompiler.Text

def blankRanges : List (Nat × Nat) :=
  [(9, 13), (28, 32), (133, 133), (160, 160), (5760, 5760), (8192, 8202), (8232, 8233),
    (8239, 8239), (8287, 8287), (12288, 12288)]

def isBlank (c : Char) : Bool := inRanges blankRanges c

/-- The `White_Space` property: blank, and none of the information separators. -/
def isWhiteSpace (c : Char) : Bool := isBlank c && !(28 ≤ c.toNat && c.toNat ≤ 31)

theorem isBlank_of_isWhitespace (c : Char) (h : c.isWhitespace = true) : isBlank c = true := by
  simp only [Char.isWhitespace, Bool.or_eq_true, decide_eq_true_eq] at h
  rcases h with ((h | h) | h) | h <;> subst h <;> decide

end ReportCompiler.Text
