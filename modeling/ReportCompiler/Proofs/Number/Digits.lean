import Mathlib.Data.List.Basic
import Mathlib.Data.List.Induction
import Mathlib.Tactic.Ring
import ReportCompiler.Number.Decimal
import ReportCompiler.Number.Reader
import ReportCompiler.Proofs.Text.Cutting

/-!
Decimal digits and the number they spell. Digits written for a number spell that number, and a
concatenation is spelled by its parts.
-/

namespace ReportCompiler.Text

/-- Only digits of ASCII. -/
def AreDigits (chars : List Char) : Prop := ∀ c ∈ chars, c.isDigit = true

theorem areDigits_nil : AreDigits [] := fun _ member => by cases member

theorem areDigits_cons (c : Char) (chars : List Char) :
    AreDigits (c :: chars) ↔ c.isDigit = true ∧ AreDigits chars :=
  List.forall_mem_cons

theorem areDigits_append (first second : List Char) :
    AreDigits (first ++ second) ↔ AreDigits first ∧ AreDigits second :=
  List.forall_mem_append

theorem AreDigits.subset {chars others : List Char} (digits : AreDigits chars)
    (inside : others ⊆ chars) : AreDigits others :=
  fun c member => digits c (inside member)

theorem areDigits_toDigits (n : Nat) : AreDigits (Nat.toDigits 10 n) :=
  fun _ member => Nat.isDigit_of_mem_toDigits (by decide) (by decide) member

theorem areDigits_zeros (count : Nat) : AreDigits (List.replicate count '0') := by
  intro c member
  rw [List.eq_of_mem_replicate member]
  rfl

theorem isDigit_iff (c : Char) : c.isDigit = true ↔ 48 ≤ c.toNat ∧ c.toNat ≤ 57 := by
  simp only [Char.isDigit, Bool.and_eq_true, decide_eq_true_eq]
  rfl

theorem digitValue?_of_isDigit (c : Char) (digit : c.isDigit = true) :
    digitValue? c = some (c.toNat - 48) := by
  have range := (isDigit_iff c).mp digit
  unfold digitValue?
  rw [if_pos (by simpa using range)]

/-! ### What digits spell -/

theorem isDecimalDigit_of_isDigit (c : Char) (digit : c.isDigit = true) : isDecimalDigit c = true := by
  rw [isDecimalDigit, digitValue?_of_isDigit c digit]
  rfl

theorem digitsValue_append (first second : List Char) :
    digitsValue (first ++ second) = 10 ^ second.length * digitsValue first + digitsValue second := by
  induction second using List.reverseRecOn with
  | nil => simp [digitsValue]
  | append_singleton rest c ih =>
      rw [← List.append_assoc, digitsValue_append_singleton, digitsValue_append_singleton, ih,
        List.length_append, List.length_singleton, Nat.pow_succ]
      ring

theorem digitsValue_zeros (count : Nat) : digitsValue (List.replicate count '0') = 0 := by
  induction count with
  | zero => rfl
  | succ count ih =>
      rw [List.replicate_succ', digitsValue_append_singleton, ih]
      rfl

theorem digitsValue_zeros_append (count : Nat) (digits : List Char) :
    digitsValue (List.replicate count '0' ++ digits) = digitsValue digits := by
  rw [digitsValue_append, digitsValue_zeros, Nat.mul_zero, Nat.zero_add]

theorem digitsValue_append_zeros (digits : List Char) (count : Nat) :
    digitsValue (digits ++ List.replicate count '0') = 10 ^ count * digitsValue digits := by
  rw [digitsValue_append, digitsValue_zeros, List.length_replicate, Nat.add_zero]

theorem digitsValue_eq_ofDigitChars (digits : List Char) (all : AreDigits digits) :
    digitsValue digits = Nat.ofDigitChars 10 digits 0 := by
  induction digits using List.reverseRecOn with
  | nil => rfl
  | append_singleton rest c ih =>
      obtain ⟨earlier, last⟩ := (areDigits_append rest [c]).mp all
      have digit := digitValue?_of_isDigit c (last c List.mem_cons_self)
      rw [digitsValue_append_singleton, ih earlier, Nat.ofDigitChars_append, digit,
        Nat.ofDigitChars_cons, Nat.ofDigitChars_nil]
      rfl

theorem digitsValue_toDigits (n : Nat) : digitsValue (Nat.toDigits 10 n) = n := by
  rw [digitsValue_eq_ofDigitChars _ (areDigits_toDigits n), Nat.ofDigitChars_ten_toDigits]

/-! ### Padding -/

theorem areDigits_padded (width n : Nat) : AreDigits (padded width n).toList := by
  rw [padded, String.toList_ofList, padLeft, areDigits_append]
  exact ⟨areDigits_zeros _, areDigits_toDigits n⟩

theorem digitsValue_padded (width n : Nat) : digitsValue (padded width n).toList = n := by
  rw [padded, String.toList_ofList, padLeft, digitsValue_zeros_append, digitsValue_toDigits]

/-- A number below the power of ten fills its width and no more. -/
theorem length_padded (width n : Nat) (wide : 0 < width) (fits : n < 10 ^ width) :
    (padded width n).toList.length = width := by
  have short : (Nat.toDigits 10 n).length ≤ width := (Nat.length_toDigits_le_iff (by decide) wide).mpr fits
  rw [padded, String.toList_ofList, padLeft, List.length_append, List.length_replicate, Nat.sub_add_cancel short]

/-! ### The first digit -/

-- The first digit is the one that is left when all others are divided off.
theorem head?_toDigits (n : Nat) (positive : 0 < n) : (Nat.toDigits 10 n).head? ≠ some '0' := by
  induction n using Nat.strongRecOn with
  | ind n ih =>
      rw [Nat.toDigits_eq_if (by decide)]
      split
      · simp only [List.head?_cons, ne_eq, Option.some.injEq, Nat.digitChar_eq_zero]
        omega
      · rw [List.head?_append_of_ne_nil _ Nat.toDigits_ne_nil]
        exact ih (n / 10) (by omega) (by omega)

theorem toDigits_start (n : Nat) :
    Nat.toDigits 10 n = ['0'] ∨ (Nat.toDigits 10 n).head? ≠ some '0' := by
  rcases Nat.eq_zero_or_pos n with rfl | positive
  · exact .inl rfl
  · exact .inr (head?_toDigits n positive)

end ReportCompiler.Text

namespace ReportCompiler.Double

/-! ### How many digits -/

theorem decimalLength_pos (n : Nat) : 0 < decimalLength n := Nat.length_toDigits_pos

theorem lt_pow_decimalLength (n : Nat) : n < 10 ^ decimalLength n :=
  (Nat.length_toDigits_le_iff (by decide) (decimalLength_pos n)).mp (Nat.le_refl _)

theorem pow_decimalLength_le (n : Nat) (positive : 0 < n) : 10 ^ (decimalLength n - 1) ≤ n := by
  have length := decimalLength_pos n
  rcases Nat.eq_or_lt_of_le (Nat.succ_le_of_lt length) with one | more
  · rw [← one]
    exact positive
  · refine Nat.le_of_not_lt fun less => ?_
    have : decimalLength n ≤ decimalLength n - 1 :=
      (Nat.length_toDigits_le_iff (by decide) (by omega)).mpr less
    omega

/-! ### Zeros at the end -/

theorem significant_append_zeros (digits : List Char) :
    significant digits ++ List.replicate (digits.length - (significant digits).length) '0' =
      digits := by
  have cut : digits.reverse.takeWhile (· == '0') ++ digits.reverse.dropWhile (· == '0') =
      digits.reverse := List.takeWhile_append_dropWhile
  have back := congrArg List.reverse cut
  rw [List.reverse_append, List.reverse_reverse] at back
  have zeros : (digits.reverse.takeWhile (· == '0')).reverse =
      List.replicate (digits.reverse.takeWhile (· == '0')).length '0' := by
    refine List.eq_replicate_iff.mpr ⟨List.length_reverse, fun c member => ?_⟩
    have zero := List.mem_takeWhile_imp (List.mem_reverse.mp member)
    exact beq_iff_eq.mp zero
  have length := congrArg List.length back
  rw [zeros, List.length_append, List.length_replicate] at length
  unfold significant
  rw [← length, Nat.add_sub_cancel_left, ← zeros, back]

theorem significant_ne_nil (n : Nat) (positive : 0 < n) :
    significant (Nat.toDigits 10 n) ≠ [] := by
  intro none
  have all := significant_append_zeros (Nat.toDigits 10 n)
  rw [none, List.nil_append] at all
  have spelled := Text.digitsValue_toDigits n
  rw [← all, Text.digitsValue_zeros] at spelled
  omega

theorem head?_significant (n : Nat) (positive : 0 < n) :
    (significant (Nat.toDigits 10 n)).head? ≠ some '0' := by
  have start := Text.head?_toDigits n positive
  rw [← significant_append_zeros (Nat.toDigits 10 n),
    List.head?_append_of_ne_nil _ (significant_ne_nil n positive)] at start
  exact start

theorem areDigits_significant (n : Nat) : Text.AreDigits (significant (Nat.toDigits 10 n)) := by
  have digits := Text.areDigits_toDigits n
  rw [← significant_append_zeros (Nat.toDigits 10 n)] at digits
  exact ((Text.areDigits_append _ _).mp digits).1

end ReportCompiler.Double

namespace ReportCompiler.Reader

open ReportCompiler.Text

/-! ### Digits taken off a text -/

theorem takeDigits_run (digits rest : List Char) (all : ∀ c ∈ digits, isDecimalDigit c = true)
    (ends : ∀ c ∈ rest.head?, isDecimalDigit c = false) :
    takeDigits (digits ++ rest) = (digits, rest) := by
  rw [takeDigits, takeWhile_run _ _ _ all ends, dropWhile_run _ _ _ all ends]

end ReportCompiler.Reader
