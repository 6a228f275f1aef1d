import ReportCompiler.Number.Places
import ReportCompiler.Widget.Status

/-!
The characters in the texts of numbers: letters, digits, signs and points, whatever the number and however
many places it is shown with.
-/

namespace ReportCompiler

open ReportCompiler.Text

def isNumeral (c : Char) : Bool := c.isAlphanum || c == '-' || c == '+' || c == '.'

def AreNumerals (chars : List Char) : Prop := ∀ c ∈ chars, isNumeral c = true

instance (chars : List Char) : Decidable (AreNumerals chars) :=
  List.decidableBAll (fun c => isNumeral c = true) chars

theorem areNumerals_nil : AreNumerals [] := by simp [AreNumerals]

theorem areNumerals_cons (c : Char) (chars : List Char) :
    AreNumerals (c :: chars) ↔ isNumeral c = true ∧ AreNumerals chars := by
  simp [AreNumerals]

theorem areNumerals_append (first second : List Char) :
    AreNumerals (first ++ second) ↔ AreNumerals first ∧ AreNumerals second := by
  simp [AreNumerals, or_imp, forall_and]

-- Cutting and reordering digits brings no new characters.
theorem AreNumerals.subset {chars others : List Char} (numerals : AreNumerals chars)
    (inside : others ⊆ chars) : AreNumerals others :=
  fun c member => numerals c (inside member)

theorem areNumerals_replicate (count : Nat) (c : Char) (numeral : isNumeral c = true) :
    AreNumerals (List.replicate count c) := by
  intro x member
  rw [List.eq_of_mem_replicate member]
  exact numeral

theorem areNumerals_toDigits (n : Nat) : AreNumerals (Nat.toDigits 10 n) := by
  intro c member
  have digit := Nat.isDigit_of_mem_toDigits (by decide) (by decide) member
  simp [isNumeral, Char.isAlphanum, digit]

theorem areNumerals_toString (n : Int) : AreNumerals (toString n).toList := by
  cases n with
  | ofNat m => simpa [Int.repr, toString] using areNumerals_toDigits m
  | negSucc m =>
      have digits := areNumerals_toDigits (m + 1)
      simpa [Int.repr, toString, areNumerals_cons, isNumeral] using digits

namespace Double

theorem areNumerals_positional (digits : List Char) (point : Int) (numerals : AreNumerals digits) :
    AreNumerals (positional digits point) := by
  have zeros (count : Nat) : AreNumerals (zeros count) := areNumerals_replicate count '0' (by decide)
  unfold positional
  split
  · simp only [areNumerals_cons, areNumerals_append, List.cons_append]
    exact ⟨by decide, by decide, zeros _, numerals⟩
  · split
    · simp only [areNumerals_append, areNumerals_cons]
      exact ⟨⟨numerals, zeros _⟩, by decide, by decide, areNumerals_nil⟩
    · simp only [areNumerals_append, areNumerals_cons]
      exact ⟨numerals.subset (List.take_subset _ _), by decide, numerals.subset (List.drop_subset _ _)⟩

theorem areNumerals_scientific (width : Nat) (digits : List Char) (exponent : Int)
    (numerals : AreNumerals digits) : AreNumerals (scientific width digits exponent) := by
  have fraction : AreNumerals
      (if (digits.drop 1).isEmpty then [] else '.' :: digits.drop 1) := by
    split
    · exact areNumerals_nil
    · exact (areNumerals_cons _ _).mpr ⟨by decide, numerals.subset (List.drop_subset _ _)⟩
  have sign : isNumeral (if exponent < 0 then '-' else '+') = true := by split <;> decide
  simp only [scientific, areNumerals_append, areNumerals_cons]
  exact ⟨⟨⟨numerals.subset (List.take_subset _ _), fraction⟩, by decide, sign,
    areNumerals_replicate _ _ (by decide)⟩, areNumerals_toDigits _⟩

theorem areNumerals_layoutDigits (style : Layout) (digits : Nat) (exponent : Int) :
    AreNumerals (layoutDigits style digits exponent) := by
  have kept : AreNumerals (significant (Nat.toDigits 10 digits)) := by
    apply (areNumerals_toDigits digits).subset
    intro c member
    have inside := (List.dropWhile_sublist _).subset (List.mem_reverse.mp member)
    exact List.mem_reverse.mp inside
  unfold layoutDigits
  simp only
  split
  · exact areNumerals_positional _ _ kept
  · exact areNumerals_scientific _ _ _ kept

theorem areNumerals_text (x : Double) : AreNumerals x.text.toList := by
  cases x with
  | nan => decide
  | infinite negative => cases negative <;> decide
  | finite negative mantissa exponent =>
      have body : AreNumerals (if mantissa = 0 then ['0', '.', '0'] else
          layoutDigits layout (shortest mantissa exponent).1 (shortest mantissa exponent).2) := by
        split
        · decide
        · exact areNumerals_layoutDigits _ _ _
      cases negative with
      | false => simpa [text] using body
      | true => simpa [text, areNumerals_cons, isNumeral] using body

end Double

namespace Number

theorem areNumerals_text (n : Number) : AreNumerals n.text.toList := by
  cases n with
  | int n => exact areNumerals_toString n
  | double x =>
      cases x with
      | nan => decide
      | infinite negative => cases negative <;> decide
      | finite negative mantissa exponent =>
          simp only [text]
          split
          · exact areNumerals_toString _
          · exact Double.areNumerals_text _

theorem areNumerals_fixed (places : Nat) (n : Number) : AreNumerals (n.fixed places).toList := by
  unfold fixed
  cases rounded : (Decimal.ofNumber? n).bind (Decimal.toPlaces? places) with
  | none => exact areNumerals_text n
  | some shown =>
      obtain ⟨x, _, placed⟩ := Option.bind_eq_some_iff.mp rounded
      obtain ⟨coefficient, _, rfl⟩ := Option.map_eq_some_iff.mp placed
      have digits : AreNumerals (padLeft (places + 1) '0' (Nat.toDigits 10 coefficient)) :=
        (areNumerals_append _ _).mpr ⟨areNumerals_replicate _ _ (by decide), areNumerals_toDigits _⟩
      have body : AreNumerals (Decimal.withPoint places coefficient) := by
        unfold Decimal.withPoint
        simp only
        split
        · exact digits.subset (List.take_subset _ _)
        · simp only [areNumerals_append, areNumerals_cons]
          exact ⟨digits.subset (List.take_subset _ _), by decide,
            digits.subset (List.drop_subset _ _)⟩
      simp only [Option.getD_some]
      split
      · simpa [areNumerals_cons, isNumeral] using body
      · simpa using body

end Number

theorem Widget.areNumerals_lengthText (n : Number) : AreNumerals (Widget.lengthText n).toList := by
  cases n <;> exact Number.areNumerals_text _

end ReportCompiler
