import Mathlib.Logic.Basic
import ReportCompiler.Asset.Base64

/-!
What is written in base 64 is read back, whatever the bytes are, and nothing is read that has a character of
another kind in it.
-/

namespace ReportCompiler

namespace Base64

/-! ### Digits -/

theorem value?_digit (n : Nat) (sextet : n < 64) : value? (digit n) = some n := by
  have all : ∀ n < 64, value? (digit n) = some n := by decide +kernel
  exact all n sextet

theorem digit_mod (n : Nat) : digit (n % 64) = digit n := by
  rw [digit, Nat.mod_mod, digit]

theorem digit_ne_pad (n : Nat) : digit n ≠ '=' := by
  have all : ∀ n < 64, digit n ≠ '=' := by decide +kernel
  rw [← digit_mod]
  exact all (n % 64) (Nat.mod_lt n (by decide))

theorem mem_alphabet_of_value? (c : Char) (n : Nat) (known : value? c = some n) : c ∈ alphabet := by
  rw [value?, List.findIdx?_eq_some_iff_getElem] at known
  obtain ⟨inside, here, _⟩ := known
  rw [← beq_iff_eq.mp here]
  exact List.getElem_mem inside

/-! ### Groups -/

section Bits

-- The bits of a byte that a digit shares with the byte after it come last in the digit.
variable (a b c : UInt8) (next : Nat)

theorem value?_digit_first : value? (digit (a.toNat / 4)) = some (a.toNat / 4) := by
  have byte := a.toNat_lt
  exact value?_digit _ (by omega)

theorem value?_digit_second (shared : next < 16) :
    value? (digit (a.toNat % 4 * 16 + next)) = some (a.toNat % 4 * 16 + next) :=
  value?_digit _ (by omega)

theorem value?_digit_third (shared : next < 4) :
    value? (digit (b.toNat % 16 * 4 + next)) = some (b.toNat % 16 * 4 + next) :=
  value?_digit _ (by omega)

theorem value?_digit_fourth : value? (digit c.toNat) = some (c.toNat % 64) := by
  rw [← digit_mod]
  exact value?_digit _ (by omega)

theorem byte_first (shared : next < 16) : UInt8.ofNat (a.toNat / 4 * 4 + (a.toNat % 4 * 16 + next) / 16) = a := by
  have whole : a.toNat / 4 * 4 + (a.toNat % 4 * 16 + next) / 16 = a.toNat := by omega
  rw [whole, UInt8.ofNat_toNat]

theorem byte_second (shared : next < 4) :
    UInt8.ofNat ((a.toNat % 4 * 16 + b.toNat / 16) % 16 * 16 + (b.toNat % 16 * 4 + next) / 4) = b := by
  have byte := b.toNat_lt
  have whole : (a.toNat % 4 * 16 + b.toNat / 16) % 16 * 16 + (b.toNat % 16 * 4 + next) / 4 = b.toNat := by omega
  rw [whole, UInt8.ofNat_toNat]

theorem byte_third : UInt8.ofNat ((b.toNat % 16 * 4 + c.toNat / 64) % 4 * 64 + c.toNat % 64) = c := by
  have byte := c.toNat_lt
  have whole : (b.toNat % 16 * 4 + c.toNat / 64) % 4 * 64 + c.toNat % 64 = c.toNat := by omega
  rw [whole, UInt8.ofNat_toNat]

end Bits

theorem decodeChars?_encodeChars (bytes : List UInt8) : decodeChars? (encodeChars bytes) = some bytes := by
  fun_induction encodeChars bytes with
  | case1 => rfl
  | case2 a =>
      have second := value?_digit_second a 0 (by decide)
      have byte := byte_first a 0 (by decide)
      rw [Nat.add_zero] at second byte
      rw [decodeChars?, value?_digit_first, second]
      exact congrArg (fun a => some [a]) byte
  | case3 a b =>
      have shared : b.toNat / 16 < 16 := by have byte := b.toNat_lt; omega
      have third := value?_digit_third b 0 (by decide)
      have byte := byte_second a b 0 (by decide)
      rw [Nat.add_zero] at third byte
      rw [decodeChars?, value?_digit_first, value?_digit_second a _ shared, third]
      · exact congrArg₂ (fun a b => some [a, b]) (byte_first a _ shared) byte
      · exact digit_ne_pad _
  | case4 a b c rest ih =>
      have shared : b.toNat / 16 < 16 := by have byte := b.toNat_lt; omega
      have sharedNext : c.toNat / 64 < 4 := by have byte := c.toNat_lt; omega
      have full := digit_ne_pad c.toNat
      rw [decodeChars?, value?_digit_first, value?_digit_second a _ shared, value?_digit_third b _ sharedNext,
        value?_digit_fourth, ih]
      · have group := congrArg₂ (fun b c => b :: c :: rest) (byte_second a b _ sharedNext) (byte_third b c)
        exact congrArg₂ (fun a group => some (a :: group)) (byte_first a _ shared) group
      · exact fun _ pad _ => full pad
      · exact fun pad _ => full pad

theorem decode?_encode (bytes : List UInt8) : decode? (encode bytes) = some bytes := by
  rw [decode?, encode, String.toList_ofList, decodeChars?_encodeChars]

/-! ### What can be read -/

/-- A text that is read has digits and fillers only. -/
theorem mem_of_decodeChars? (chars : List Char) (bytes : List UInt8) (read : decodeChars? chars = some bytes) :
    ∀ c ∈ chars, c = '=' ∨ c ∈ alphabet := by
  fun_induction decodeChars? chars generalizing bytes with
  | case1 => exact List.forall_mem_nil _
  | case2 a b =>
      obtain ⟨x, first, y, second, _⟩ := by simpa [Option.bind_eq_some_iff] using read
      simp [mem_alphabet_of_value? a x first, mem_alphabet_of_value? b y second]
  | case3 a b c =>
      obtain ⟨x, first, y, second, z, third, _⟩ := by simpa [Option.bind_eq_some_iff] using read
      simp [mem_alphabet_of_value? a x first, mem_alphabet_of_value? b y second, mem_alphabet_of_value? c z third]
  | case4 a b c d rest _ _ ih =>
      obtain ⟨x, first, y, second, z, third, w, fourth, others, later, _⟩ := by
        simpa [Option.bind_eq_some_iff] using read
      simpa [mem_alphabet_of_value? a x first, mem_alphabet_of_value? b y second, mem_alphabet_of_value? c z third,
        mem_alphabet_of_value? d w fourth] using ih others later
  | case5 => cases read

end Base64

end ReportCompiler
