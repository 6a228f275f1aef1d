import Mathlib.Tactic.SplitIfs
import ReportCompiler.Proofs.Number.Digits
import ReportCompiler.Value.Json
import ReportCompiler.Value.Reader

/-!
Texts of JSON are read back. Every character is written as itself, as a backslash and a letter, or as
one or two escaped units of four hexadecimal digits; each way is undone by one step of the reader.
-/

namespace ReportCompiler

open ReportCompiler.Text

namespace JsonReader

/-! ### Hexadecimal digits -/

theorem hexDigit?_digitChar (n : Nat) (small : n < 16) : hexDigit? n.digitChar = some n := by
  have all : ∀ n < 16, hexDigit? (Nat.digitChar n) = some n := by decide
  exact all n small

/-- The number that hexadecimal digits spell, read from the left. -/
def unitValue (digits : List Char) : Nat :=
  digits.foldl (fun value c => 16 * value + (hexDigit? c).getD 0) 0

theorem unitValue_append_singleton (digits : List Char) (c : Char) :
    unitValue (digits ++ [c]) = 16 * unitValue digits + (hexDigit? c).getD 0 := by
  simp [unitValue]

theorem toDigits_hexadecimal (n : Nat) :
    (∀ c ∈ Nat.toDigits 16 n, (hexDigit? c).isSome = true) ∧ unitValue (Nat.toDigits 16 n) = n := by
  induction n using Nat.strongRecOn with
  | ind n ih =>
      rw [Nat.toDigits_eq_if (by decide)]
      split
      · next small =>
          have digit := hexDigit?_digitChar n small
          refine ⟨fun c member => ?_, ?_⟩
          · rw [List.mem_singleton.mp member, digit]
            rfl
          · rw [← List.nil_append [n.digitChar], unitValue_append_singleton, digit]
            exact Nat.zero_add n
      · obtain ⟨digits, value⟩ := ih (n / 16) (by omega)
        have digit := hexDigit?_digitChar (n % 16) (by omega)
        refine ⟨fun c member => ?_, ?_⟩
        · rcases List.mem_append.mp member with earlier | last
          · exact digits c earlier
          · rw [List.mem_singleton.mp last, digit]
            rfl
        · rw [unitValue_append_singleton, value, digit]
          exact Nat.div_add_mod n 16

theorem unitValue_zeros_append (count : Nat) (digits : List Char) :
    unitValue (List.replicate count '0' ++ digits) = unitValue digits := by
  induction count with
  | zero => rfl
  | succ count ih => exact ih

/-- Four digits are one unit. -/
theorem takeUnit?_hexPadded (n : Nat) (small : n < 0x10000) (rest : List Char) :
    takeUnit? (hexPadded 4 n ++ rest) = some (n, rest) := by
  obtain ⟨digits, value⟩ := toDigits_hexadecimal n
  have short : (Nat.toDigits 16 n).length ≤ 4 :=
    (Nat.length_toDigits_le_iff (by decide) (by decide)).mpr small
  have length : (hexPadded 4 n).length = 4 := by
    rw [hexPadded, padLeft, List.length_append, List.length_replicate]
    omega
  have all : (hexPadded 4 n).all (fun c => (hexDigit? c).isSome) = true := by
    rw [List.all_eq_true]
    intro c member
    rcases List.mem_append.mp member with zero | digit
    · rw [List.eq_of_mem_replicate zero]
      rfl
    · exact digits c digit
  have padded : unitValue (hexPadded 4 n) = n :=
    (unitValue_zeros_append _ _).trans value
  unfold takeUnit?
  simp only [List.take_left' length, List.drop_left' length]
  rw [if_pos (by rw [all, length]; rfl)]
  exact congrArg (fun unit => some (unit, rest)) padded

/-! ### One character -/

variable (opening fuel : Nat) (rest found : List Char)

theorem readText_quote :
    readText opening (fuel + 1) ('"' :: rest) found = .ok (String.ofList found.reverse, rest) := by
  simp [readText]

theorem readText_plain (c : Char) (noQuote : c ≠ '"') (noEscape : c ≠ '\\') (shown : 32 ≤ c.toNat) :
    readText opening (fuel + 1) (c :: rest) found = readText opening fuel rest (c :: found) := by
  have notLess : ¬ c.toNat < 32 := by omega
  simp [readText, noQuote, noEscape, notLess]

theorem readText_letter (letter plain : Char) (known : simpleEscape? letter = some plain) :
    readText opening (fuel + 1) ('\\' :: letter :: rest) found =
      readText opening fuel rest (plain :: found) := by
  have notUnit : letter ≠ 'u' := by
    rintro rfl
    cases known
  simp [readText, known]

/-- An escaped unit that is no half of a pair. -/
theorem readText_unit (unit : Nat) (small : unit < 0x10000) (whole : isHighSurrogate unit = false) :
    readText opening (fuel + 1) ('\\' :: 'u' :: (hexPadded 4 unit ++ rest)) found =
      readText opening fuel rest (unitChar unit :: found) := by
  simp [readText, takeUnit?_hexPadded unit small rest, whole]

/-- An escaped pair of units. -/
theorem readText_pair (high low : Nat) (isHigh : isHighSurrogate high = true)
    (isLow : isLowSurrogate low = true) :
    readText opening (fuel + 1)
        ('\\' :: 'u' :: (hexPadded 4 high ++ '\\' :: 'u' :: (hexPadded 4 low ++ rest))) found =
      readText opening fuel rest
        (Char.ofNat (0x10000 + (high - 0xd800) * 0x400 + (low - 0xdc00)) :: found) := by
  have high_small : high < 0x10000 := by
    simp only [isHighSurrogate, Bool.and_eq_true, decide_eq_true_eq] at isHigh
    omega
  have low_small : low < 0x10000 := by
    simp only [isLowSurrogate, Bool.and_eq_true, decide_eq_true_eq] at isLow
    omega
  have second := takeUnit?_hexPadded low low_small rest
  simp [readText, takeUnit?_hexPadded high high_small, isHigh, takeLowHalf?, second, isLow]

theorem toList_codeUnit (unit : Nat) :
    (JsonStyle.codeUnit unit).toList = '\\' :: 'u' :: hexPadded 4 unit := by
  simp [JsonStyle.codeUnit]

/-- No character is half of a pair. -/
theorem code_bounds (c : Char) :
    c.toNat < 0x110000 ∧ isHighSurrogate c.toNat = false ∧ isLowSurrogate c.toNat = false := by
  have valid := c.valid
  simp only [UInt32.isValidChar, Nat.isValidChar, Char.toNat_val] at valid
  simp only [isHighSurrogate, isLowSurrogate, Bool.and_eq_false_iff, decide_eq_false_iff_not]
  omega

/-- A character beyond the basic plane, by its distance from it. -/
theorem readText_beyond (c : Char) (offset : Nat) (code : c.toNat = 0x10000 + offset) :
    readText opening (fuel + 1) ((JsonStyle.codeUnit (0xd800 + offset / 0x400) ++
        JsonStyle.codeUnit (0xdc00 + offset % 0x400)).toList ++ rest) found =
      readText opening fuel rest (c :: found) := by
  have bound := (code_bounds c).1
  have high : isHighSurrogate (0xd800 + offset / 0x400) = true := by
    simp only [isHighSurrogate, Bool.and_eq_true, decide_eq_true_eq]
    omega
  have low : isLowSurrogate (0xdc00 + offset % 0x400) = true := by
    simp only [isLowSurrogate, Bool.and_eq_true, decide_eq_true_eq]
    omega
  have joined : 0x10000 + (0xd800 + offset / 0x400 - 0xd800) * 0x400 +
      (0xdc00 + offset % 0x400 - 0xdc00) = c.toNat := by omega
  simp only [String.toList_append, toList_codeUnit, List.cons_append, List.append_assoc]
  rw [readText_pair opening fuel rest found _ _ high low, joined, Char.ofNat_toNat]

theorem readText_unicodeEscape (c : Char) :
    readText opening (fuel + 1) ((JsonStyle.unicodeEscape c.toNat).toList ++ rest) found =
      readText opening fuel rest (c :: found) := by
  obtain ⟨-, notHigh, notLow⟩ := code_bounds c
  unfold JsonStyle.unicodeEscape
  split
  · next small =>
      have same : unitChar c.toNat = c := by
        rw [unitChar, notHigh, notLow, Bool.or_self, if_neg Bool.false_ne_true, Char.ofNat_toNat]
      rw [toList_codeUnit, List.cons_append, List.cons_append,
        readText_unit opening fuel rest found c.toNat small notHigh, same]
  · next large =>
      exact readText_beyond opening fuel rest found c (c.toNat - 0x10000) (by omega)

/-- The ways that a character is written: with a letter, with its code, or as it is. -/
theorem escapeControl_cases (c : Char) :
    (∃ letter, simpleEscape? letter = some c ∧
      (JsonStyle.escapeControl c).toList = ['\\', letter]) ∨
    JsonStyle.escapeControl c = JsonStyle.unicodeEscape c.toNat ∨
    (JsonStyle.escapeControl c = String.singleton c ∧ c ≠ '"' ∧ c ≠ '\\' ∧ 32 ≤ c.toNat) := by
  have of_code (code : Nat) (same : c.toNat = code) : c = Char.ofNat code := by
    rw [← same, Char.ofNat_toNat]
  unfold JsonStyle.escapeControl
  simp only [beq_iff_eq]
  split_ifs with quote backslash newline back tab eight twelve control
  · exact .inl ⟨'"', by rw [quote]; rfl, rfl⟩
  · exact .inl ⟨'\\', by rw [backslash]; rfl, rfl⟩
  · exact .inl ⟨'n', by rw [newline]; rfl, rfl⟩
  · exact .inl ⟨'r', by rw [back]; rfl, rfl⟩
  · exact .inl ⟨'t', by rw [tab]; rfl, rfl⟩
  · exact .inl ⟨'b', by rw [of_code 8 eight]; rfl, rfl⟩
  · exact .inl ⟨'f', by rw [of_code 12 twelve]; rfl, rfl⟩
  · exact .inr (.inl rfl)
  · exact .inr (.inr ⟨rfl, quote, backslash, by omega⟩)

theorem readText_escapeControl (c : Char) :
    readText opening (fuel + 1) ((JsonStyle.escapeControl c).toList ++ rest) found =
      readText opening fuel rest (c :: found) := by
  rcases escapeControl_cases c with ⟨letter, known, written⟩ | written | ⟨written, quote, escape, shown⟩
  · rw [written]
    exact readText_letter opening fuel rest found letter c known
  · rw [written]
    exact readText_unicodeEscape opening fuel rest found c
  · rw [written, String.toList_singleton]
    exact readText_plain opening fuel rest found c quote escape shown

theorem readText_escapeEmbedded (c : Char) :
    readText opening (fuel + 1) ((JsonStyle.escapeEmbedded c).toList ++ rest) found =
      readText opening fuel rest (c :: found) := by
  unfold JsonStyle.escapeEmbedded
  split
  · exact readText_unicodeEscape opening fuel rest found c
  · exact readText_escapeControl opening fuel rest found c

/-! ### Whole texts -/

theorem unicodeEscape_ne_nil (code : Nat) : (JsonStyle.unicodeEscape code).toList ≠ [] := by
  unfold JsonStyle.unicodeEscape
  split
  · rw [toList_codeUnit]
    exact List.cons_ne_nil _ _
  · rw [String.toList_append, toList_codeUnit]
    exact List.cons_ne_nil _ _

theorem escapeControl_ne_nil (c : Char) : (JsonStyle.escapeControl c).toList ≠ [] := by
  rcases escapeControl_cases c with ⟨letter, -, written⟩ | written | ⟨written, -⟩
  · rw [written]
    exact List.cons_ne_nil _ _
  · rw [written]
    exact unicodeEscape_ne_nil c.toNat
  · rw [written, String.toList_singleton]
    exact List.cons_ne_nil _ _

/-- What is written for one character is something, and one step of the reader undoes it. -/
structure Undoes (style : JsonStyle) : Prop where
  ne_nil (c : Char) : (style.escape c).toList ≠ []
  step (opening fuel : Nat) (rest found : List Char) (c : Char) :
    readText opening (fuel + 1) ((style.escape c).toList ++ rest) found =
      readText opening fuel rest (c :: found)

theorem undoes_embedded : Undoes .embedded where
  ne_nil c := by
    unfold JsonStyle.embedded JsonStyle.escapeEmbedded
    simp only
    split
    · exact unicodeEscape_ne_nil c.toNat
    · exact escapeControl_ne_nil c
  step := readText_escapeEmbedded

theorem readText_escapes (style : JsonStyle) (undoes : Undoes style) (chars : List Char) :
    ∀ (fuel : Nat) (found : List Char), chars.length < fuel →
      readText opening fuel
          (chars.flatMap (fun c => (style.escape c).toList) ++ '"' :: rest) found =
        .ok (String.ofList (found.reverse ++ chars), rest) := by
  induction chars with
  | nil =>
      intro fuel found enough
      obtain ⟨less, rfl⟩ := Nat.exists_eq_add_of_lt enough
      rw [List.append_nil, List.flatMap_nil, List.nil_append]
      exact readText_quote opening _ rest found
  | cons c chars ih =>
      intro fuel found enough
      obtain ⟨less, rfl⟩ := Nat.exists_eq_add_of_lt enough
      rw [List.flatMap_cons, List.append_assoc, undoes.step, ih _ _ (by rw [List.length_cons]; omega)]
      simp

theorem toList_quote (style : JsonStyle) (text : String) :
    (style.quote text).toList =
      '"' :: (text.toList.flatMap (fun c => (style.escape c).toList) ++ ['"']) := by
  simp [JsonStyle.quote, expand, String.toList_join, List.flatMap_map]

/-- A quoted text is read, whatever comes after it. -/
theorem exists_quoted (style : JsonStyle) (undoes : Undoes style) (text : String) :
    ∃ inside, (style.quote text).toList = '"' :: inside ∧ ∀ (opening : Nat) (rest : List Char),
      readText opening ((inside ++ rest).length + 1) (inside ++ rest) [] = .ok (text, rest) := by
  refine ⟨_, toList_quote style text, fun opening rest => ?_⟩
  have written (chars : List Char) :
      chars.length ≤ (chars.flatMap fun c => (style.escape c).toList).length := by
    induction chars with
    | nil => exact Nat.le_refl 0
    | cons c chars ih =>
        have one := List.length_pos_iff.mpr (undoes.ne_nil c)
        rw [List.flatMap_cons, List.length_append, List.length_cons]
        omega
  have long := written text.toList
  rw [List.append_assoc, List.singleton_append,
    readText_escapes opening rest style undoes text.toList _ [] (by rw [List.length_append]; omega)]
  simp

end JsonReader

end ReportCompiler
