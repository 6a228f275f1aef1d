import ReportCompiler.Proofs.Calendar.Expansion
import ReportCompiler.Proofs.Number.Digits
import ReportCompiler.Proofs.Text.Trimming
import ReportCompiler.Value.Temporal

/-!
Moments read back from their text. Numbers are written with as many digits as are read for them, and the marks
between them are no digits, so every part of a moment comes back as it was, whatever the date.
-/

namespace ReportCompiler

open ReportCompiler.Text

namespace Iso

/-! ### Digits -/

theorem digit?_of_isDigit (c : Char) (digit : c.isDigit = true) : digit? c = digitValue? c := by
  have range := (Text.isDigit_iff c).mp digit
  rw [digitValue?_of_isDigit c digit, digit?, if_pos (by simpa using range)]

theorem isDigit_of_isDigit (c : Char) (digit : c.isDigit = true) : isDigit c = true := by
  rw [isDigit, digit?_of_isDigit c digit, digitValue?_of_isDigit c digit]
  rfl

theorem startsOffset_of_isDigit (c : Char) (digit : c.isDigit = true) : startsOffset c = false := by
  rw [Bool.eq_false_iff]
  intro starts
  simp only [startsOffset, Bool.or_eq_true, beq_iff_eq] at starts
  rcases starts with (rfl | rfl) | rfl <;> cases digit

theorem takeNumber?_digits (digits rest : List Char) (all : AreDigits digits) :
    takeNumber? digits.length (digits ++ rest) = some (digitsValue digits, rest) := by
  have digit : digits.all isDigit = true := List.all_eq_true.mpr fun c member => isDigit_of_isDigit c (all c member)
  have value : digits.foldl (fun value c => 10 * value + (digit? c).getD 0) 0 = digitsValue digits :=
    List.foldl_ext _ _ 0 fun value c member => by rw [digit?_of_isDigit c (all c member)]
  rw [takeNumber?, List.take_left, List.drop_left, value]
  simp [digit]

theorem takeNumber?_padded (width n : Nat) (rest : List Char) (wide : 0 < width) (fits : n < 10 ^ width) :
    takeNumber? width ((padded width n).toList ++ rest) = some (n, rest) := by
  have taken := takeNumber?_digits _ rest (areDigits_padded width n)
  rwa [length_padded width n wide fits, digitsValue_padded] at taken

/-- A mark that is no digit does not stand where a number is written. -/
theorem head?_padded_ne (width n : Nat) (rest : List Char) (mark : Char) (other : mark.isDigit = false) :
    ((padded width n).toList ++ rest).head? ≠ some mark := by
  intro first
  have given : (padded width n).toList ≠ [] := by
    rw [padded, String.toList_ofList, padLeft]
    exact List.append_ne_nil_of_right_ne_nil _ Nat.toDigits_ne_nil
  rw [List.head?_append_of_ne_nil _ given] at first
  have digit := areDigits_padded width n mark (List.mem_of_mem_head? first)
  rw [other] at digit
  cases digit

/-! ### Three numbers in a row -/

/-- Three numbers with a mark between them, the first of a given width and the others of two digits. -/
def grouped (mark : Char) (width first second third : Nat) : List Char :=
  (padded width first).toList ++ mark :: ((padded 2 second).toList ++ mark :: (padded 2 third).toList)

section Grouped

variable (mark : Char) (width first second third : Nat)

theorem grouped_append (rest : List Char) :
    grouped mark width first second third ++ rest =
      (padded width first).toList ++
        mark :: ((padded 2 second).toList ++ mark :: ((padded 2 third).toList ++ rest)) := by
  rw [grouped, List.append_assoc, List.cons_append, List.append_assoc, List.cons_append]

theorem mem_grouped (c : Char) (member : c ∈ grouped mark width first second third) :
    c.isDigit = true ∨ c = mark := by
  simp only [grouped, List.mem_append, List.mem_cons] at member
  rcases member with digit | rfl | digit | rfl | digit
  · exact .inl (areDigits_padded width first c digit)
  · exact .inr rfl
  · exact .inl (areDigits_padded 2 second c digit)
  · exact .inr rfl
  · exact .inl (areDigits_padded 2 third c digit)

theorem length_grouped (wide : 0 < width) (firstFits : first < 10 ^ width) (secondFits : second < 100)
    (thirdFits : third < 100) : (grouped mark width first second third).length = width + 6 := by
  rw [grouped, List.length_append, List.length_cons, List.length_append, List.length_cons,
    length_padded width first wide firstFits, length_padded 2 second (by decide) secondFits,
    length_padded 2 third (by decide) thirdFits]

end Grouped

/-! ### Moments as they are written -/

def dateChars (m : Moment) : List Char := grouped '-' 4 m.date.year m.date.month m.date.day

def clockChars (m : Moment) : List Char := grouped ':' 2 m.hour m.minute m.second

/-- The characters of a moment without its zone. -/
def momentChars (m : Moment) : List Char := dateChars m ++ 'T' :: clockChars m

/-- The offset of universal time. -/
def zeroOffset : List Char := ['+', '0', '0', ':', '0', '0']

theorem mem_momentChars (m : Moment) (c : Char) (member : c ∈ momentChars m) :
    c.isDigit = true ∨ c ∈ ['-', 'T', ':'] := by
  rw [momentChars, List.mem_append, List.mem_cons] at member
  rcases member with date | rfl | clock
  · exact (mem_grouped _ _ _ _ _ c date).imp_right fun same => by simp [same]
  · exact .inr (by simp)
  · exact (mem_grouped _ _ _ _ _ c clock).imp_right fun same => by simp [same]

/-- All parts of a moment fit the digits that they are written with. -/
structure PartsFit (m : Moment) : Prop where
  year : m.date.year < 10000
  month : m.date.month < 100
  day : m.date.day < 100
  hour : m.hour < 100
  minute : m.minute < 100
  second : m.second < 100

theorem monthLength_le (year month : Nat) : Date.monthLength year month ≤ 31 := by
  have each : ∀ length ∈ Date.monthLengths year, length ≤ 31 := by
    cases leap : Date.isLeapYear year <;> simp [Date.monthLengths, leap]
  rw [Date.monthLength, List.getD_eq_getElem?_getD]
  cases found : (Date.monthLengths year)[month - 1]? with
  | none => exact Nat.zero_le 31
  | some length => exact each length (List.mem_of_getElem? found)

theorem partsFit_of_isValid (m : Moment) (valid : m.isValid = true) : PartsFit m := by
  have length := monthLength_le m.date.year m.date.month
  simp only [Moment.isValid, Date.isValid, Bool.and_eq_true, decide_eq_true_eq] at valid
  constructor <;> omega

theorem PartsFit.length_dateChars {m : Moment} (fits : PartsFit m) : (dateChars m).length = 10 :=
  length_grouped '-' 4 _ _ _ (by decide) fits.year fits.month fits.day

theorem PartsFit.length_clockChars {m : Moment} (fits : PartsFit m) : (clockChars m).length = 8 :=
  length_grouped ':' 2 _ _ _ (by decide) fits.hour fits.minute fits.second

/-! ### Text as bytes -/

theorem toList_loop (bytes : ByteArray) (i : Nat) (found : List UInt8) :
    ByteArray.toList.loop bytes i found = found.reverse ++ bytes.data.toList.drop i := by
  fun_induction ByteArray.toList.loop bytes i found with
  | case1 i found inside ih =>
      have bound : i < bytes.data.toList.length := inside
      have here : bytes.get! i = bytes.data.toList[i] := getElem!_pos bytes.data i inside
      rw [ih, List.drop_eq_getElem_cons bound, List.reverse_cons, List.append_assoc, here, List.singleton_append]
  | case2 i found outside =>
      rw [List.drop_eq_nil_of_le (Nat.le_of_not_lt outside), List.append_nil]

theorem utf8EncodeChar_of_ascii (c : Char) (ascii : c.toNat < 128) :
    String.utf8EncodeChar c = [UInt8.ofNat c.toNat] := if_pos (Nat.le_of_lt_succ ascii)

theorem ofNat_utf8EncodeChar (c : Char) (ascii : c.toNat < 128) :
    (String.utf8EncodeChar c).map (fun byte => Char.ofNat byte.toNat) = [c] := by
  have small : (UInt8.ofNat c.toNat).toNat = c.toNat := UInt8.toNat_ofNat_of_lt' (Nat.lt_trans ascii (by decide))
  rw [utf8EncodeChar_of_ascii c ascii, List.map_singleton, small, Char.ofNat_toNat]

/-- ASCII text is its own bytes. -/
theorem bytes_of_ascii (chars : List Char) (ascii : ∀ c ∈ chars, c.toNat < 128) : bytes chars = chars := by
  have encoded : (String.ofList chars).toUTF8.toList = chars.flatMap String.utf8EncodeChar := by
    rw [String.toUTF8_eq_toByteArray, String.toByteArray_ofList, ByteArray.toList, toList_loop, List.utf8Encode,
      List.toList_data_toByteArray]
    rfl
  rw [bytes, encoded, List.map_flatMap, List.flatMap_congr fun c member => ofNat_utf8EncodeChar c (ascii c member)]
  exact List.flatMap_singleton' chars

theorem length_le_utf8ByteSize (chars : List Char) : chars.length ≤ (String.ofList chars).utf8ByteSize := by
  rw [← String.size_toByteArray, String.toByteArray_ofList, List.utf8Encode, List.size_toByteArray]
  induction chars with
  | nil => exact Nat.le_refl 0
  | cons c rest ih =>
      have size := c.utf8Size_pos
      rw [List.flatMap_cons, List.length_append, String.length_utf8EncodeChar, List.length_cons]
      omega

/-! ### Dates -/

section Reading

variable {m : Moment} (fits : PartsFit m)
include fits

theorem date?_dateChars : date? (dateChars m) = some m.date := by
  have year := takeNumber?_padded 4 m.date.year
    ('-' :: ((padded 2 m.date.month).toList ++ '-' :: (padded 2 m.date.day).toList)) (by decide) fits.year
  have month := takeNumber?_padded 2 m.date.month ('-' :: (padded 2 m.date.day).toList) (by decide) fits.month
  have day := takeNumber?_padded 2 m.date.day [] (by decide) fits.day
  have noWeek := head?_padded_ne 2 m.date.month ('-' :: (padded 2 m.date.day).toList) 'W' rfl
  rw [List.append_nil] at day
  rw [date?, dateChars, grouped, year]
  simp only [Option.bind_eq_bind, Option.bind_some, List.head?_cons, if_true, List.drop_one, List.tail_cons,
    beq_iff_eq, noWeek, if_false, month, day, List.isEmpty_nil]

/-- A date with hyphens takes ten characters of a longer text. -/
theorem dateLength_dateChars (rest : List Char) : dateLength (dateChars m ++ rest) = 10 := by
  have years := length_padded 4 m.date.year (by decide) fits.year
  have long := length_le_utf8ByteSize (dateChars m ++ rest)
  rw [List.length_append, fits.length_dateChars] at long
  have other : (String.ofList (dateChars m ++ rest)).utf8ByteSize ≠ 7 := by omega
  have noWeek := head?_padded_ne 2 m.date.month ('-' :: ((padded 2 m.date.day).toList ++ rest)) 'W' rfl
  have fifth : (dateChars m ++ rest)[4]? = some '-' := by
    rw [dateChars, grouped_append, List.getElem?_append_right (Nat.le_of_eq years), years]
    rfl
  have sixth : (dateChars m ++ rest)[5]? ≠ some 'W' := by
    rw [dateChars, grouped_append, List.getElem?_append_right (by omega), years, Nat.add_sub_cancel_left 4 1,
      List.getElem?_cons_succ, ← List.head?_eq_getElem?]
    exact noWeek
  simp only [dateLength, other, fifth, sixth, if_false, if_true]

/-! ### Times -/

theorem clock?_clockChars (zone : List Char) :
    clock? 8 (clockChars m ++ zone) =
      some ({ hour := m.hour, minute := m.minute, second := m.second }, !isOver zone) := by
  have hour := takeNumber?_padded 2 m.hour
    (':' :: ((padded 2 m.minute).toList ++ ':' :: ((padded 2 m.second).toList ++ zone))) (by decide) fits.hour
  have minute := takeNumber?_padded 2 m.minute (':' :: ((padded 2 m.second).toList ++ zone)) (by decide) fits.minute
  have second := takeNumber?_padded 2 m.second zone (by decide) fits.second
  rw [clock?, clockChars, grouped_append]
  simp [pairs?, hour, minute, second]

/-- The time reaches up to its zone. -/
theorem length_takeWhile_clockChars (zone : List Char) (starts : ∀ c ∈ zone.head?, startsOffset c = true) :
    ((clockChars m ++ zone).takeWhile fun c => !startsOffset c).length = 8 := by
  have inside : ∀ c ∈ clockChars m, (!startsOffset c) = true := by
    intro c member
    rcases mem_grouped _ _ _ _ _ c member with digit | rfl
    · rw [startsOffset_of_isDigit c digit]
      rfl
    · rfl
  have ends : ∀ c ∈ zone.head?, (!startsOffset c) = false := fun c first => by rw [starts c first]; rfl
  rw [takeWhile_run _ _ _ inside ends, fits.length_clockChars]

theorem time?_local :
    time? (clockChars m) = some ({ hour := m.hour, minute := m.minute, second := m.second }, none) := by
  have limit := length_takeWhile_clockChars fits [] (by simp)
  have clock := clock?_clockChars fits []
  have beyond : (clockChars m).drop 8 = [] := List.drop_eq_nil_of_le (Nat.le_of_eq fits.length_clockChars)
  rw [List.append_nil] at limit clock
  simp [time?, limit, clock, beyond, isOver]

theorem time?_universal :
    time? (clockChars m ++ zeroOffset) =
      some ({ hour := m.hour, minute := m.minute, second := m.second }, some 0) := by
  have limit := length_takeWhile_clockChars fits zeroOffset (by simp [zeroOffset, startsOffset])
  have clock := clock?_clockChars fits zeroOffset
  have zone : (clockChars m ++ zeroOffset).drop 8 = zeroOffset := by rw [← fits.length_clockChars, List.drop_left]
  have shift : clock? 5 ['0', '0', ':', '0', '0'] = some ({}, false) := rfl
  simp only [time?, limit, clock, zone]
  simp [zeroOffset, shift, offset?]

end Reading

/-! ### Moments -/

theorem ascii_of_isDigit (c : Char) (digit : c.isDigit = true) : c.toNat < 128 := by
  have range := (Text.isDigit_iff c).mp digit
  omega

theorem ascii_clockChars (m : Moment) (c : Char) (member : c ∈ clockChars m) : c.toNat < 128 := by
  rcases mem_grouped _ _ _ _ _ c member with digit | rfl
  · exact ascii_of_isDigit c digit
  · decide

/-- A moment is read back when its time is read with the zone that follows it. -/
theorem moment?_momentChars (m : Moment) (valid : m.isValid = true) (whole : m.microsecond = 0) (zone : List Char)
    (offset : Option Int) (ascii : ∀ c ∈ zone, c.toNat < 128)
    (clocked : time? (clockChars m ++ zone) =
      some ({ hour := m.hour, minute := m.minute, second := m.second }, offset)) :
    moment? (String.ofList (momentChars m ++ zone)) = some { m with offset } := by
  have fits := partsFit_of_isValid m valid
  have text : momentChars m ++ zone = dateChars m ++ 'T' :: (clockChars m ++ zone) := by
    rw [momentChars, List.append_assoc, List.cons_append]
  have before : (momentChars m ++ zone).take 10 = dateChars m := by rw [text, ← fits.length_dateChars, List.take_left]
  have behind : (momentChars m ++ zone).drop 10 = 'T' :: (clockChars m ++ zone) := by
    rw [text, ← fits.length_dateChars, List.drop_left]
  have ends : dateLength (momentChars m ++ zone) = 10 := by rw [text, dateLength_dateChars fits]
  have same : bytes (clockChars m ++ zone) = clockChars m ++ zone :=
    bytes_of_ascii _ (List.forall_mem_append.mpr ⟨ascii_clockChars m, ascii⟩)
  have again : Moment.isValid { m with offset } = true := valid
  rw [moment?, String.toList_ofList]
  simp only [ends, before, behind, same, date?_dateChars fits, clocked, Option.bind_eq_bind, Option.bind_some]
  rw [← whole, if_pos again]

end Iso

/-! ### Texts of moments -/

namespace DatePattern

/-- Date and time in their standard order, as pieces of a pattern. -/
def isoPieces : List Piece :=
  [.token .year, .literal "-", .token .month, .literal "-", .token .day, .literal "T", .token .hour, .literal ":",
    .token .minute, .literal ":", .token .second]

theorem format_iso (m : Moment) : format "yyyy-MM-ddTHH:mm:ss" m = String.ofList (Iso.momentChars m) := by
  have pattern : "yyyy-MM-ddTHH:mm:ss".toList = isoPieces.flatMap fun piece => piece.spelling.toList := by decide
  have expanded := expandFrom_pieces m isoPieces (by decide) (by decide) (by decide)
  rw [format, pattern, expanded, Iso.momentChars, Iso.dateChars, Iso.clockChars, Iso.grouped, Iso.grouped]
  simp [isoPieces, Piece.value, Token.value]

end DatePattern

namespace Moment

theorem isBlank_of_isDigit (c : Char) (digit : c.isDigit = true) : isBlank c = false := by
  rw [Bool.eq_false_iff]
  intro blank
  have decimal := isDecimalDigit_of_isDigit c digit
  rw [isDecimalDigit_of_isBlank c blank] at decimal
  cases decimal

theorem isBlank_momentChars (m : Moment) (c : Char) (member : c ∈ Iso.momentChars m) : isBlank c = false := by
  rcases Iso.mem_momentChars m c member with digit | mark
  · exact isBlank_of_isDigit c digit
  · simp only [List.mem_cons, List.not_mem_nil, or_false] at mark
    rcases mark with rfl | rfl | rfl <;> rfl

theorem ofText?_of_local (text : String) (solid : ∀ c ∈ text.toList, isBlank c = false) (given : text ≠ "")
    (unzoned : 'Z' ∉ text.toList) : ofText? text = Iso.moment? text := by
  have other : endsWith text "Z" = false := by
    rw [endsWith, Bool.eq_false_iff]
    intro ends
    obtain ⟨before, whole⟩ := List.isSuffixOf_iff_suffix.mp ends
    exact unzoned (whole ▸ List.mem_append_right before List.mem_cons_self)
  rw [ofText?, trim_of_solid text solid]
  simp [given, other]

theorem ofText?_of_universal (text : String) (solid : ∀ c ∈ text.toList, isBlank c = false) :
    ofText? (text ++ "Z") = Iso.moment? (text ++ "+00:00") := by
  have solidZone : ∀ c ∈ (text ++ "Z").toList, isBlank c = false := by
    rw [String.toList_append, List.forall_mem_append]
    exact ⟨solid, List.forall_mem_singleton.mpr rfl⟩
  have ends : endsWith (text ++ "Z") "Z" = true := by
    rw [endsWith, String.toList_append, List.isSuffixOf_iff_suffix]
    exact List.suffix_append _ _
  have front : dropBack 1 (text ++ "Z") = text := by
    have one : "Z".toList.length = 1 := rfl
    rw [dropBack, String.toList_append, List.length_append, one, Nat.add_sub_cancel, List.take_left,
      String.ofList_toList]
  rw [ofText?, trim_of_solid _ solidZone]
  simp [ends, front]

/-- A moment without a zone, written with whole seconds in the standard order, is read back as it was; with the
mark of universal time behind it, it is read as the same moment at offset zero. -/
theorem moment?_format (m : Moment) (valid : m.isValid = true) (unzoned : m.offset = none) (whole : m.microsecond = 0) :
    (Value.text (DatePattern.format "yyyy-MM-ddTHH:mm:ss" m)).moment? = some m ∧
      (Value.text (DatePattern.format "yyyy-MM-ddTHH:mm:ss" m ++ "Z")).moment? = some { m with offset := some 0 } := by
  have fits := Iso.partsFit_of_isValid m valid
  have solid : ∀ c ∈ (String.ofList (Iso.momentChars m)).toList, isBlank c = false := by
    rw [String.toList_ofList]
    exact isBlank_momentChars m
  rw [DatePattern.format_iso]
  constructor
  · have unmarked : 'Z' ∉ (String.ofList (Iso.momentChars m)).toList := by
      rw [String.toList_ofList]
      intro member
      rcases Iso.mem_momentChars m 'Z' member with digit | mark
      · cases digit
      · simp at mark
    have given : String.ofList (Iso.momentChars m) ≠ "" := by
      intro same
      have empty := String.ofList_eq_empty_iff.mp same
      simp [Iso.momentChars] at empty
    have clocked := Iso.time?_local fits
    rw [← List.append_nil (Iso.clockChars m)] at clocked
    have read := Iso.moment?_momentChars m valid whole [] none (List.forall_mem_nil _) clocked
    rw [List.append_nil, ← unzoned] at read
    exact (ofText?_of_local _ solid given unmarked).trans read
  · have read := Iso.moment?_momentChars m valid whole Iso.zeroOffset (some 0) (by simp [Iso.zeroOffset])
      (Iso.time?_universal fits)
    have zone : String.ofList Iso.zeroOffset = "+00:00" := rfl
    rw [String.ofList_append, zone] at read
    exact (ofText?_of_universal _ solid).trans read

/-- The last second of a leap day in a year of three digits. -/
theorem moment?_format_leapDay :
    let m : Moment :=
      { date := { year := 996, month := 2, day := 29 }, hour := 23, minute := 59, second := 59, microsecond := 0,
        offset := none }
    m.isValid = true ∧ m.offset = none ∧ m.microsecond = 0 ∧
      (Value.text "0996-02-29T23:59:59").moment? = some m ∧
      (Value.text "0996-02-29T23:59:59Z").moment? = some { m with offset := some 0 } := by
  intro m
  have valid : m.isValid = true := by decide
  have written : DatePattern.format "yyyy-MM-ddTHH:mm:ss" m = "0996-02-29T23:59:59" := by decide +kernel
  have read := moment?_format m valid rfl rfl
  rw [written] at read
  exact ⟨valid, rfl, rfl, read⟩

end Moment

end ReportCompiler
