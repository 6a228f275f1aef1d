import Mathlib.Data.List.DropRight
import ReportCompiler.Text.Basic
import ReportCompiler.Text.Digit
import ReportCompiler.Text.Word

/-!
Blanks, which are few enough to be gone through one by one, and blanks around a text. Trimming leaves solid ends,
and nothing changes where the ends are solid. A character that is no blank keeps the blanks on its one side from
those on the other, so that each side is trimmed on its own.
-/

namespace ReportCompiler.Text

/-! ### Blanks -/

def blankChars : List Char :=
  blankRanges.flatMap fun range => (List.range' range.1 (range.2 + 1 - range.1)).map Char.ofNat

theorem mem_blankChars (c : Char) (blank : isBlank c = true) : c ∈ blankChars := by
  obtain ⟨range, listed, within⟩ := List.any_eq_true.mp blank
  rw [Bool.and_eq_true, decide_eq_true_eq, decide_eq_true_eq] at within
  have inside : c.toNat ∈ List.range' range.1 (range.2 + 1 - range.1) := by
    rw [List.mem_range'_1]
    omega
  exact List.mem_flatMap.mpr ⟨range, listed, List.mem_map.mpr ⟨c.toNat, inside, Char.ofNat_toNat c⟩⟩

theorem not_mem_of_all_not (chars : List Char) (p : Char → Bool)
    (none : chars.all (fun c => !p c) = true) (c : Char) (holds : p c = true) : c ∉ chars := by
  intro listed
  have fails := List.all_eq_true.mp none c listed
  rw [holds] at fails
  cases fails

theorem isDecimalDigit_of_isBlank (c : Char) (blank : isBlank c = true) : isDecimalDigit c = false := by
  rw [Bool.eq_false_iff]
  intro digit
  have none : blankChars.all (fun c => !isDecimalDigit c) = true := by decide +kernel
  exact not_mem_of_all_not blankChars isDecimalDigit none c digit (mem_blankChars c blank)

theorem isWord_of_isBlank (c : Char) (blank : isBlank c = true) : isWord c = false := by
  rw [Bool.eq_false_iff]
  intro word
  have none : blankChars.all (fun c => !isWord c) = true := by decide +kernel
  exact not_mem_of_all_not blankChars isWord none c word (mem_blankChars c blank)

/-! ### The two ends -/

-- What the left end of a text has lost, its right end does not bring back.
theorem trimLeft_trimRight (chars : List Char) (solid : trimLeft chars = chars) :
    trimLeft (trimRight chars) = trimRight chars := by
  have kept : trimRight chars <+: chars := List.rdropWhile_prefix isBlank chars
  obtain ⟨after, whole⟩ := kept
  cases left : trimRight chars with
  | nil => rfl
  | cons c rest =>
      rw [left] at whole
      rw [← whole] at solid
      by_cases blank : isBlank c = true
      · have shorter := congrArg List.length solid
        rw [List.cons_append, trimLeft_cons_blank blank, List.length_cons] at shorter
        have few : (trimLeft (rest ++ after)).length ≤ (rest ++ after).length :=
          (List.dropWhile_suffix isBlank).length_le
        omega
      · exact trimLeft_cons_of_not_blank (Bool.eq_false_iff.mpr blank) rest

theorem trimLeft_trimLeft (chars : List Char) : trimLeft (trimLeft chars) = trimLeft chars :=
  List.dropWhile_idempotent isBlank chars

theorem trimRight_trimRight (chars : List Char) : trimRight (trimRight chars) = trimRight chars :=
  List.rdropWhile_idempotent isBlank chars

theorem trimChars_trimChars (chars : List Char) : trimChars (trimChars chars) = trimChars chars := by
  rw [trimChars, trimChars, trimLeft_trimRight _ (trimLeft_trimLeft chars), trimRight_trimRight]

theorem trim_trim (text : String) : trim (trim text) = trim text := by
  rw [trim, trim, String.toList_ofList, trimChars_trimChars]

/-- Neither the first character nor the last one is a blank. -/
structure HasSolidEnds (chars : List Char) : Prop where
  head : ∀ c ∈ chars.head?, isBlank c = false
  last : ∀ c ∈ chars.getLast?, isBlank c = false

theorem trimLeft_eq_self_iff (chars : List Char) :
    trimLeft chars = chars ↔ ∀ c ∈ chars.head?, isBlank c = false := by
  cases chars with
  | nil => simp [trimLeft]
  | cons c rest =>
      constructor
      · intro same d first
        rw [List.head?_cons, Option.mem_some] at first
        rw [← first]
        refine Bool.eq_false_iff.mpr fun blank => ?_
        rw [trimLeft_cons_blank blank] at same
        have shorter := (List.dropWhile_suffix isBlank (l := rest)).length_le
        rw [← trimLeft, same, List.length_cons] at shorter
        omega
      · exact fun solid => trimLeft_cons_of_not_blank (solid c rfl) rest

theorem trimRight_eq_self_iff (chars : List Char) :
    trimRight chars = chars ↔ ∀ c ∈ chars.getLast?, isBlank c = false := by
  rw [trimRight, List.reverse_eq_iff, trimLeft_eq_self_iff, List.head?_reverse]

theorem trimChars_eq_self_iff (chars : List Char) : trimChars chars = chars ↔ HasSolidEnds chars := by
  constructor
  · intro same
    have left : trimLeft chars = chars := by
      rw [← same, trimChars, trimLeft_trimRight _ (trimLeft_trimLeft chars)]
    rw [trimChars, left] at same
    exact ⟨(trimLeft_eq_self_iff chars).mp left, (trimRight_eq_self_iff chars).mp same⟩
  · intro ends
    rw [trimChars, (trimLeft_eq_self_iff chars).mpr ends.head, (trimRight_eq_self_iff chars).mpr ends.last]

theorem hasSolidEnds_trimChars (chars : List Char) : HasSolidEnds (trimChars chars) :=
  (trimChars_eq_self_iff _).mp (trimChars_trimChars chars)

/-! ### Texts with blanks or without -/

theorem trim_of_solid (text : String) (solid : ∀ c ∈ text.toList, isBlank c = false) : trim text = text := by
  have ends : HasSolidEnds text.toList :=
    ⟨fun c first => solid c (List.mem_of_mem_head? first), fun c last => solid c (List.mem_of_mem_getLast? last)⟩
  rw [trim, (trimChars_eq_self_iff _).mpr ends, String.ofList_toList]

theorem trimLeft_eq_nil_iff (chars : List Char) : trimLeft chars = [] ↔ ∀ c ∈ chars, isBlank c = true :=
  List.dropWhile_eq_nil_iff

theorem trimRight_eq_nil_iff (chars : List Char) : trimRight chars = [] ↔ ∀ c ∈ chars, isBlank c = true :=
  List.rdropWhile_eq_nil_iff

theorem trimChars_eq_nil_iff (chars : List Char) : trimChars chars = [] ↔ ∀ c ∈ chars, isBlank c = true := by
  -- What is left after the left end has been trimmed is blank, and trimming it again changes nothing.
  rw [trimChars, trimRight_eq_nil_iff, ← trimLeft_eq_nil_iff, trimLeft_trimLeft, trimLeft_eq_nil_iff]

theorem trim_eq_empty_iff (text : String) : trim text = "" ↔ isBlankText text = true := by
  rw [trim, String.ofList_eq_empty_iff, trimChars_eq_nil_iff, isBlankText, List.all_eq_true]

theorem trim_of_blank (text : String) (blank : isBlankText text = true) : trim text = "" :=
  (trim_eq_empty_iff text).mpr blank

theorem isBlankText_trim (text : String) : isBlankText (trim text) = isBlankText text := by
  rw [Bool.eq_iff_iff, ← trim_eq_empty_iff, ← trim_eq_empty_iff, trim_trim]

theorem isBlankText_ofList_iff (chars : List Char) :
    isBlankText (String.ofList chars) = true ↔ ∀ c ∈ chars, isBlank c = true := by
  rw [isBlankText, String.toList_ofList, List.all_eq_true]

theorem isBlankText_append (first second : String) :
    isBlankText (first ++ second) = (isBlankText first && isBlankText second) := by
  rw [isBlankText, String.toList_append, List.all_append, isBlankText, isBlankText]

theorem trim_append_of_blank (blanks text : String) (blank : isBlankText blanks = true) :
    trim (blanks ++ text) = trim text := by
  have left : trimLeft (blanks.toList ++ text.toList) = trimLeft text.toList :=
    List.dropWhile_append_of_pos (List.all_eq_true.mp blank)
  rw [trim, trim, trimChars, String.toList_append, left, trimChars]

theorem trimRight_append_of_blank (chars blanks : List Char) (blank : ∀ c ∈ blanks, isBlank c = true) :
    trimRight (chars ++ blanks) = trimRight chars := by
  have right : trimLeft (blanks.reverse ++ chars.reverse) = trimLeft chars.reverse :=
    List.dropWhile_append_of_pos fun c member => blank c (List.mem_reverse.mp member)
  rw [trimRight, List.reverse_append, right, trimRight]

theorem exists_trimRight_append (chars : List Char) :
    ∃ blanks, (∀ c ∈ blanks, isBlank c = true) ∧ trimRight chars ++ blanks = chars :=
  ⟨chars.rtakeWhile isBlank, fun _ member => List.mem_rtakeWhile_imp member,
    List.rdropWhile_append_rtakeWhile⟩

theorem isInfix_trimChars (chars : List Char) : trimChars chars <:+: chars :=
  (List.rdropWhile_prefix isBlank (trimLeft chars)).isInfix.trans (List.dropWhile_suffix isBlank).isInfix

/-! ### Around a character -/

section Around

variable (before after : List Char) (c : Char) (solid : isBlank c = false)
include solid

theorem trimLeft_append_cons : trimLeft (before ++ c :: after) = trimLeft before ++ c :: after := by
  induction before with
  | nil => exact trimLeft_cons_of_not_blank solid after
  | cons d before ih =>
      by_cases blank : isBlank d = true
      · rw [List.cons_append, trimLeft_cons_blank blank, trimLeft_cons_blank blank, ih]
      · rw [List.cons_append, trimLeft_cons_of_not_blank (Bool.eq_false_iff.mpr blank),
          trimLeft_cons_of_not_blank (Bool.eq_false_iff.mpr blank), List.cons_append]

theorem trimRight_append_cons : trimRight (before ++ c :: after) = before ++ c :: trimRight after := by
  rw [trimRight, List.reverse_append, List.reverse_cons, List.append_assoc, List.singleton_append,
    trimLeft_append_cons after.reverse before.reverse c solid]
  simp [trimRight]

theorem trimChars_append_cons :
    trimChars (before ++ c :: after) = trimLeft before ++ c :: trimRight after := by
  rw [trimChars, trimLeft_append_cons before after c solid, trimRight_append_cons _ after c solid]

end Around

/-- Trimming takes away blanks only. -/
theorem mem_trim_iff (c : Char) (solid : isBlank c = false) (text : String) :
    c ∈ (trim text).toList ↔ c ∈ text.toList := by
  rw [trim, String.toList_ofList]
  constructor
  · exact fun member => (isInfix_trimChars text.toList).subset member
  · intro member
    obtain ⟨before, after, whole⟩ := List.append_of_mem member
    rw [whole, trimChars_append_cons before after c solid]
    exact List.mem_append_right _ List.mem_cons_self

theorem trimChars_trimLeft (chars : List Char) : trimChars (trimLeft chars) = trimChars chars := by
  rw [trimChars, trimLeft_trimLeft, trimChars]

-- A text with a character that is no blank is trimmed around it, in whichever order.
theorem trimChars_trimRight (chars : List Char) : trimChars (trimRight chars) = trimChars chars := by
  by_cases blank : ∀ c ∈ chars, isBlank c = true
  · rw [(trimRight_eq_nil_iff chars).mpr blank, (trimChars_eq_nil_iff chars).mpr blank]
    rfl
  · obtain ⟨c, member, solid⟩ := not_forall₂.mp blank
    obtain ⟨before, after, rfl⟩ := List.append_of_mem member
    have solid := Bool.eq_false_iff.mpr solid
    rw [trimRight_append_cons before after c solid, trimChars_append_cons before _ c solid,
      trimChars_append_cons before _ c solid, trimRight_trimRight]

end ReportCompiler.Text
