import ReportCompiler.Proofs.Text.Trimming
import ReportCompiler.Text.Case

/-!
Lower case once is lower case for good: no letter is mapped to one that is mapped again. Blanks and the marks
from the colon to the question mark are no letters, so a text has them where its lower case has them.
-/

namespace ReportCompiler.Text

/-! ### Runs -/

/-- Code points from the first to the last in steps, and how far each is moved. -/
abbrev Run := Nat × Nat × Nat × Int

namespace Run

/-- The run has the code point. -/
def Holds (run : Run) (n : Nat) : Prop :=
  run.1 ≤ n ∧ n ≤ run.2.1 ∧ (n - run.1) % run.2.2.1 = 0

def moved (run : Run) (n : Nat) : Nat := ((n : Int) + run.2.2.2).toNat

/-- A range of code points that stay where they are. -/
def ofRange (range : Nat × Nat) : Run := (range.1, range.2, 1, 0)

/-- The two runs have no code point in common: they are apart, or one has even and the other odd ones. -/
def isApart (run other : Run) : Bool :=
  Nat.blt run.2.1 other.1 || Nat.blt other.2.1 run.1 ||
    ((run.2.2.1 == 2 || run.1 == run.2.1) && other.2.2.1 == 2 && (run.1 + other.1) % 2 == 1)

/-- Where the code points of a run come to. -/
def image (run : Run) : Run := (run.moved run.1, run.moved run.2.1, run.2.2.1, 0)

theorem not_holds_of_isApart (run other : Run) (apart : run.isApart other = true) (n : Nat)
    (here : run.Holds n) : ¬ other.Holds n := by
  rintro ⟨after, before, step⟩
  obtain ⟨first, last, even⟩ := here
  simp only [isApart, Bool.or_eq_true, Bool.and_eq_true, Nat.blt_eq, beq_iff_eq] at apart
  rcases apart with (below | above) | ⟨⟨stepped, two⟩, odd⟩
  · omega
  · omega
  · rw [two] at step
    rcases stepped with same | single
    · rw [same] at even
      omega
    · omega

theorem image_holds (run : Run) (n : Nat) (positive : 0 ≤ (run.1 : Int) + run.2.2.2) (here : run.Holds n) :
    run.image.Holds (run.moved n) := by
  obtain ⟨first, last, step⟩ := here
  have distance : run.moved n - run.moved run.1 = n - run.1 := by
    simp only [moved]
    omega
  refine ⟨?_, ?_, by simpa [image, distance] using step⟩ <;> simp only [image, moved] <;> omega

theorem holds_ofRange_iff (range : Nat × Nat) (n : Nat) :
    (ofRange range).Holds n ↔ range.1 ≤ n ∧ n ≤ range.2 := by
  simp [Holds, ofRange, Nat.mod_one]

end Run

/-! ### Letters -/

/-- All letters that have another one for their lower case. -/
def letterRuns : List Run := (65, 90, 1, 32) :: lowerRuns

/-- Blanks, and the marks from the colon to the question mark. -/
def markRanges : List (Nat × Nat) := (58, 63) :: blankRanges

def isMark (c : Char) : Bool := inRanges markRanges c

/-- The two letters that are more than moved: sigma and the capital I with a dot. -/
def specialRanges : List (Nat × Nat) := [(0x3a3, 0x3a3), (0x130, 0x130)]

def IsSpecial (c : Char) : Prop := c.toNat = 0x3a3 ∨ c.toNat = 0x130

/-- Everything that a letter must not be mapped to. -/
def avoidedRuns : List Run := letterRuns ++ (markRanges ++ specialRanges).map .ofRange

/-- What the letters that are more than moved are mapped to. -/
def specialImages : List Char := ['ς', 'σ', 'i', Char.ofNat 0x307]

theorem letterRuns_positive : ∀ run ∈ letterRuns, 0 ≤ (run.1 : Int) + run.2.2.2 := by decide +kernel

-- The tables are gone through as truth values, which takes one step for each pair of runs.
theorem letterRuns_apart_marks (run : Run) (letter : run ∈ letterRuns) (range : Nat × Nat)
    (marked : range ∈ markRanges) : run.isApart (.ofRange range) = true := by
  have all : (letterRuns.all fun run => markRanges.all fun range => run.isApart (.ofRange range)) = true := by
    decide +kernel
  exact List.all_eq_true.mp (List.all_eq_true.mp all run letter) range marked

theorem images_apart (run other : Run) (letter : run ∈ letterRuns) (avoided : other ∈ avoidedRuns) :
    run.image.isApart other = true := by
  have all : (letterRuns.all fun run => avoidedRuns.all run.image.isApart) = true := by decide +kernel
  exact List.all_eq_true.mp (List.all_eq_true.mp all run letter) other avoided

theorem specialImages_apart (c : Char) (special : c ∈ specialImages) (other : Run) (avoided : other ∈ avoidedRuns) :
    (Run.ofRange (c.toNat, c.toNat)).isApart other = true := by
  have all : (specialImages.all fun c => avoidedRuns.all (Run.ofRange (c.toNat, c.toNat)).isApart) = true := by
    decide +kernel
  exact List.all_eq_true.mp (List.all_eq_true.mp all c special) other avoided

theorem isMark_iff (c : Char) : isMark c = true ↔ ∃ range ∈ markRanges, (Run.ofRange range).Holds c.toNat := by
  simp [isMark, inRanges, Run.holds_ofRange_iff]

theorem toLower_eq_or (c : Char) (ascii : c.toNat < 128) :
    c.toLower = c ∨ (65 ≤ c.toNat ∧ c.toNat ≤ 90) ∧ c.toLower = Char.ofNat (c.toNat + 32) := by
  have all : ∀ n < 128, (Char.ofNat n).toLower = Char.ofNat n ∨
      (65 ≤ n ∧ n ≤ 90) ∧ (Char.ofNat n).toLower = Char.ofNat (n + 32) := by decide
  have one := all c.toNat ascii
  rwa [Char.ofNat_toNat] at one

theorem lowerChar_eq_or (c : Char) :
    lowerChar c = c ∨
      ∃ run ∈ letterRuns, run.Holds c.toNat ∧ lowerChar c = Char.ofNat (run.moved c.toNat) := by
  rw [lowerChar]
  split
  · next ascii =>
      refine (toLower_eq_or c ascii).imp_right fun ⟨⟨first, last⟩, moved⟩ => ?_
      exact ⟨(65, 90, 1, 32), List.mem_cons_self, ⟨first, last, Nat.mod_one _⟩, moved⟩
  · split
    · next run found =>
        have within := List.find?_some found
        simp only [Bool.and_eq_true, decide_eq_true_eq, beq_iff_eq] at within
        obtain ⟨⟨first, last⟩, step⟩ := within
        exact Or.inr ⟨run, List.mem_cons_of_mem _ (List.mem_of_find?_eq_some found), ⟨first, last, step⟩, rfl⟩
    · exact Or.inl rfl

theorem lowerChar_of_free (c : Char) (free : ∀ run ∈ letterRuns, ¬ run.Holds c.toNat) : lowerChar c = c := by
  rcases lowerChar_eq_or c with same | ⟨run, listed, here, _⟩
  · exact same
  · exact absurd here (free run listed)

/-! ### Low characters -/

/-- A character that lower case leaves as it is. -/
structure IsLow (c : Char) : Prop where
  same : lowerChar c = c
  ordinary : ¬ IsSpecial c

theorem isLow_of_free (c : Char) (free : ∀ other ∈ avoidedRuns, ¬ other.Holds c.toNat) :
    IsLow c ∧ isMark c = false := by
  have stays (range : Nat × Nat) (listed : range ∈ markRanges ++ specialRanges) :
      ¬ (Run.ofRange range).Holds c.toNat :=
    free _ (List.mem_append_right _ (List.mem_map_of_mem listed))
  refine ⟨⟨lowerChar_of_free c fun run letter => free run (List.mem_append_left _ letter), ?_⟩, ?_⟩
  · rintro (sigma | dotted)
    · exact stays (0x3a3, 0x3a3) (by decide) ((Run.holds_ofRange_iff _ _).mpr (by simp [sigma]))
    · exact stays (0x130, 0x130) (by decide) ((Run.holds_ofRange_iff _ _).mpr (by simp [dotted]))
  · refine Bool.eq_false_iff.mpr fun mark => ?_
    obtain ⟨range, listed, here⟩ := (isMark_iff c).mp mark
    exact stays range (List.mem_append_left _ listed) here

/-- What a letter is mapped to stays as it is from then on, and is no mark. -/
theorem isLow_image (run : Run) (listed : run ∈ letterRuns) (n : Nat) (here : run.Holds n) :
    IsLow (Char.ofNat (run.moved n)) ∧ isMark (Char.ofNat (run.moved n)) = false := by
  apply isLow_of_free
  intro other known
  have there := run.image_holds n (letterRuns_positive run listed) here
  have clear := run.image.not_holds_of_isApart other (images_apart run other listed known)
  by_cases valid : (run.moved n).isValidChar
  · have code : (Char.ofNat (run.moved n)).toNat = run.moved n := by
      rw [Char.ofNat, dif_pos valid]
      rfl
    rw [code]
    exact clear _ there
  · have none : ∀ other ∈ avoidedRuns, 0 < other.1 := by decide +kernel
    have replaced : (Char.ofNat (run.moved n)).toNat = 0 := by
      rw [Char.ofNat, dif_neg valid]
      rfl
    rw [replaced]
    exact fun here => Nat.not_le.mpr (none other known) here.1

theorem isLow_specialImage (c : Char) (special : c ∈ specialImages) : IsLow c ∧ isMark c = false := by
  apply isLow_of_free
  intro other avoided
  have here : (Run.ofRange (c.toNat, c.toNat)).Holds c.toNat :=
    (Run.holds_ofRange_iff _ _).mpr ⟨Nat.le_refl _, Nat.le_refl _⟩
  exact Run.not_holds_of_isApart _ other (specialImages_apart c special other avoided) _ here

/-- The lower case of a character that is not special: the character itself, or a letter in the place of a letter. -/
theorem lowerChar_spec (c : Char) (ordinary : ¬ IsSpecial c) :
    IsLow (lowerChar c) ∧ (lowerChar c = c ∨ isMark c = false ∧ isMark (lowerChar c) = false) := by
  rcases lowerChar_eq_or c with same | ⟨run, listed, here, moved⟩
  · rw [same]
    exact ⟨⟨same, ordinary⟩, Or.inl rfl⟩
  · obtain ⟨low, unmarked⟩ := isLow_image run listed c.toNat here
    rw [moved]
    refine ⟨low, Or.inr ⟨Bool.eq_false_iff.mpr fun mark => ?_, unmarked⟩⟩
    obtain ⟨range, marked, inside⟩ := (isMark_iff c).mp mark
    exact run.not_holds_of_isApart _ (letterRuns_apart_marks run listed range marked) _ here inside

/-! ### Lower case of a text -/

/-- What one character contributes to the lower case of a text. -/
structure IsLowerOf (c : Char) (image : List Char) : Prop where
  nonempty : image ≠ []
  low : ∀ d ∈ image, IsLow d
  kept : image = [c] ∨ isMark c = false ∧ ∀ d ∈ image, isMark d = false

theorem isLowerOf_special (c : Char) (special : IsSpecial c) (image : List Char)
    (nonempty : image ≠ []) (listed : ∀ d ∈ image, d ∈ specialImages) : IsLowerOf c image := by
  have unmarked : isMark c = false := by
    simp only [isMark, inRanges]
    rcases special with code | code <;> rw [code] <;> decide
  exact ⟨nonempty, fun d member => (isLow_specialImage d (listed d member)).1,
    Or.inr ⟨unmarked, fun d member => (isLow_specialImage d (listed d member)).2⟩⟩

theorem isLowerOf_lowerChar (c : Char) (ordinary : ¬ IsSpecial c) : IsLowerOf c [lowerChar c] := by
  obtain ⟨low, kept⟩ := lowerChar_spec c ordinary
  refine ⟨List.cons_ne_nil _ _, by simpa using low, ?_⟩
  exact kept.imp (congrArg fun d => [d]) fun ⟨unmarked, image⟩ => ⟨unmarked, by simpa using image⟩

theorem lowerFrom_cons (before : List Char) (c : Char) (rest : List Char) :
    ∃ image, IsLowerOf c image ∧
      lowerFrom before (c :: rest) = image ++ lowerFrom (c :: before) rest := by
  refine ⟨_, ?_, rfl⟩
  split
  · next sigma =>
      split
      · exact isLowerOf_special c (Or.inl sigma) _ (List.cons_ne_nil _ _) (by simp [specialImages])
      · exact isLowerOf_special c (Or.inl sigma) _ (List.cons_ne_nil _ _) (by simp [specialImages])
  · next noSigma =>
      split
      · next dotted => exact isLowerOf_special c (Or.inr dotted) _ (List.cons_ne_nil _ _) (by simp [specialImages])
      · next undotted => exact isLowerOf_lowerChar c (not_or.mpr ⟨noSigma, undotted⟩)

theorem isLow_of_mem_lowerFrom (before chars : List Char) : ∀ d ∈ lowerFrom before chars, IsLow d := by
  induction chars generalizing before with
  | nil => exact List.forall_mem_nil _
  | cons c rest ih =>
      obtain ⟨image, lower, whole⟩ := lowerFrom_cons before c rest
      rw [whole, List.forall_mem_append]
      exact ⟨lower.low, ih (c :: before)⟩

theorem lowerFrom_of_low (before chars : List Char) (low : ∀ c ∈ chars, IsLow c) :
    lowerFrom before chars = chars := by
  induction chars generalizing before with
  | nil => rfl
  | cons c rest ih =>
      obtain ⟨⟨same, ordinary⟩, others⟩ := List.forall_mem_cons.mp low
      obtain ⟨noSigma, undotted⟩ := not_or.mp ordinary
      rw [lowerFrom, if_neg noSigma, if_neg undotted, same, ih (c :: before) others, List.singleton_append]

/-- Lower case has no upper case left. -/
theorem lower_lower (text : String) : lower (lower text) = lower text := by
  rw [lower, lower, String.toList_ofList, lowerChars, lowerChars,
    lowerFrom_of_low [] _ (isLow_of_mem_lowerFrom [] text.toList)]

/-! ### Marks -/

-- A mark is no letter: where it stands afterwards, it stood before.
theorem mem_of_mem_lowerFrom (before chars : List Char) (mark : Char) (marked : isMark mark = true)
    (member : mark ∈ lowerFrom before chars) : mark ∈ chars := by
  induction chars generalizing before with
  | nil => cases member
  | cons c rest ih =>
      obtain ⟨image, lower, whole⟩ := lowerFrom_cons before c rest
      rw [whole, List.mem_append] at member
      rcases member with here | later
      · rcases lower.kept with same | ⟨_, unmarked⟩
        · rw [same, List.mem_singleton] at here
          exact here ▸ List.mem_cons_self
        · rw [unmarked mark here] at marked
          cases marked
      · exact List.mem_cons_of_mem c (ih (c :: before) later)

theorem isMark_of_isBlank (c : Char) (blank : isBlank c = true) : isMark c = true := by
  rw [isMark, markRanges, inRanges, List.any_cons, Bool.or_eq_true]
  exact Or.inr blank

theorem IsLowerOf.solid {c : Char} {image : List Char} (lower : IsLowerOf c image) (solid : isBlank c = false) :
    ∀ d ∈ image, isBlank d = false := by
  intro d member
  rcases lower.kept with same | ⟨_, unmarked⟩
  · rw [same, List.mem_singleton] at member
    rw [member, solid]
  · refine Bool.eq_false_iff.mpr fun blank => ?_
    have mark := unmarked d member
    rw [isMark_of_isBlank d blank] at mark
    cases mark

theorem IsLowerOf.blank {c : Char} {image : List Char} (lower : IsLowerOf c image) (blank : isBlank c = true) :
    image = [c] := by
  rcases lower.kept with same | ⟨unmarked, _⟩
  · exact same
  · rw [isMark_of_isBlank c blank] at unmarked
    cases unmarked

theorem isBlankText_lower (text : String) : isBlankText (lower text) = isBlankText text := by
  have all (before chars : List Char) : (lowerFrom before chars).all isBlank = chars.all isBlank := by
    induction chars generalizing before with
    | nil => rfl
    | cons c rest ih =>
        obtain ⟨image, lower, whole⟩ := lowerFrom_cons before c rest
        rw [whole, List.all_append, ih, List.all_cons]
        cases blank : isBlank c with
        | true => rw [lower.blank blank, List.all_cons, List.all_nil, blank, Bool.and_true]
        | false =>
            obtain ⟨d, more, made⟩ := List.exists_cons_of_ne_nil lower.nonempty
            have solid := lower.solid blank d (made ▸ List.mem_cons_self)
            rw [made, List.all_cons, solid, Bool.false_and]
  rw [isBlankText, lower, String.toList_ofList, lowerChars, all, isBlankText]

theorem solid_head_lowerFrom (before chars : List Char) (solid : ∀ c ∈ chars.head?, isBlank c = false) :
    ∀ d ∈ (lowerFrom before chars).head?, isBlank d = false := by
  cases chars with
  | nil => exact solid
  | cons c rest =>
      obtain ⟨image, lower, whole⟩ := lowerFrom_cons before c rest
      intro d first
      rw [whole, List.head?_append_of_ne_nil _ lower.nonempty] at first
      exact lower.solid (solid c rfl) d (List.mem_of_mem_head? first)

theorem solid_last_lowerFrom (before chars : List Char) (solid : ∀ c ∈ chars.getLast?, isBlank c = false) :
    ∀ d ∈ (lowerFrom before chars).getLast?, isBlank d = false := by
  induction chars generalizing before with
  | nil => exact solid
  | cons c rest ih =>
      obtain ⟨image, lower, whole⟩ := lowerFrom_cons before c rest
      intro d last
      cases rest with
      | nil =>
          rw [whole, lowerFrom, List.append_nil] at last
          exact lower.solid (solid c rfl) d (List.mem_of_mem_getLast? last)
      | cons next rest =>
          rw [List.getLast?_cons_cons] at solid
          obtain ⟨other, upper, rest'⟩ := lowerFrom_cons (c :: before) next rest
          have inside : lowerFrom (c :: before) (next :: rest) ≠ [] := by simp [rest', upper.nonempty]
          rw [whole, List.getLast?_append_of_ne_nil _ inside] at last
          exact ih (c :: before) solid d last

theorem hasSolidEnds_lowerChars (chars : List Char) (ends : HasSolidEnds chars) : HasSolidEnds (lowerChars chars) :=
  ⟨solid_head_lowerFrom [] chars ends.head, solid_last_lowerFrom [] chars ends.last⟩

theorem trim_lower_trim (text : String) : trim (lower (trim text)) = lower (trim text) := by
  have ends := hasSolidEnds_lowerChars _ (hasSolidEnds_trimChars text.toList)
  rw [lower, trim, trim, String.toList_ofList, String.toList_ofList, (trimChars_eq_self_iff _).mpr ends]

/-! ### Boundaries -/

/-- A character that case neither looks past nor takes for a letter. -/
structure IsBoundary (c : Char) : Prop where
  low : IsLow c
  uncased : isCased c = false
  noticed : isCaseIgnorable c = false

theorem nextIsCased_append (chars rest : List Char) (boundary : Char) (bounds : IsBoundary boundary) :
    nextIsCased (chars ++ boundary :: rest) = nextIsCased chars := by
  induction chars with
  | nil => simp [nextIsCased, bounds.noticed, bounds.uncased]
  | cons c chars ih =>
      by_cases skipped : isCaseIgnorable c = true
      · simpa [nextIsCased, List.dropWhile_cons, skipped] using ih
      · simp [nextIsCased, skipped]

/-- What stands before a boundary has the lower case that it has alone. -/
theorem lowerFrom_append (before chars rest : List Char) (boundary : Char) (bounds : IsBoundary boundary) :
    ∃ more, lowerFrom before (chars ++ boundary :: rest) = lowerFrom before chars ++ boundary :: more := by
  induction chars generalizing before with
  | nil =>
      obtain ⟨noSigma, undotted⟩ := not_or.mp bounds.low.ordinary
      refine ⟨lowerFrom (boundary :: before) rest, ?_⟩
      change lowerFrom before (boundary :: rest) = [boundary] ++ lowerFrom (boundary :: before) rest
      rw [lowerFrom, if_neg noSigma, if_neg undotted, bounds.low.same]
  | cons c chars ih =>
      obtain ⟨more, later⟩ := ih (c :: before)
      refine ⟨more, ?_⟩
      rw [List.cons_append, lowerFrom, lowerFrom, later, nextIsCased_append chars rest boundary bounds,
        List.append_assoc]

/-! ### Characters of their own -/

/-- A character that is its own lower case, and not that of any other character. -/
structure IsAlone (c : Char) : Prop where
  low : IsLow c
  plain : c ∉ specialImages
  coded : 0 < c.toNat
  apart : (letterRuns.all fun run => run.image.isApart (.ofRange (c.toNat, c.toNat))) = true

theorem lowerChar_eq_iff (alone : Char) (own : IsAlone alone) (c : Char) : lowerChar c = alone ↔ c = alone := by
  refine ⟨fun same => ?_, fun same => same ▸ own.low.same⟩
  rcases lowerChar_eq_or c with kept | ⟨run, listed, here, moved⟩
  · rw [← kept, same]
  · -- No letter is mapped to a character outside the images of the runs.
    have there := run.image_holds c.toNat (letterRuns_positive run listed) here
    have clear := run.image.not_holds_of_isApart _ (List.all_eq_true.mp own.apart run listed) _ there
    rw [same] at moved
    have code : alone.toNat = run.moved c.toNat := by
      by_cases valid : (run.moved c.toNat).isValidChar
      · rw [moved, Char.ofNat, dif_pos valid]
        rfl
      · have coded := own.coded
        rw [moved, Char.ofNat, dif_neg valid] at coded
        cases coded
    rw [← code] at clear
    exact absurd ((Run.holds_ofRange_iff _ _).mpr ⟨Nat.le_refl _, Nat.le_refl _⟩) clear

theorem mem_lowerFrom_iff (alone : Char) (own : IsAlone alone) (before chars : List Char) :
    alone ∈ lowerFrom before chars ↔ alone ∈ chars := by
  induction chars generalizing before with
  | nil => rfl
  | cons c rest ih =>
      obtain ⟨noSigma, undotted⟩ := not_or.mp own.low.ordinary
      have plain := own.plain
      simp only [specialImages, List.mem_cons, List.not_mem_nil, or_false, not_or] at plain
      rw [lowerFrom, List.mem_append, ih, List.mem_cons]
      refine or_congr_left ?_
      split
      · next sigma =>
          have other : alone ≠ c := fun same => noSigma (same ▸ sigma)
          split <;> simp [other, plain]
      · split
        · next dotted =>
            have other : alone ≠ c := fun same => undotted (same ▸ dotted)
            simp [other, plain]
        · rw [List.mem_singleton, eq_comm, lowerChar_eq_iff alone own, eq_comm]

theorem mem_lower_iff (alone : Char) (own : IsAlone alone) (text : String) :
    alone ∈ (lower text).toList ↔ alone ∈ text.toList := by
  rw [lower, String.toList_ofList, lowerChars, mem_lowerFrom_iff alone own]

end ReportCompiler.Text
