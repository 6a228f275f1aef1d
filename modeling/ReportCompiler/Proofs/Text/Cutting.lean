import Mathlib.Data.List.TakeWhile
import ReportCompiler.Text.Basic

/-!
Text cut where it was put together: a run of characters is taken off what follows it, the last piece of two texts
is that of the second one if it has a separator, and joined parts are split again.
-/

namespace ReportCompiler.Text

/-! ### Runs of characters -/

section Runs

variable (isPart : Char → Bool) (run rest : List Char)

theorem takeWhile_run (all : ∀ c ∈ run, isPart c = true) (ends : ∀ c ∈ rest.head?, isPart c = false) :
    (run ++ rest).takeWhile isPart = run := by
  rw [List.takeWhile_append_of_pos all]
  cases rest with
  | nil => rw [List.takeWhile_nil, List.append_nil]
  | cons c more => rw [List.takeWhile_cons_of_neg (by simp [ends c rfl]), List.append_nil]

theorem dropWhile_run (all : ∀ c ∈ run, isPart c = true) (ends : ∀ c ∈ rest.head?, isPart c = false) :
    (run ++ rest).dropWhile isPart = rest := by
  rw [List.dropWhile_append_of_pos all]
  cases rest with
  | nil => rfl
  | cons c more => rw [List.dropWhile_cons_of_neg (by simp [ends c rfl])]

end Runs

/-! ### Pieces -/

theorem not_mem_of_mem_splitOn (separator : Char) (chars piece : List Char)
    (member : piece ∈ chars.splitOn separator) : separator ∉ piece := by
  induction chars generalizing piece with
  | nil =>
      rw [List.splitOn_nil, List.mem_singleton] at member
      simp [member]
  | cons c rest ih =>
      rw [List.splitOn_cons_eq_if_modifyHead] at member
      split at member
      · rcases List.mem_cons.mp member with rfl | later
        · exact List.not_mem_nil
        · exact ih piece later
      · next other =>
          -- The character goes to the front of the first piece.
          obtain ⟨first, more, pieces⟩ := List.exists_cons_of_ne_nil (List.splitOn_ne_nil separator rest)
          rw [pieces] at member ih
          rcases List.mem_cons.mp member with rfl | later
          · have different : separator ≠ c := fun same => other (beq_iff_eq.mpr same.symm)
            exact fun inside => (List.mem_cons.mp inside).elim different (ih first List.mem_cons_self)
          · exact ih piece (List.mem_cons_of_mem first later)

theorem not_mem_of_mem_split (separator : Char) (text piece : String) (member : piece ∈ split separator text) :
    separator ∉ piece.toList := by
  obtain ⟨chars, listed, rfl⟩ := List.mem_map.mp member
  rw [String.toList_ofList]
  exact not_mem_of_mem_splitOn separator text.toList chars listed

/-! ### The last piece and the first -/

theorem takeWhile_append_cons (isPart : Char → Bool) (chars rest : List Char) (c : Char) (ends : isPart c = false) :
    (chars ++ c :: rest).takeWhile isPart = chars.takeWhile isPart := by
  induction chars with
  | nil => rw [List.nil_append, List.takeWhile_cons_of_neg (by simp [ends]), List.takeWhile_nil]
  | cons d chars ih =>
      rw [List.cons_append, List.takeWhile_cons, List.takeWhile_cons, ih]

/-- A separator in the second text hides the first one. -/
theorem afterLast_append_of_mem (separator : Char) (first second : String) (member : separator ∈ second.toList) :
    afterLast separator (first ++ second) = afterLast separator second := by
  obtain ⟨before, after, whole⟩ := List.append_of_mem (List.mem_reverse.mpr member)
  have cut (more : List Char) : (before ++ separator :: more).takeWhile (· != separator) =
      before.takeWhile (· != separator) :=
    takeWhile_append_cons _ before more separator (by simp)
  rw [afterLast, afterLast, String.toList_append, List.reverse_append, whole, List.append_assoc, List.cons_append,
    cut, cut]

theorem afterLast_append_of_not_mem (separator : Char) (first second : String)
    (absent : separator ∉ second.toList) :
    afterLast separator (first ++ second) = afterLast separator first ++ second := by
  have whole : ∀ c ∈ second.toList.reverse, (c != separator) = true := by
    intro c member
    exact bne_iff_ne.mpr (ne_of_mem_of_not_mem (List.mem_reverse.mp member) absent)
  rw [afterLast, afterLast, String.toList_append, List.reverse_append, List.takeWhile_append_of_pos whole,
    List.reverse_append, List.reverse_reverse, String.ofList_append, String.ofList_toList]

/-! ### Joined parts -/

theorem join_cons_cons (separator first second : String) (rest : List String) :
    join separator (first :: second :: rest) = first ++ (separator ++ join separator (second :: rest)) := by
  apply String.toList_inj.mp
  simp [join, String.toList_intercalate]

section Joined

variable (separator : Char) (filler : List Char)

theorem intercalate_cons_eq (first : List Char) (rest : List (List Char)) :
    (separator :: filler).intercalate (first :: rest) =
      [separator].intercalate (first :: rest.map (filler ++ ·)) := by
  induction rest generalizing first with
  | nil => rfl
  | cons second rest ih =>
      rw [List.map_cons, List.intercalate_cons_cons, List.intercalate_cons_cons, ih]
      cases rest with
      | nil => simp
      | cons => simp [List.intercalate_cons_cons]

/-- Parts without the separator are what their join is split into. What stands between two parts, beside
the separator, goes to the second. -/
theorem split_join (first : String) (rest : List String) (outside : separator ∉ filler)
    (absent : ∀ part ∈ first :: rest, separator ∉ part.toList) :
    split separator (join (String.ofList (separator :: filler)) (first :: rest)) =
      first :: rest.map fun part => String.ofList (filler ++ part.toList) := by
  obtain ⟨head, later⟩ := List.forall_mem_cons.mp absent
  have pieces : ∀ piece ∈ first.toList :: (rest.map String.toList).map (filler ++ ·),
      separator ∉ piece := by
    refine List.forall_mem_cons.mpr ⟨head, ?_⟩
    rw [List.map_map, List.forall_mem_map]
    intro part member inside
    rcases List.mem_append.mp inside with filled | own
    · exact outside filled
    · exact later part member own
  rw [split, join, String.toList_intercalate, String.toList_ofList, List.map_cons, intercalate_cons_eq,
    List.splitOn_intercalate separator pieces (List.cons_ne_nil _ _)]
  simp [Function.comp_def]

end Joined

end ReportCompiler.Text
