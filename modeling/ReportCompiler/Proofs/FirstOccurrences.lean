import Mathlib.Data.List.Basic

/-!
The first occurrences in a list: each element once, in the order in which the elements first occur. Repetitions
within the parts of a list are repetitions within the whole.
-/

namespace ReportCompiler

variable {α : Type} {β : Type} [BEq β] [LawfulBEq β]

omit [LawfulBEq β] in
/-- Induction along the first occurrences: the repetitions of an element are left out of what follows it. -/
theorem firstOccurrences_induction {motive : List β → Prop} (nil : motive [])
    (cons : ∀ x rest, motive (rest.filter fun y => !y == x) → motive (x :: rest)) :
    (xs : List β) → motive xs
  | [] => nil
  | x :: rest => cons x rest (firstOccurrences_induction nil cons (rest.filter fun y => !y == x))
termination_by xs => xs.length
decreasing_by exact Nat.lt_succ_of_le (List.length_filter_le _ _)

-- What is left out moves what is kept, but never past each other.
theorem idxOf_lt_of_filter (keep : β → Bool) (xs : List β) (a b : β) (first : keep a = true)
    (second : keep b = true) (before : (xs.filter keep).idxOf a < (xs.filter keep).idxOf b) :
    xs.idxOf a < xs.idxOf b := by
  induction xs with
  | nil => simp at before
  | cons x rest ih =>
      by_cases shown : keep x = true
      · rw [List.filter_cons_of_pos shown, List.idxOf_cons, List.idxOf_cons] at before
        rw [List.idxOf_cons, List.idxOf_cons]
        cases isFirst : x == a <;> cases isSecond : x == b <;>
          simp only [isFirst, isSecond, cond_true, cond_false] at before ⊢ <;> omega
      · rw [List.filter_cons_of_neg shown] at before
        have notFirst : x ≠ a := fun same => shown (same ▸ first)
        have notSecond : x ≠ b := fun same => shown (same ▸ second)
        rw [List.idxOf_cons_ne _ notFirst, List.idxOf_cons_ne _ notSecond]
        exact Nat.succ_lt_succ (ih before)

theorem filter_eraseDups (keep : β → Bool) (xs : List β) :
    xs.eraseDups.filter keep = (xs.filter keep).eraseDups := by
  induction xs using firstOccurrences_induction with
  | nil => rfl
  | cons x rest ih =>
      rw [List.eraseDups_cons, List.filter_cons, List.filter_cons, ih, List.filter_filter]
      split
      · rw [List.eraseDups_cons, List.filter_filter]
        simp only [Bool.and_comm]
      · next left =>
          congr 1
          refine List.filter_congr fun y _ => ?_
          by_cases same : y = x <;> simp [same, left]

theorem eraseDups_pairwise_idxOf (xs : List β) :
    xs.eraseDups.Pairwise fun a b => xs.idxOf a < xs.idxOf b := by
  induction xs using firstOccurrences_induction with
  | nil => exact List.Pairwise.nil
  | cons x rest ih =>
      have other : ∀ y ∈ (rest.filter fun y => !y == x).eraseDups, (!y == x) = true :=
        fun y member => (List.mem_filter.mp (List.mem_eraseDups.mp member)).2
      have differs : ∀ y, (!y == x) = true → x ≠ y := by
        rintro y shown rfl
        simp at shown
      rw [List.eraseDups_cons, List.pairwise_cons]
      refine ⟨fun y member => ?_, ?_⟩
      · rw [List.idxOf_cons_self, List.idxOf_cons_ne _ (differs y (other y member))]
        exact Nat.succ_pos _
      · refine ih.imp_of_mem fun {a b} first second before => ?_
        rw [List.idxOf_cons_ne _ (differs a (other a first)),
          List.idxOf_cons_ne _ (differs b (other b second))]
        exact Nat.succ_lt_succ
          (idxOf_lt_of_filter _ rest a b (other a first) (other b second) before)

theorem nodup_eraseDups (xs : List β) : xs.eraseDups.Nodup :=
  (eraseDups_pairwise_idxOf xs).imp fun before same => by
    rw [same] at before
    exact Nat.lt_irrefl _ before

theorem eraseDups_eraseDups (xs : List β) : xs.eraseDups.eraseDups = xs.eraseDups := by
  induction xs using firstOccurrences_induction with
  | nil => rfl
  | cons x rest ih =>
      rw [List.eraseDups_cons, List.eraseDups_cons, filter_eraseDups, List.filter_filter]
      simp only [Bool.and_self]
      rw [ih]

-- A repetition within one part is a repetition within the whole.
theorem eraseDups_flatMap_eraseDups (f : α → List β) (xs : List α) :
    (xs.flatMap fun x => (f x).eraseDups).eraseDups = (xs.flatMap f).eraseDups := by
  induction xs with
  | nil => rfl
  | cons x rest ih =>
      have known : ∀ ys : List β, ys.removeAll (f x).eraseDups = ys.removeAll (f x) := by
        intro ys
        refine List.filter_congr fun y _ => ?_
        simp [List.mem_eraseDups]
      rw [List.flatMap_cons, List.flatMap_cons, List.eraseDups_append, List.eraseDups_append,
        eraseDups_eraseDups, known]
      simp only [List.removeAll]
      rw [← filter_eraseDups, ih, filter_eraseDups]

end ReportCompiler
