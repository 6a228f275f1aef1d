import Mathlib.Data.List.Forall2
import ReportCompiler.Fault

/-!
Computations that give a result or end in a fault: how the outcome of a sequence follows from the
outcomes of its steps.
-/

namespace ReportCompiler

namespace Attempt

variable {α β : Type}

theorem bind_eq_ok_iff {ε : Type} (x : Except ε α) (f : α → Except ε β) (b : β) :
    x >>= f = .ok b ↔ ∃ a, x = .ok a ∧ f a = .ok b := by
  cases x <;> simp [bind, Except.bind]

theorem ok_bind (a : α) (f : α → Except Fault β) : (Except.ok a >>= f) = f a := rfl

theorem error_bind (fault : Fault) (f : α → Except Fault β) : (Except.error fault >>= f) = .error fault := rfl

theorem bind_eq_error_iff {ε : Type} (x : Except ε α) (f : α → Except ε β) (problem : ε) :
    x >>= f = .error problem ↔ x = .error problem ∨ ∃ a, x = .ok a ∧ f a = .error problem := by
  cases x <;> simp [bind, Except.bind]

theorem bind_ite (c : Prop) [Decidable c] (x y : Except Fault α) (f : α → Except Fault β) :
    (if c then x >>= f else y >>= f) = (if c then x else y) >>= f := by
  split <;> rfl

theorem pure_eq_ok_iff {ε : Type} (a b : α) : (pure a : Except ε α) = .ok b ↔ a = b := by
  simp [pure, Except.pure]

theorem eq_ok_of_toOption (x : Except Fault α) (a : α) (given : x.toOption = some a) : x = .ok a := by
  cases x with
  | error fault => cases given
  | ok b => rw [Option.some.inj given]

theorem map_eq_ok_iff (f : α → β) (x : Except Fault α) (b : β) :
    x.map f = .ok b ↔ ∃ a, x = .ok a ∧ f a = b := by
  cases x <;> simp [Except.map]

theorem map_eq_error_iff (f : α → β) (x : Except Fault α) (fault : Fault) :
    x.map f = .error fault ↔ x = .error fault := by
  cases x <;> simp [Except.map]

theorem mapM_congr (f g : α → Except Fault β) (xs : List α) (same : ∀ x ∈ xs, f x = g x) :
    xs.mapM f = xs.mapM g := by
  induction xs with
  | nil => rfl
  | cons x rest ih =>
      obtain ⟨here, later⟩ := List.forall_mem_cons.mp same
      rw [List.mapM_cons, List.mapM_cons, here, ih later]

/-! ### Results -/

/-- The computation gives a result. -/
def Succeeds (x : Except Fault α) : Prop := ∃ a, x = .ok a

@[simp] theorem succeeds_ok (a : α) : Succeeds (.ok a : Except Fault α) := ⟨a, rfl⟩

@[simp] theorem succeeds_pure (a : α) : Succeeds (pure a : Except Fault α) := ⟨a, rfl⟩

@[simp] theorem not_succeeds_error (fault : Fault) : ¬ Succeeds (.error fault : Except Fault α) := by
  rintro ⟨a, impossible⟩
  cases impossible

theorem succeeds_bind_iff (x : Except Fault α) (f : α → Except Fault β) :
    Succeeds (x >>= f) ↔ ∃ a, x = .ok a ∧ Succeeds (f a) := by
  cases x <;> simp [Succeeds, bind, Except.bind]

@[simp] theorem succeeds_map_iff (f : α → β) (x : Except Fault α) :
    Succeeds (x.map f) ↔ Succeeds x := by
  cases x <;> simp [Succeeds, Except.map]

theorem succeeds_bind_iff_forall (x : Except Fault α) (f : α → Except Fault β) :
    Succeeds (x >>= f) ↔ Succeeds x ∧ ∀ a, x = .ok a → Succeeds (f a) := by
  cases x <;> simp [Succeeds, bind, Except.bind]

theorem succeeds_bind_iff_and (x : Except Fault α) (f : α → Except Fault β) (p : Prop)
    (onward : ∀ a, Succeeds (f a) ↔ p) : Succeeds (x >>= f) ↔ Succeeds x ∧ p := by
  rw [succeeds_bind_iff]
  exact ⟨fun ⟨a, made, later⟩ => ⟨⟨a, made⟩, (onward a).mp later⟩,
    fun ⟨⟨a, made⟩, later⟩ => ⟨a, made, (onward a).mpr later⟩⟩

theorem succeeds_bind_congr {γ : Type} (x : Except Fault α) (f : α → Except Fault β)
    (g : α → Except Fault γ) (same : ∀ a, Succeeds (f a) ↔ Succeeds (g a)) :
    Succeeds (x >>= f) ↔ Succeeds (x >>= g) := by
  simp only [succeeds_bind_iff, same]

theorem succeeds_bind_of_forall (x : Except Fault α) (f : α → Except Fault β)
    (onward : ∀ a, Succeeds (f a)) : Succeeds (x >>= f) ↔ Succeeds x := by
  rw [succeeds_bind_iff_and x f True fun a => iff_true_intro (onward a), and_true]

theorem succeeds_bind_pure_iff (x : Except Fault α) (f : α → β) :
    Succeeds (x >>= fun a => pure (f a)) ↔ Succeeds x :=
  succeeds_bind_of_forall x _ fun a => succeeds_pure (f a)

theorem succeeds_mapM_iff (f : α → Except Fault β) (xs : List α) :
    Succeeds (xs.mapM f) ↔ ∀ x ∈ xs, Succeeds (f x) := by
  induction xs with
  | nil => simp
  | cons x xs ih =>
      rw [List.mapM_cons, succeeds_bind_iff, List.forall_mem_cons, ← ih]
      constructor
      · rintro ⟨b, first, rest⟩
        obtain ⟨bs, later, _⟩ := (succeeds_bind_iff _ _).mp rest
        exact ⟨⟨b, first⟩, ⟨bs, later⟩⟩
      · rintro ⟨⟨b, first⟩, ⟨bs, later⟩⟩
        exact ⟨b, first, (succeeds_bind_iff _ _).mpr ⟨bs, later, succeeds_pure _⟩⟩

/-- A sequence of steps gives the results of its steps, in their order. -/
theorem mapM_eq_ok_iff {ε : Type} (f : α → Except ε β) (xs : List α) (ys : List β) :
    xs.mapM f = .ok ys ↔ List.Forall₂ (fun x y => f x = .ok y) xs ys := by
  induction xs generalizing ys with
  | nil => rw [List.mapM_nil, pure_eq_ok_iff, List.forall₂_nil_left_iff, eq_comm]
  | cons x xs ih =>
      simp only [List.mapM_cons, bind_eq_ok_iff, pure_eq_ok_iff, List.forall₂_cons_left_iff, ih]
      constructor
      · rintro ⟨y, first, rest, later, rfl⟩
        exact ⟨y, rest, first, later, rfl⟩
      · rintro ⟨y, rest, first, later, rfl⟩
        exact ⟨y, first, rest, later, rfl⟩

theorem mem_of_mapM {ε : Type} (f : α → Except ε β) (xs : List α) (ys : List β)
    (made : xs.mapM f = .ok ys) : ∀ y ∈ ys, ∃ x ∈ xs, f x = .ok y := by
  induction xs generalizing ys with
  | nil =>
      rw [List.mapM_nil] at made
      rw [← (pure_eq_ok_iff _ _).mp made]
      simp
  | cons x xs ih =>
      rw [List.mapM_cons] at made
      obtain ⟨b, first, rest⟩ := (bind_eq_ok_iff _ _ _).mp made
      obtain ⟨bs, later, whole⟩ := (bind_eq_ok_iff _ _ _).mp rest
      rw [← (pure_eq_ok_iff _ _).mp whole]
      intro y member
      rcases List.mem_cons.mp member with rfl | after
      · exact ⟨x, List.mem_cons_self, first⟩
      · obtain ⟨z, inside, same⟩ := ih bs later y after
        exact ⟨z, List.mem_cons_of_mem x inside, same⟩

/-- The first step that fails ends the sequence. -/
theorem exists_of_mapM_error {ε : Type} (f : α → Except ε β) (xs : List α) (problem : ε)
    (failed : xs.mapM f = .error problem) : ∃ x ∈ xs, f x = .error problem := by
  induction xs with
  | nil => cases failed
  | cons x xs ih =>
      rw [List.mapM_cons, bind_eq_error_iff] at failed
      rcases failed with here | ⟨b, _, rest⟩
      · exact ⟨x, List.mem_cons_self, here⟩
      · rcases (bind_eq_error_iff _ _ _).mp rest with later | ⟨bs, _, impossible⟩
        · obtain ⟨y, inside, same⟩ := ih later
          exact ⟨y, List.mem_cons_of_mem x inside, same⟩
        · cases impossible

/-- What holds of all results holds of all that they were made from. -/
theorem forall_mem_mapM_iff (f : α → Except Fault β) (xs : List α) (ys : List β)
    (made : xs.mapM f = .ok ys) (p : α → Prop) (q : β → Prop)
    (each : ∀ x ∈ xs, ∀ y, f x = .ok y → (q y ↔ p x)) : (∀ y ∈ ys, q y) ↔ ∀ x ∈ xs, p x := by
  induction xs generalizing ys with
  | nil =>
      rw [List.mapM_nil] at made
      rw [← (pure_eq_ok_iff _ _).mp made]
      simp
  | cons x xs ih =>
      rw [List.mapM_cons] at made
      obtain ⟨b, first, rest⟩ := (bind_eq_ok_iff _ _ _).mp made
      obtain ⟨bs, later, whole⟩ := (bind_eq_ok_iff _ _ _).mp rest
      obtain ⟨here, others⟩ := List.forall_mem_cons.mp each
      rw [← (pure_eq_ok_iff _ _).mp whole, List.forall_mem_cons, List.forall_mem_cons, here b first,
        ih bs later others]

/-! ### Two computations -/

/-- Both end in the same fault, or both give results, and the results are related. -/
inductive Related (R : α → β → Prop) : Except Fault α → Except Fault β → Prop where
  | ok (a : α) (b : β) (related : R a b) : Related R (.ok a) (.ok b)
  | error (fault : Fault) : Related R (.error fault) (.error fault)

theorem Related.refl (x : Except Fault α) : Related Eq x x := by
  cases x with
  | error fault => exact .error fault
  | ok a => exact .ok a a rfl

theorem eq_of_related (x y : Except Fault α) (both : Related Eq x y) : x = y := by
  cases both with
  | error fault => rfl
  | ok a b same => rw [same]

-- A relation between what two sequences do comes from one between what their steps do.
theorem Related.bind {γ δ : Type} {R : α → β → Prop} {S : γ → δ → Prop} {x : Except Fault α}
    {y : Except Fault β} (both : Related R x y) (f : α → Except Fault γ) (g : β → Except Fault δ)
    (next : ∀ a b, R a b → Related S (f a) (g b)) : Related S (x >>= f) (y >>= g) := by
  cases both with
  | error fault => exact .error fault
  | ok a b related => exact next a b related

theorem Related.map {γ δ : Type} {R : α → β → Prop} {S : γ → δ → Prop} {x : Except Fault α}
    {y : Except Fault β} (both : Related R x y) (f : α → γ) (g : β → δ)
    (next : ∀ a b, R a b → S (f a) (g b)) : Related S (x.map f) (y.map g) := by
  cases both with
  | error fault => exact .error fault
  | ok a b related => exact .ok _ _ (next a b related)

end Attempt

end ReportCompiler
