import ReportCompiler.Binding.Path
import ReportCompiler.Proofs.Attempt
import ReportCompiler.Proofs.Text.Trimming
import ReportCompiler.Proofs.Value.Leaves

/-!
Which paths can be looked up. A path that leads nowhere finds null; the only parts that cannot be read are
those that look like a number, but are not written in decimal digits, where they come to a list.
-/

namespace ReportCompiler

open ReportCompiler.Text

namespace Path

/-- The part is taken for a number. -/
def LooksLikeIndex (part : String) : Prop := part ≠ "" ∧ part.toList.all isDigitLike = true

/-- The parts can be followed from the value, to something or to nothing. -/
def IsWalkable : List String → Value → Prop
  | [], _ => True
  | part :: rest, .object fields => IsWalkable rest (Fields.get fields part)
  | part :: rest, .list items =>
      part = "length" ∨
        (LooksLikeIndex part →
          ∃ index, Reader.natural? part.toList = some index ∧
            ∀ item, items[index]? = some item → IsWalkable rest item)
  | _, _ => True

theorem isWalkable_null (parts : List String) : IsWalkable parts .null := by
  cases parts <;> trivial

theorem isWalkable_number (parts : List String) (n : Number) : IsWalkable parts (.number n) := by
  cases parts <;> trivial

theorem not_looksLikeIndex (part : String) (plain : part.toList.all isDigitLike = false) :
    ¬ LooksLikeIndex part := fun digits => by simp [LooksLikeIndex, plain] at digits

theorem isWalkable_single (part : String) (other : ¬ LooksLikeIndex part) (value : Value) :
    IsWalkable [part] value := by
  cases value <;> simp [IsWalkable, other]

/-- A last part that is taken for no number can be followed from anything. -/
theorem isWalkable_append_iff (part : String) (other : ¬ LooksLikeIndex part) (parts : List String)
    (value : Value) : IsWalkable (parts ++ [part]) value ↔ IsWalkable parts value := by
  induction parts generalizing value with
  | nil => exact iff_of_true (isWalkable_single part other value) trivial
  | cons first rest ih => cases value <;> simp [IsWalkable, ih]

theorem index?_of_not_looksLikeIndex (part : String) (other : ¬ LooksLikeIndex part) :
    index? part = .ok none := by
  have passed : ¬ (part != "" && part.toList.all isDigitLike) = true := by
    rw [Bool.and_eq_true, bne_iff_ne]
    exact other
  rw [index?, if_neg passed]

theorem index?_of_looksLikeIndex (part : String) (digits : LooksLikeIndex part) :
    index? part = (Reader.natural? part.toList).elim (.error (.badNumber part))
      fun index => .ok (some index) := by
  have taken : (part != "" && part.toList.all isDigitLike) = true := by
    rw [Bool.and_eq_true, bne_iff_ne]
    exact digits
  rw [index?, if_pos taken]
  cases Reader.natural? part.toList <;> rfl

/-- What a step into a list comes to. -/
theorem step_list (part : String) (current : Found) (items : List Value)
    (value : current.value = .list items) (other : part ≠ "length") :
    step part current = (index? part).bind fun index? =>
      .ok (match index?.bind fun index => items[index]?.map fun item => (index, item) with
        | some (index, item) => current.next (.item index) item
        | none => .nothing) := by
  simp only [step, value, beq_iff_eq, other, if_false]
  cases index? part with
  | error fault => rfl
  | ok found =>
      cases found with
      | none => rfl
      | some index =>
          cases item : items[index]? with
          | none => simp [bind, Except.bind, item, pure, Except.pure]
          | some item => simp [bind, Except.bind, item, pure, Except.pure]

theorem walk_succeeds_iff (parts : List String) (current : Found) :
    Attempt.Succeeds (walk parts current) ↔ IsWalkable parts current.value := by
  induction parts generalizing current with
  | nil => simp [walk, IsWalkable]
  | cons part rest ih =>
      have onward : Attempt.Succeeds (walk (part :: rest) current) ↔
          ∃ next, step part current = .ok next ∧ IsWalkable rest next.value := by
        rw [walk, Attempt.succeeds_bind_iff]
        simp only [ih]
      rw [onward]
      cases value : current.value with
      | object fields => simp [step, value, IsWalkable, Found.next]
      | list items =>
          by_cases size : part = "length"
          · simp [step, value, size, IsWalkable, Found.count, isWalkable_number, Value.int]
          · rw [step_list part current items value size]
            by_cases digits : LooksLikeIndex part
            · rw [index?_of_looksLikeIndex part digits]
              cases number : Reader.natural? part.toList with
              | none => simp [IsWalkable, size, digits, number, Except.bind]
              | some index =>
                  cases item : items[index]? with
                  | none =>
                      simp [IsWalkable, size, digits, number, item, Except.bind, Found.nothing,
                        isWalkable_null]
                  | some item =>
                      simp [IsWalkable, size, digits, number, item, Except.bind, Found.next]
            · rw [index?_of_not_looksLikeIndex part digits]
              simp [IsWalkable, size, digits, Except.bind, Found.nothing, isWalkable_null]
      | _ => simp [step, value, IsWalkable, Found.nothing, isWalkable_null]

/-- The whole path can be followed from the data. -/
def IsReadable (path : String) (data : Value) : Prop :=
  path = "" ∨ IsWalkable (split '.' (normalize path)) data

theorem find_succeeds_iff (path : String) (data : Value) :
    Attempt.Succeeds (find path data) ↔ IsReadable path data := by
  rw [find, IsReadable]
  by_cases empty : path = ""
  · simp [empty]
  · cases data with
    | null => simp [empty, Value.isNull, isWalkable_null]
    | _ => simp [empty, Value.isNull, walk_succeeds_iff, Found.root]

theorem resolve_succeeds_iff (path : String) (data : Value) :
    Attempt.Succeeds (resolve path data) ↔ IsReadable path data :=
  (Attempt.succeeds_map_iff _ _).trans (find_succeeds_iff path data)

/-- A value that can be looked up as a path: text that can be followed, or nothing at all. -/
def CanBeLookedUp (path data : Value) : Prop :=
  match path with
  | .text s => IsReadable s data
  | _ => path.isPresent = false ∨ data.isNull = true

theorem resolveValue_succeeds_iff (path data : Value) :
    Attempt.Succeeds (resolveValue path data) ↔ CanBeLookedUp path data := by
  cases path with
  | text s => exact resolve_succeeds_iff s data
  | _ =>
      simp only [resolveValue, CanBeLookedUp, Bool.or_eq_true, Bool.not_eq_true']
      split
      · next nothing => exact ⟨fun _ => nothing, fun _ => Attempt.succeeds_ok _⟩
      · next given =>
          exact ⟨fun found => absurd found (Attempt.not_succeeds_error _), fun nothing =>
            absurd nothing given⟩

/-! ### What is found -/

section Leaves

variable (leaf : Value → Prop) (nothing : leaf .null) (counts : ∀ n, leaf (.int n))
include nothing counts

theorem all_step (part : String) (current next : Found) (all : current.value.All leaf)
    (made : step part current = .ok next) : next.value.All leaf := by
  have nowhere : Found.nothing.value.All leaf := (Value.all_null leaf).mpr nothing
  cases value : current.value with
  | object fields =>
      rw [value, Value.all_object] at all
      rw [step, value] at made
      rw [← Except.ok.inj made]
      exact Fields.all_get leaf fields part nothing all
  | list items =>
      rw [value, Value.all_list] at all
      by_cases size : part = "length"
      · rw [step, value, size] at made
        rw [← Except.ok.inj made]
        exact (Value.all_number leaf _).mpr (counts items.length)
      · rw [step_list part current items value size] at made
        obtain ⟨index?, _, found⟩ := (Attempt.bind_eq_ok_iff _ _ _).mp made
        rw [← Except.ok.inj found]
        cases item : index?.bind fun index => items[index]?.map fun item => (index, item) with
        | none => exact nowhere
        | some pair =>
            obtain ⟨index, _, picked⟩ := Option.bind_eq_some_iff.mp item
            obtain ⟨value, inside, rfl⟩ := Option.map_eq_some_iff.mp picked
            exact all value (List.mem_of_getElem? inside)
  | _ =>
      rw [step, value] at made
      rw [← Except.ok.inj made]
      exact nowhere

theorem all_walk (parts : List String) (current found : Found) (all : current.value.All leaf)
    (made : walk parts current = .ok found) : found.value.All leaf := by
  induction parts generalizing current with
  | nil =>
      rw [← Except.ok.inj made]
      exact all
  | cons part rest ih =>
      obtain ⟨next, here, later⟩ := (Attempt.bind_eq_ok_iff _ _ _).mp made
      exact ih next (all_step leaf nothing counts part current next all here) later

/-- A path finds nothing that does not stand in the data, sizes of lists apart. -/
theorem all_resolve (path : String) (data value : Value) (all : data.All leaf)
    (made : resolve path data = .ok value) : value.All leaf := by
  obtain ⟨found, walked, rfl⟩ := (Attempt.map_eq_ok_iff _ _ _).mp made
  unfold find at walked
  split at walked
  · rw [← Except.ok.inj walked]
    exact (Value.all_null leaf).mpr nothing
  · exact all_walk leaf nothing counts _ (.root data) found all walked

theorem all_resolveValue (path data value : Value) (all : data.All leaf)
    (made : resolveValue path data = .ok value) : value.All leaf := by
  unfold resolveValue at made
  split at made
  · exact all_resolve leaf nothing counts _ data value all made
  · split at made
    · rw [← Except.ok.inj made]
      exact (Value.all_null leaf).mpr nothing
    · cases made

end Leaves

end Path

/-! ### Blanks around a path -/

namespace Path

theorem resolve_empty (data : Value) : resolve "" data = .ok .null := rfl

/-- A path of one part looks up a field. -/
theorem resolve_field (path key : String) (fields : Fields) (given : path ≠ "")
    (part : split '.' (normalize path) = [key]) :
    resolve path (.object fields) = .ok (fields.get key) := by
  have asked : (path == "" || (Value.object fields).isNull) = false := by
    simp [given, Value.isNull]
  rw [resolve, find, asked, if_neg Bool.false_ne_true, part]
  rfl

/-- Blanks around a path do not matter, unless there is nothing else. -/
theorem resolve_trim (path : String) (data : Value) (solid : trim path ≠ "") :
    resolve (trim path) data = resolve path data := by
  have given : path ≠ "" := by
    rintro rfl
    exact solid (by decide)
  have same : normalize (trim path) = normalize path := by
    rw [normalize, trim_trim, normalize]
  simp only [resolve, find, same, beq_iff_eq, solid, given, false_or, Bool.or_eq_true]

end Path

end ReportCompiler
