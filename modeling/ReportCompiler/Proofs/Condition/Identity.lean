import ReportCompiler.Proofs.Condition.Evaluable
import ReportCompiler.Proofs.Value.Same

/-!
Strict equality beside sameness of JSON values. Two values of different kinds are never strictly equal, so no
truth value equals a number; in lists and objects of one kind a truth value still counts as one, and there strict
equality takes for the same what is not.
-/

namespace ReportCompiler

open ReportCompiler.Text

namespace Comparison

/-! ### Strict equality -/

theorem atOnePlace_of_ne (left right : Path.Found) (apart : left.place ≠ right.place) :
    atOnePlace left right = false := by
  rw [atOnePlace]
  split
  · rfl
  · next place other one another _ =>
      rw [beq_eq_false_iff_ne]
      rintro rfl
      exact apart (one.trans another.symm)
  · rfl

/-- Values at different places are strictly equal when they are of one kind and equal. -/
theorem strictlyEqual_of_ne (left right : Path.Found) (apart : left.place ≠ right.place) :
    strictlyEqual left right = (sameKind left.value right.value && left.value.equal right.value) := by
  rw [strictlyEqual, atOnePlace_of_ne left right apart, Bool.false_or]

theorem sameKind_of_same {left right : Value} (same : left.Same right) : sameKind left right = true := by
  cases same <;> rfl

/-- The values are lists or objects, and the same but for truth values of the one that stand where the other has
the number which they count as. -/
structure DifferInTruthOnly (left right : Value) : Prop where
  kinds : sameKind left right = true
  counted : left.counted.Same right.counted
  mixed : left.Mixes right

theorem DifferInTruthOnly.not_same {left right : Value} (differ : DifferInTruthOnly left right) :
    ¬ left.Same right := fun same => ((Value.same_iff left right).mp same).2 differ.mixed

/-- Being of one kind and equal is being the same, but for truth values inside of lists and objects. -/
theorem sameKind_and_equal_iff (left right : Value) (plain : left.IsPlain) (plain' : right.IsPlain) :
    (sameKind left right && left.equal right) = true ↔ left.Same right ∨ DifferInTruthOnly left right := by
  rw [Bool.and_eq_true, Value.equal_iff left right plain plain']
  constructor
  · rintro ⟨kinds, counted⟩
    by_cases mixed : left.Mixes right
    · exact .inr ⟨kinds, counted, mixed⟩
    · exact .inl ((Value.same_iff left right).mpr ⟨counted, mixed⟩)
  · rintro (same | differ)
    · exact ⟨sameKind_of_same same, ((Value.same_iff left right).mp same).1⟩
    · exact ⟨differ.kinds, differ.counted⟩

end Comparison

namespace Condition

/-! ### Fields of the data -/

theorem parse_of_derives (lexemes : List Lexeme) (tree : Condition) (derived : Derives .any lexemes tree) :
    parse (join " " (lexemes.map Lexeme.source)) = .ok tree :=
  (parse_eq_ok_iff _ tree).mpr ⟨lexemes, tokens_join lexemes, derived⟩

-- Where the field is called `length`, an object is asked for its size first, and has none.
/-- The path of a name after `data` finds the field of that name. -/
theorem findPath_field (key : String) (named : IsName key) (fields : Fields) :
    findPath (join "." ["data", key]) (.object fields) =
      .ok { value := fields.get key, place := some [.field key] } := by
  have names : ∀ name ∈ ["data", key], IsName name :=
    List.forall_mem_cons.mpr ⟨⟨by decide, List.all_eq_true.mp rfl⟩, List.forall_mem_singleton.mpr named⟩
  have whole : Path.find (join "." ["data", key]) (.object fields) =
      .ok { value := fields.get key, place := some [.field key] } := by
    have parts := split_normalize_join ["data", key] names (List.cons_ne_nil _ _)
    have given := join_names_ne_empty ["data", key] names (List.cons_ne_nil _ _)
    rw [Path.find, beq_false_of_ne given, parts]
    rfl
  have root : findBackwards (.object fields) ["data"] = .ok (.root (.object fields)) := rfl
  rw [findPath, split_join_names "data" [key] names, List.reverse_cons, List.reverse_singleton,
    List.singleton_append, findBackwards]
  simp only [List.isEmpty_cons, Bool.and_false, Bool.false_eq_true, if_false, root, List.reverse_cons,
    List.reverse_nil, List.nil_append, List.singleton_append, whole, Attempt.ok_bind, Path.Found.root, size?]
  split <;> rfl

/-- The path of the field with this one-letter name. -/
def fieldRoute (key : Char) (part : isNamePart key = true) : Route where
  first := 'd'
  more := ['a', 't', 'a']
  further := [(false, [key])]
  first_starts := rfl
  more_parts := List.all_eq_true.mp rfl
  further_parts := List.forall_mem_singleton.mpr ⟨List.cons_ne_nil _ _, List.forall_mem_singleton.mpr part⟩

theorem parse_sides :
    parse "data.l === data.r" = .ok (.comparison .same (.path "data.l") (.path "data.r")) := by
  have left : Derives .operand [.path (fieldRoute 'l' rfl)] (.path "data.l") :=
    .path ((lookup_keywords_eq_none_iff _).mp rfl)
  have right : Derives .operand [.path (fieldRoute 'r' rfl)] (.path "data.r") :=
    .path ((lookup_keywords_eq_none_iff _).mp rfl)
  have derived := (Derives.affirmed (left.compared .same right)).any_of_negation
  have read := parse_of_derives _ _ derived
  exact read

/-- Two fields of the data are strictly equal when they are of one kind and equal. -/
theorem isMet_sides (fields : Fields) :
    isMet (.text "data.l === data.r") (.object fields) =
      .ok (Comparison.sameKind (fields.get "l") (fields.get "r") && (fields.get "l").equal (fields.get "r")) := by
  have left : evaluate (.object fields) (.path "data.l") =
      .ok { value := fields.get "l", place := some [.field "l"] } := by
    rw [evaluate]
    exact findPath_field "l" ⟨by decide, List.all_eq_true.mp rfl⟩ fields
  have right : evaluate (.object fields) (.path "data.r") =
      .ok { value := fields.get "r", place := some [.field "r"] } := by
    rw [evaluate]
    exact findPath_field "r" ⟨by decide, List.all_eq_true.mp rfl⟩ fields
  rw [isMet_eq_ok_iff _ _ parse_sides _ rfl, Decides, evaluate, left, right]
  exact ⟨_, rfl, Comparison.strictlyEqual_of_ne _ _ (by simp)⟩

/-- Strict equality is sameness of JSON values, but for truth values inside of lists and objects. -/
theorem isMet_sides_iff (l r : Value) (plain : l.IsPlain) (plain' : r.IsPlain) :
    ∃ verdict, isMet (.text "data.l === data.r") (.object [("l", l), ("r", r)]) = .ok verdict ∧
      (verdict = true ↔ l.Same r ∨ Comparison.DifferInTruthOnly l r) ∧
      ((verdict = true ↔ l.Same r) ↔ ¬ Comparison.DifferInTruthOnly l r) := by
  have met : isMet (.text "data.l === data.r") (.object [("l", l), ("r", r)]) =
      .ok (Comparison.sameKind l r && l.equal r) := isMet_sides _
  have verdict := Comparison.sameKind_and_equal_iff l r plain plain'
  refine ⟨_, met, verdict, ?_⟩
  rw [verdict]
  exact ⟨fun agrees differ => differ.not_same (agrees.mp (.inr differ)), fun free => or_iff_left free⟩

/-- Two lists, one of which has the keys of its object in another order. -/
theorem isMet_sides_iff_reordered :
    let l : Value := .list [.int 1, .object [("a", .bool true), ("b", .null)]]
    let r : Value := .list [.int 1, .object [("b", .null), ("a", .bool true)]]
    ∃ verdict, isMet (.text "data.l === data.r") (.object [("l", l), ("r", r)]) = .ok verdict ∧
      (verdict = true ↔ l.Same r ∨ Comparison.DifferInTruthOnly l r) ∧
      ((verdict = true ↔ l.Same r) ↔ ¬ Comparison.DifferInTruthOnly l r) :=
  isMet_sides_iff _ _ (by simp [Value.IsPlain, Value.ArePlain, Value.FieldsArePlain, Value.int, Number.IsHeld])
    (by simp [Value.IsPlain, Value.ArePlain, Value.FieldsArePlain, Value.int, Number.IsHeld])

/-- Inside of a list the truth value is taken for the number. -/
theorem isMet_sides_mixed :
    isMet (.text "data.l === data.r") (.object [("l", .list [.int 1]), ("r", .list [.bool true])]) = .ok true ∧
      ¬ (Value.list [.int 1]).Same (.list [.bool true]) := by
  refine ⟨isMet_sides _, fun same => ?_⟩
  cases (Value.same_list_iff _ _).mp same with
  | cons one rest => cases one

end Condition

end ReportCompiler
