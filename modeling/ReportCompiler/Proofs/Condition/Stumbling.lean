import ReportCompiler.Proofs.Condition.Evaluable
import ReportCompiler.Proofs.Condition.Printing

/-!
Where a lookup and the evaluation of a condition end in a fault. A path stumbles over a part that passes for a
number and spells none, where it comes to a list with it; a condition stumbles over a path that it looks up.
Nothing else stands in the way of a value, so every lookup and every condition without such a part has one.
-/

namespace ReportCompiler

open ReportCompiler.Text

namespace Path

/-! ### Paths -/

/-- A part that is taken for a number and cannot be read as one: some digit has no place in a decimal number, or
the digits are too many. -/
structure IsFalseNumeral (part : String) : Prop where
  number : LooksLikeIndex part
  unread : (∃ c ∈ part.toList, isDecimalDigit c = false) ∨ Reader.greatestDigitCount < part.toList.length

/-- Walked from the value, the path comes to a list with this part, a false numeral. -/
inductive Stumbles (part : String) : List String → Value → Prop where
  | here {rest : List String} {items : List Value} (false_ : IsFalseNumeral part) :
      Stumbles part (part :: rest) (.list items)
  | field {key : String} {rest : List String} {fields : Fields} (later : Stumbles part rest (fields.get key)) :
      Stumbles part (key :: rest) (.object fields)
  | item {numeral : String} {index : Nat} {rest : List String} {items : List Value} {value : Value}
      (spelled : Reader.natural? numeral.toList = some index) (found : items[index]? = some value)
      (later : Stumbles part rest value) : Stumbles part (numeral :: rest) (.list items)

theorem natural?_eq_none_iff (part : String) (some_ : part ≠ "") :
    Reader.natural? part.toList = none ↔
      (∃ c ∈ part.toList, isDecimalDigit c = false) ∨ Reader.greatestDigitCount < part.toList.length := by
  have given : part.toList.isEmpty = false := by simpa using some_
  simp only [Reader.natural?, given, Bool.false_or, Bool.or_eq_true, Bool.not_eq_true', decide_eq_true_eq,
    List.all_eq_false, Bool.not_eq_true]
  split
  · next unread => exact iff_of_true rfl unread
  · next read => exact iff_of_false (Option.some_ne_none _) read

theorem isFalseNumeral_iff (part : String) :
    IsFalseNumeral part ↔ LooksLikeIndex part ∧ Reader.natural? part.toList = none :=
  ⟨fun ⟨number, unread⟩ => ⟨number, (natural?_eq_none_iff part number.1).mpr unread⟩,
    fun ⟨number, none_⟩ => ⟨number, (natural?_eq_none_iff part number.1).mp none_⟩⟩

-- Every decimal digit is also taken for a digit.
theorem looksLikeIndex_of_natural? (part : String) (index : Nat)
    (spelled : Reader.natural? part.toList = some index) : LooksLikeIndex part := by
  rw [Reader.natural?] at spelled
  split at spelled
  · cases spelled
  · next read =>
      simp only [Bool.or_eq_true, not_or, Bool.not_eq_true, Bool.not_eq_false', List.isEmpty_eq_false_iff] at read
      refine ⟨fun empty => read.1.1 (by rw [empty]; rfl), List.all_eq_true.mpr fun c member => ?_⟩
      rw [isDigitLike, List.all_eq_true.mp read.1.2 c member, Bool.true_or]

section Lists

variable {part first : String} {rest : List String} {items : List Value}

theorem stumbles_list_of_numeral (index : Nat) (spelled : Reader.natural? first.toList = some index) :
    Stumbles part (first :: rest) (.list items) ↔
      ∃ value, items[index]? = some value ∧ Stumbles part rest value := by
  constructor
  · intro stumbles
    cases stumbles with
    | here false_ =>
        rw [((isFalseNumeral_iff _).mp false_).2] at spelled
        cases spelled
    | item own found later =>
        obtain rfl := Option.some.inj (own.symm.trans spelled)
        exact ⟨_, found, later⟩
  · rintro ⟨value, found, later⟩
    exact .item spelled found later

theorem stumbles_list_of_no_numeral (unread : Reader.natural? first.toList = none) :
    Stumbles part (first :: rest) (.list items) ↔ first = part ∧ LooksLikeIndex first := by
  constructor
  · intro stumbles
    cases stumbles with
    | here false_ => exact ⟨rfl, false_.number⟩
    | item own found later =>
        rw [unread] at own
        cases own
  · rintro ⟨rfl, number⟩
    exact .here ((isFalseNumeral_iff first).mpr ⟨number, unread⟩)

end Lists

theorem stumbles_object_iff (part first : String) (rest : List String) (fields : Fields) :
    Stumbles part (first :: rest) (.object fields) ↔ Stumbles part rest (fields.get first) := by
  refine ⟨fun stumbles => ?_, .field⟩
  cases stumbles
  assumption

/-- Parts can be followed, to something or to nothing, unless they stumble. -/
theorem isWalkable_iff (parts : List String) (value : Value) :
    IsWalkable parts value ↔ ∀ part, ¬ Stumbles part parts value := by
  induction parts generalizing value with
  | nil => exact iff_of_true trivial fun part stumbles => by cases stumbles
  | cons first rest ih =>
      cases value with
      | object fields => simp only [IsWalkable, ih, stumbles_object_iff]
      | list items =>
          cases number : Reader.natural? first.toList with
          | none =>
              have size : first = "length" → ¬ LooksLikeIndex first := by
                rintro rfl
                exact not_looksLikeIndex "length" rfl
              simpa [IsWalkable, number, stumbles_list_of_no_numeral number] using size
          | some index =>
              have digits := looksLikeIndex_of_natural? first index number
              have other : first ≠ "length" := by
                rintro rfl
                exact not_looksLikeIndex "length" rfl digits
              simp only [IsWalkable, other, false_or, digits, true_implies, number, Option.some.injEq,
                exists_eq_left', ih, stumbles_list_of_numeral index number, not_exists, not_and]
              exact ⟨fun free part value found => free value found part,
                fun free value found part => free part value found⟩
      | _ => exact iff_of_true trivial fun part stumbles => by cases stumbles

/-- The path stumbles over this part when it is looked up in the data. -/
def StumblesAt (part path : String) (data : Value) : Prop := Stumbles part (split '.' (normalize path)) data

theorem isReadable_iff (path : String) (data : Value) :
    IsReadable path data ↔ ∀ part, ¬ StumblesAt part path data := by
  by_cases empty : path = ""
  · subst empty
    refine iff_of_true (.inl rfl) fun part stumbles => ?_
    have walkable : IsWalkable [""] data := isWalkable_single "" (fun number => number.1 rfl) data
    exact (isWalkable_iff [""] data).mp walkable part stumbles
  · rw [IsReadable, or_iff_right empty, isWalkable_iff]
    rfl

end Path

namespace Condition

/-! ### Conditions -/

/-- The condition looks up a path that stumbles over this part. An operand of a chain is evaluated when no operand
before it decides the chain. -/
inductive Stumbles (data : Value) (part : String) : Condition → Prop where
  | path {path : String} (met : Path.StumblesAt part path data) : Stumbles data part (.path path)
  | negation {operand : Condition} (inside : Stumbles data part operand) : Stumbles data part (.negation operand)
  | left {relation : Comparison} {left right : Condition} (inside : Stumbles data part left) :
      Stumbles data part (.comparison relation left right)
  | right {relation : Comparison} {left right : Condition} (inside : Stumbles data part right) :
      Stumbles data part (.comparison relation left right)
  | all {before after : List Condition} {operand : Condition}
      (earlier : ∀ other ∈ before, Decides data other true) (inside : Stumbles data part operand) :
      Stumbles data part (.all (before ++ operand :: after))
  | any {before after : List Condition} {operand : Condition}
      (earlier : ∀ other ∈ before, Decides data other false) (inside : Stumbles data part operand) :
      Stumbles data part (.any (before ++ operand :: after))

/-- A proof about a condition may use the proofs about its operands. -/
theorem induction {motive : Condition → Prop} (literal : ∀ value, motive (.literal value))
    (path : ∀ path, motive (.path path)) (negation : ∀ operand, motive operand → motive (.negation operand))
    (comparison : ∀ relation left right, motive left → motive right →
      motive (.comparison relation left right))
    (all : ∀ operands, (∀ operand ∈ operands, motive operand) → motive (.all operands))
    (any : ∀ operands, (∀ operand ∈ operands, motive operand) → motive (.any operands))
    (tree : Condition) : motive tree :=
  @Condition.rec motive (fun operands => ∀ operand ∈ operands, motive operand) literal path negation comparison
    all any (fun _ member => by cases member) (fun _ _ first others => List.forall_mem_cons.mpr ⟨first, others⟩)
    tree

theorem chainCanBeEvaluated_iff (data : Value) (verdict : Bool) (operands : List Condition)
    (each : ∀ operand ∈ operands, CanBeEvaluated data operand ↔ ∀ part, ¬ Stumbles data part operand) :
    ChainCanBeEvaluated data verdict operands ↔
      ∀ part before operand after, operands = before ++ operand :: after →
        (∀ other ∈ before, Decides data other verdict) → ¬ Stumbles data part operand := by
  induction operands with
  | nil =>
      refine iff_of_true (by rw [ChainCanBeEvaluated]; trivial) fun part before operand after whole => ?_
      exact absurd whole.symm (List.append_ne_nil_of_right_ne_nil _ (List.cons_ne_nil _ _))
  | cons first rest ih =>
      obtain ⟨here, later⟩ := List.forall_mem_cons.mp each
      rw [ChainCanBeEvaluated, here, ih later]
      constructor
      · rintro ⟨free, onward⟩ part before operand after whole earlier
        cases before with
        | nil =>
            obtain ⟨rfl, rfl⟩ := List.cons.inj whole
            exact free part
        | cons other before =>
            obtain ⟨rfl, tail⟩ := List.cons.inj whole
            obtain ⟨goesOn, between⟩ := List.forall_mem_cons.mp earlier
            exact onward goesOn part before operand after tail between
      · intro free
        refine ⟨fun part => free part [] first rest rfl (List.forall_mem_nil _), ?_⟩
        intro goesOn part before operand after whole earlier
        exact free part (first :: before) operand after (by rw [whole]; rfl)
          (List.forall_mem_cons.mpr ⟨goesOn, earlier⟩)

theorem canBeEvaluated_iff (data : Value) (tree : Condition) :
    CanBeEvaluated data tree ↔ ∀ part, ¬ Stumbles data part tree := by
  induction tree using Condition.induction with
  | literal value =>
      exact iff_of_true (by rw [CanBeEvaluated]; trivial) fun part stumbles => by cases stumbles
  | path p =>
      rw [CanBeEvaluated, Path.isReadable_iff]
      refine forall_congr' fun part => not_congr ⟨.path, fun stumbles => ?_⟩
      cases stumbles
      assumption
  | negation operand ih =>
      rw [CanBeEvaluated, ih]
      refine forall_congr' fun part => not_congr ⟨.negation, fun stumbles => ?_⟩
      cases stumbles
      assumption
  | comparison relation left right first second =>
      rw [CanBeEvaluated, first, second, ← forall_and]
      refine forall_congr' fun part => ?_
      rw [← not_or]
      refine not_congr ⟨?_, ?_⟩
      · rintro (inside | inside)
        · exact .left inside
        · exact .right inside
      · rintro (_ | _ | inside | inside)
        · exact .inl inside
        · exact .inr inside
  | all operands each =>
      rw [CanBeEvaluated, chainCanBeEvaluated_iff data true operands each]
      refine forall_congr' fun part => ⟨?_, ?_⟩
      · rintro free ⟨⟩
        next before after operand earlier inside => exact free before operand after rfl earlier inside
      · rintro free before operand after rfl earlier inside
        exact free (.all earlier inside)
  | any operands each =>
      rw [CanBeEvaluated, chainCanBeEvaluated_iff data false operands each]
      refine forall_congr' fun part => ⟨?_, ?_⟩
      · rintro free ⟨⟩
        next before after operand earlier inside => exact free before operand after rfl earlier inside
      · rintro free before operand after rfl earlier inside
        exact free (.any earlier inside)

-- Without data there is nothing to come to.
theorem not_stumbles_null (part : String) (tree : Condition) : ¬ Stumbles .null part tree := by
  intro stumbles
  induction stumbles with
  | path met =>
      exact (Path.isWalkable_iff _ .null).mp (Path.isWalkable_null _) part met
  | _ => assumption

/-- A lookup finds something or nothing unless its path stumbles, and a condition, whatever value is given for it, is
met or is not unless it is a text that reads as a condition which stumbles. -/
theorem resolve_and_isMet_succeed_iff (path : String) (condition data : Value) :
    (Attempt.Succeeds (Path.resolve path data) ↔ ∀ part, ¬ Path.StumblesAt part path data) ∧
      (Attempt.Succeeds (isMet condition data) ↔
        ∀ text tree part, condition = .text text → parse (trim text) = .ok tree → ¬ tree.Stumbles data part) := by
  refine ⟨(Path.resolve_succeeds_iff path data).trans (Path.isReadable_iff path data), ?_⟩
  by_cases nothing : data.isNull = true
  · refine iff_of_true ?_ fun text tree part _ _ => ?_
    · cases condition <;> simp [isMet, nothing]
    · cases data with
      | null => exact not_stumbles_null part tree
      | _ => cases nothing
  · cases condition with
    | text text =>
        rw [isMet_succeeds_iff text data (Bool.eq_false_iff.mpr nothing), TextCanBeEvaluated]
        simp only [canBeEvaluated_iff, Value.text.injEq]
        exact ⟨fun free other tree part same parsed => free tree (same ▸ parsed) part,
          fun free tree parsed part => free text tree part rfl parsed⟩
    | _ => exact iff_of_true (Attempt.succeeds_ok true) fun text tree part other => by cases other

/-- A superscript two is taken for a number and is none. -/
theorem resolve_and_isMet_fail_superscript :
    let data : Value := .object [("items", .list [.int 1])]
    ¬ Attempt.Succeeds (Path.resolve "items.²" data) ∧ ¬ Attempt.Succeeds (isMet (.text "items.²") data) := by
  have numeral : Path.IsFalseNumeral "²" := ⟨⟨by decide, by decide⟩, .inl ⟨'²', by decide, by decide⟩⟩
  have parts : split '.' (Path.normalize "items.²") = ["items", "²"] := by decide
  have unreadable : ¬ Path.IsReadable "items.²" (.object [("items", .list [.int 1])]) := by
    intro readable
    refine (Path.isReadable_iff _ _).mp readable "²" ?_
    rw [Path.StumblesAt, parts]
    exact .field (.here numeral)
  have free : ∀ value, ¬ Keyword "items.²" value := (lookup_keywords_eq_none_iff _).mp rfl
  have parsed : parse "items.²" = .ok (.path "items.²") :=
    parse_print (.path "items.²") (.path ⟨'i', ['t', 'e', 'm', 's'], [(false, ['²'])], rfl,
      List.all_eq_true.mp rfl, List.forall_mem_singleton.mpr ⟨by decide, List.all_eq_true.mp rfl⟩⟩ (by decide) free)
  refine ⟨fun found => unreadable ((Path.resolve_succeeds_iff _ _).mp found), fun met => unreadable ?_⟩
  exact (isMet_succeeds_iff _ _ rfl).mp met _ (parse_trim _ _ parsed)

end Condition

end ReportCompiler
