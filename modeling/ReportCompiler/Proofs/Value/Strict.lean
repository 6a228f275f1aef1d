import ReportCompiler.Proofs.Number.Range
import ReportCompiler.Proofs.Value.ReadBack

/-!
Standard JSON has no names for numbers that are not finite: the text of a value is read without these names
just when all of its numbers are finite, wherever they stand. The points in a value of finite numbers are finite
too, unless a text spells a number beyond all doubles.
-/

namespace ReportCompiler

open ReportCompiler.Text

namespace JsonReader

/-! ### Numbers -/

theorem opens_number (n : Number) : Opens ((Value.number n).json .embedded).toList := by
  cases finite : n.isFinite with
  | true => exact (reads_number allNames usual_allNames n finite).opens
  | false =>
      cases n with
      | int n => cases finite
      | double x =>
          cases x with
          | nan => exact ⟨'N', _, rfl, by decide⟩
          | infinite negative =>
              cases negative with
              | true => exact ⟨'-', _, rfl, by decide⟩
              | false => exact ⟨'I', _, rfl, by decide⟩
          | finite => cases finite

theorem opens_json (value : Value) : Opens (value.json .embedded).toList := by
  cases value with
  | null => exact ⟨'n', _, rfl, by decide⟩
  | bool b => cases b <;> exact ⟨_, _, rfl, by decide⟩
  | number n => exact opens_number n
  | text s => exact (reads_quoted allNames (.text s) s rfl rfl).opens
  | date d => exact (reads_quoted allNames (.date d) d.text rfl rfl).opens
  | moment m => exact (reads_quoted allNames (.moment m) (m.textWith " ") rfl rfl).opens
  | list items =>
      rw [toList_json_list]
      exact ⟨'[', _, rfl, by decide⟩
  | object fields =>
      rw [toList_json_object]
      exact ⟨'\x7b', _, rfl, by decide⟩

/-- The text of the value is refused, whatever closes it. -/
def Refused (value : Value) : Prop :=
  ∀ rest, Closes rest → ∀ fuel, (value.json .embedded).toList.length < fuel →
    ∃ left, readValue standardNames fuel ((value.json .embedded).toList ++ rest) = .error left

theorem refused_number (n : Number) (infinite : n.isFinite = false) : Refused (.number n) := by
  intro rest closes fuel enough
  obtain ⟨fuel, rfl⟩ := Nat.exists_eq_succ_of_ne_zero (Nat.ne_zero_of_lt enough)
  cases n with
  | int n => cases infinite
  | double x =>
      cases x with
      | nan => exact ⟨_, rfl⟩
      | infinite negative => cases negative <;> exact ⟨_, rfl⟩
      | finite => cases infinite

/-! ### Lists -/

theorem readItems_failed (fuel : Nat) (chars : List Char) (left : Nat)
    (failed : readValue standardNames fuel chars = .error left) :
    readItems standardNames (fuel + 1) chars = .error left := by
  rw [readItems, failed]
  rfl

-- The items before the first that is refused are read; it is that item at which reading ends.
theorem exists_readItems_failed (rest : List Char) (item : Value) (items : List Value)
    (each : ∀ other ∈ item :: items, Reads standardNames other ∨ Refused other)
    (one : ∃ other ∈ item :: items, Refused other) (fuel : Nat)
    (enough : (join ", " ((item :: items).map (Value.json .embedded))).toList.length + 1 < fuel) :
    ∃ left, readItems standardNames fuel
      ((join ", " ((item :: items).map (Value.json .embedded))).toList ++ ']' :: rest) = .error left := by
  induction items generalizing item fuel with
  | nil =>
      obtain ⟨fuel, rfl⟩ := Nat.exists_eq_succ_of_ne_zero (Nat.ne_zero_of_lt enough)
      obtain ⟨other, member, refused⟩ := one
      obtain rfl := List.mem_singleton.mp member
      rw [List.map_singleton, join, String.intercalate_singleton] at enough ⊢
      obtain ⟨left, failed⟩ := refused _ (closes_bracket rest) fuel (by omega)
      exact ⟨left, readItems_failed fuel _ left failed⟩
  | cons second items ih =>
      obtain ⟨fuel, rfl⟩ := Nat.exists_eq_succ_of_ne_zero (Nat.ne_zero_of_lt enough)
      have opens := opens_items second items (opens_json second)
      have later := ih second (fun other member => each other (List.mem_cons_of_mem item member))
      rw [List.map_cons, List.map_cons, toList_join_cons_cons, ← List.map_cons] at enough ⊢
      generalize (join ", " ((second :: items).map (Value.json .embedded))).toList = tail at *
      have separator : ", ".toList = [',', ' '] := rfl
      rw [separator] at enough ⊢
      simp only [List.length_append, List.length_cons, List.length_nil] at enough
      rw [List.append_assoc, List.append_assoc]
      by_cases first : Refused item
      · obtain ⟨left, failed⟩ := first _ (closes_comma (' ' :: (tail ++ ']' :: rest))) fuel (by omega)
        exact ⟨left, readItems_failed fuel _ left failed⟩
      · have reads := (each item List.mem_cons_self).resolve_right first
        have read := reads.readValue_eq _ (closes_comma (' ' :: (tail ++ ']' :: rest))) fuel
          (by omega)
        obtain ⟨left, failed⟩ :=
          later ((List.exists_mem_cons_iff .. |>.mp one).resolve_left first) fuel (by omega)
        refine ⟨left, (readItems_more standardNames fuel _ _ item.readBack read
          (opens.append _)).trans ?_⟩
        rw [failed]
        rfl

/-! ### Objects -/

theorem readFields_failed (fuel : Nat) (field : String × Value) (refused : Refused field.2)
    (rest : List Char) (closes : Closes rest)
    (enough : (field.2.json .embedded).toList.length < fuel) :
    ∃ left, readFields standardNames (fuel + 1) ((fieldText field).toList ++ rest) = .error left := by
  obtain ⟨inside, quoted, key⟩ := exists_quoted .embedded undoes_embedded field.1
  obtain ⟨left, failed⟩ := refused rest closes fuel enough
  have skipped := ((opens_json field.2).skipSpace rest).2
  have colon (tail : List Char) : skipSpace (':' :: tail) = ':' :: tail := rfl
  refine ⟨left, ?_⟩
  rw [toList_fieldText, quoted, List.append_assoc, List.cons_append, List.cons_append, readFields]
  simp only [key, colon, skipped, failed, bind, Except.bind, List.cons_append]

-- As for the items of a list.
theorem exists_readFields_failed (rest : List Char) (field : String × Value) (fields : Fields)
    (each : ∀ other ∈ field :: fields, Reads standardNames other.2 ∨ Refused other.2)
    (one : ∃ other ∈ field :: fields, Refused other.2) (fuel : Nat)
    (enough : (join ", " ((field :: fields).map fieldText)).toList.length + 1 < fuel) :
    ∃ left, readFields standardNames fuel
      ((join ", " ((field :: fields).map fieldText)).toList ++ '\x7d' :: rest) = .error left := by
  have own := length_fieldText field
  induction fields generalizing field fuel with
  | nil =>
      obtain ⟨fuel, rfl⟩ := Nat.exists_eq_succ_of_ne_zero (Nat.ne_zero_of_lt enough)
      obtain ⟨other, member, refused⟩ := one
      obtain rfl := List.mem_singleton.mp member
      rw [List.map_singleton, join, String.intercalate_singleton] at enough ⊢
      exact readFields_failed fuel other refused _ (closes_brace rest) (by omega)
  | cons second fields ih =>
      obtain ⟨fuel, rfl⟩ := Nat.exists_eq_succ_of_ne_zero (Nat.ne_zero_of_lt enough)
      have opens := opens_fields second fields
      have later := fun one fuel enough => ih second
        (fun other member => each other (List.mem_cons_of_mem field member)) one fuel enough
        (length_fieldText second)
      rw [List.map_cons, List.map_cons, toList_join_cons_cons, ← List.map_cons] at enough ⊢
      generalize (join ", " ((second :: fields).map fieldText)).toList = tail at *
      have separator : ", ".toList = [',', ' '] := rfl
      rw [separator] at enough ⊢
      simp only [List.length_append, List.length_cons, List.length_nil] at enough
      rw [List.append_assoc, List.append_assoc]
      by_cases first : Refused field.2
      · exact readFields_failed fuel field first _ (closes_comma (' ' :: (tail ++ '\x7d' :: rest)))
          (by omega)
      · have reads := (each field List.mem_cons_self).resolve_right first
        obtain ⟨left, failed⟩ :=
          later ((List.exists_mem_cons_iff .. |>.mp one).resolve_left first) fuel (by omega)
        refine ⟨left, (readFields_more standardNames fuel field reads _ (by omega)
          (opens.append _)).trans ?_⟩
        rw [failed]
        rfl

/-! ### Values -/

theorem refused_list (items : List Value)
    (each : ∀ item ∈ items, Reads standardNames item ∨ Refused item)
    (one : ∃ item ∈ items, Refused item) : Refused (.list items) := by
  intro rest closes fuel enough
  obtain ⟨fuel, rfl⟩ := Nat.exists_eq_succ_of_ne_zero (Nat.ne_zero_of_lt enough)
  rw [toList_json_list] at enough ⊢
  cases items with
  | nil =>
      obtain ⟨item, member, -⟩ := one
      cases member
  | cons item items =>
      obtain ⟨left, failed⟩ := exists_readItems_failed rest item items each one fuel (by
        simp only [List.length_cons, List.length_append, List.length_nil] at enough
        omega)
      have opens := opens_items item items (opens_json item)
      rw [List.cons_append, List.append_assoc, List.singleton_append]
      refine ⟨left, (readValue_list standardNames fuel _ (opens.append _)).trans ?_⟩
      rw [failed]
      rfl

theorem refused_object (fields : Fields)
    (each : ∀ field ∈ fields, Reads standardNames field.2 ∨ Refused field.2)
    (one : ∃ field ∈ fields, Refused field.2) : Refused (.object fields) := by
  intro rest closes fuel enough
  obtain ⟨fuel, rfl⟩ := Nat.exists_eq_succ_of_ne_zero (Nat.ne_zero_of_lt enough)
  rw [toList_json_object] at enough ⊢
  have each : ∀ field ∈ fields.sorted, Reads standardNames field.2 ∨ Refused field.2 :=
    fun field member => each field (List.mem_mergeSort.mp member)
  have one : ∃ field ∈ fields.sorted, Refused field.2 := by
    obtain ⟨field, member, refused⟩ := one
    exact ⟨field, List.mem_mergeSort.mpr member, refused⟩
  generalize fields.sorted = sorted at *
  cases sorted with
  | nil =>
      obtain ⟨field, member, -⟩ := one
      cases member
  | cons field others =>
      obtain ⟨left, failed⟩ := exists_readFields_failed rest field others each one fuel (by
        simp only [List.length_cons, List.length_append, List.length_nil] at enough
        omega)
      have opens := opens_fields field others
      rw [List.cons_append, List.append_assoc, List.singleton_append]
      refine ⟨left, (readValue_object standardNames fuel _ (opens.append _)).trans ?_⟩
      rw [failed]
      rfl

/-- A value with a number that is not finite is refused, wherever the number stands. -/
theorem refused_of_not_isFinite (value : Value) (infinite : ¬ value.All Value.IsFinite) :
    Refused value := by
  induction value using Value.induction with
  | number n => exact refused_number n (Bool.eq_false_iff.mpr fun finite =>
      infinite ((Value.all_number _ n).mpr finite))
  | list items ih =>
      rw [Value.all_list] at infinite
      push Not at infinite
      obtain ⟨item, member, one⟩ := infinite
      refine refused_list items (fun other inside => ?_) ⟨item, member, ih item member one⟩
      by_cases finite : other.All Value.IsFinite
      · exact .inl (reads_of_isFinite standardNames usual_standardNames other finite)
      · exact .inr (ih other inside finite)
  | object fields ih =>
      rw [Value.all_object, Fields.All] at infinite
      push Not at infinite
      obtain ⟨field, member, one⟩ := infinite
      refine refused_object fields (fun other inside => ?_) ⟨field, member, ih field member one⟩
      by_cases finite : other.2.All Value.IsFinite
      · exact .inl (reads_of_isFinite standardNames usual_standardNames other.2 finite)
      · exact .inr (ih other inside finite)
  | _ => exact absurd (by simp [Value.All, Value.IsFinite]) infinite

theorem readWith_refused (value : Value) (refused : Refused value) :
    ∃ failure, readWith standardNames (value.json .embedded) = .error failure := by
  obtain ⟨left, failed⟩ := refused [] (fun c member => by cases member)
    ((value.json .embedded).toList.length + 1) (Nat.lt_succ_self _)
  have opens := opens_json value
  have kept := (opens.skipSpace []).1
  rw [List.append_nil] at kept failed
  unfold readWith
  simp only [opens.head?_ne_mark, kept, failed, Bool.false_eq_true, if_false, bind, Except.bind]
  exact ⟨_, rfl⟩

/-- The text of a value is standard JSON just when all numbers in the value are finite. -/
theorem readWith_standard_iff (value : Value) :
    (∃ read, readWith standardNames (value.json .embedded) = .ok read) ↔
      value.All Value.IsFinite := by
  constructor
  · rintro ⟨read, ok⟩
    by_contra infinite
    obtain ⟨failure, failed⟩ := readWith_refused value (refused_of_not_isFinite value infinite)
    rw [failed] at ok
    cases ok
  · intro finite
    exact ⟨_, readWith_json standardNames usual_standardNames value finite⟩

end JsonReader

namespace Value

/-! ### Points -/

/-- The texts that the points in a value are read from. -/
def pointTexts : Value → List String
  | null => []
  | list items => items.filterMap fun item =>
      match item with
      | text s => some s
      | _ => none
  | value => Text.split ',' value.plain

theorem isFinite_pointsOfItems_iff (items : List Value)
    (given : ∀ item ∈ items, item.All IsFinite) :
    (∀ n ∈ pointsOfItems items, n.isFinite = true) ↔
      ∀ s, text s ∈ items → Text.StaysInRange s := by
  simp only [pointsOfItems, List.mem_filterMap, forall_exists_index, and_imp]
  constructor
  · intro holds s member
    exact (Number.isFinite_ofLeading?_iff s).mp fun n read => holds n (text s) member read
  · intro holds n item member read
    cases item with
    | text s => exact (Number.isFinite_ofLeading?_iff s).mpr (holds s member) n read
    | number m =>
        have finite : m.isFinite = true := (all_number IsFinite m).mp (given _ member)
        simp only [number?] at read
        split at read
        · cases read
        · rwa [← Option.some.inj read]
    | _ => cases read

/-- All points in a value are finite just when no text that one is read from spells too much. -/
theorem isFinite_points_iff (value : Value) (given : value.All IsFinite) :
    (∀ n ∈ value.points, n.isFinite = true) ↔ ∀ s ∈ value.pointTexts, Text.StaysInRange s := by
  have written (texts : List String) : (∀ n ∈ pointsOfItems (texts.map text), n.isFinite = true) ↔
      ∀ s ∈ texts, Text.StaysInRange s := by
    rw [isFinite_pointsOfItems_iff _ (by simp [IsFinite])]
    simp
  cases value with
  | null => simp [points, pointTexts]
  | list items =>
      rw [points, isFinite_pointsOfItems_iff items ((all_list _ items).mp given)]
      simp only [pointTexts, List.mem_filterMap]
      constructor
      · rintro holds s ⟨item, member, same⟩
        cases item with
        | text t =>
            obtain rfl := Option.some.inj same
            exact holds t member
        | _ => cases same
      · exact fun holds s member => holds s ⟨text s, member, rfl⟩
  | _ => exact written _

end Value

end ReportCompiler
