import ReportCompiler.Value.Json

/-!
What holds of every leaf of a value: of all the texts, numbers, flags, nulls and dates that stand in its
lists and objects. Reading and replacing fields adds no leaves of its own.
-/

namespace ReportCompiler

namespace Value

mutual

/-- Lists and objects are looked into; all else is a leaf. -/
def All (leaf : Value → Prop) : Value → Prop
  | list items => AllItems leaf items
  | object fields => AllFields leaf fields
  | value => leaf value

def AllItems (leaf : Value → Prop) : List Value → Prop
  | [] => True
  | item :: rest => All leaf item ∧ AllItems leaf rest

def AllFields (leaf : Value → Prop) : List (String × Value) → Prop
  | [] => True
  | (_, value) :: rest => All leaf value ∧ AllFields leaf rest

end

end Value

/-- What holds of every leaf in an object's fields. -/
def Fields.All (leaf : Value → Prop) (fields : Fields) : Prop :=
  ∀ field ∈ fields, field.2.All leaf

namespace Value

variable (leaf : Value → Prop)

theorem allItems_iff (items : List Value) : AllItems leaf items ↔ ∀ item ∈ items, item.All leaf := by
  induction items with
  | nil => simp [AllItems]
  | cons item rest ih => simp [AllItems, ih]

theorem allFields_iff (fields : Fields) : AllFields leaf fields ↔ Fields.All leaf fields := by
  induction fields with
  | nil => simp [AllFields, Fields.All]
  | cons field rest ih =>
      rw [AllFields, ih]
      simp [Fields.All]

@[simp] theorem all_list (items : List Value) :
    (list items).All leaf ↔ ∀ item ∈ items, item.All leaf := by
  rw [All, allItems_iff]

@[simp] theorem all_object (fields : Fields) :
    (object fields).All leaf ↔ Fields.All leaf fields := by
  rw [All, allFields_iff]

@[simp] theorem all_text (s : String) : (text s).All leaf ↔ leaf (.text s) := by simp [All]

@[simp] theorem all_bool (b : Bool) : (bool b).All leaf ↔ leaf (.bool b) := by simp [All]

@[simp] theorem all_number (n : Number) : (number n).All leaf ↔ leaf (.number n) := by
  simp [All]

@[simp] theorem all_null : null.All leaf ↔ leaf .null := by simp [All]

/-! ### Dates -/

/-- Not a date. -/
def IsTimeless : Value → Prop
  | date _ => False
  | moment _ => False
  | _ => True

mutual

theorem holdsDate_eq_false_iff : (value : Value) →
    (value.holdsDate = false ↔ value.All IsTimeless)
  | null => by simp [holdsDate, IsTimeless]
  | bool b => by simp [holdsDate, IsTimeless]
  | number n => by simp [holdsDate, IsTimeless]
  | text s => by simp [holdsDate, IsTimeless]
  | date d => by simp [holdsDate, All, IsTimeless]
  | moment m => by simp [holdsDate, All, IsTimeless]
  | list items => by rw [holdsDate, All, holdsDateItems_eq_false_iff items]
  | object fields => by rw [holdsDate, All, holdsDateFields_eq_false_iff fields]

theorem holdsDateItems_eq_false_iff : (items : List Value) →
    (holdsDateItems items = false ↔ AllItems IsTimeless items)
  | [] => by simp [holdsDateItems, AllItems]
  | item :: rest => by
      rw [holdsDateItems, Bool.or_eq_false_iff, AllItems, holdsDate_eq_false_iff item,
        holdsDateItems_eq_false_iff rest]

theorem holdsDateFields_eq_false_iff : (fields : List (String × Value)) →
    (holdsDateFields fields = false ↔ AllFields IsTimeless fields)
  | [] => by simp [holdsDateFields, AllFields]
  | (_, value) :: rest => by
      rw [holdsDateFields, Bool.or_eq_false_iff, AllFields, holdsDate_eq_false_iff value,
        holdsDateFields_eq_false_iff rest]

end

end Value

/-! ### Fields -/

namespace Fields

variable (leaf : Value → Prop)

@[simp] theorem all_nil : Fields.All leaf [] := fun _ member => by cases member

@[simp] theorem all_cons (key : String) (value : Value) (rest : Fields) :
    Fields.All leaf ((key, value) :: rest) ↔ value.All leaf ∧ Fields.All leaf rest :=
  List.forall_mem_cons

@[simp] theorem all_append (first second : Fields) :
    Fields.All leaf (first ++ second) ↔ Fields.All leaf first ∧ Fields.All leaf second :=
  List.forall_mem_append

theorem all_withoutNulls (fields : Fields) (all : Fields.All leaf fields) :
    Fields.All leaf fields.withoutNulls :=
  fun field member => all field (List.mem_filter.mp member).1

theorem all_withoutNulls_iff (fields : Fields) (nothing : leaf .null) :
    Fields.All leaf fields.withoutNulls ↔ Fields.All leaf fields := by
  refine ⟨fun kept field member => ?_, all_withoutNulls leaf fields⟩
  cases null : field.2.isNull with
  | false => exact kept field (List.mem_filter.mpr ⟨member, by rw [null]; rfl⟩)
  | true =>
      obtain ⟨key, value⟩ := field
      cases value with
      | null => exact (Value.all_null leaf).mpr nothing
      | _ => cases null

theorem all_set (fields : Fields) (key : String) (value : Value) (all : Fields.All leaf fields)
    (new : value.All leaf) : Fields.All leaf (fields.set key value) := by
  unfold Fields.set
  split
  · intro field member
    obtain ⟨old, inside, same⟩ := List.mem_map.mp member
    split at same
    · rw [← same]
      exact new
    · rw [← same]
      exact all old inside
  · exact (all_append leaf fields _).mpr ⟨all, (all_cons leaf key value []).mpr ⟨new, all_nil leaf⟩⟩

theorem all_get (fields : Fields) (key : String) (nothing : leaf .null)
    (all : Fields.All leaf fields) : (fields.get key).All leaf := by
  unfold Fields.get
  cases found : fields.lookup key with
  | none => exact (Value.all_null leaf).mpr nothing
  | some value =>
      obtain ⟨before, after, split, _⟩ := List.lookup_eq_some_iff.mp found
      refine all (key, value) ?_
      rw [split]
      exact List.mem_append_right _ List.mem_cons_self

end Fields

theorem Value.all_fields? (leaf : Value → Prop) (value : Value) (fields : Fields)
    (all : value.All leaf) (object : value.fields? = .ok fields) : Fields.All leaf fields := by
  cases value with
  | object _ =>
      cases object
      exact (Value.all_object leaf fields).mp all
  | _ => cases object

theorem Value.all_orElse (leaf : Value → Prop) (value fallback : Value) (first : value.All leaf)
    (second : fallback.All leaf) : (value.orElse fallback).All leaf := by
  unfold Value.orElse
  split
  · exact first
  · exact second

end ReportCompiler
