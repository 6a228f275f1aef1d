import ReportCompiler.Proofs.Number.Text
import ReportCompiler.Proofs.Value.Fields
import ReportCompiler.Proofs.Value.ReadBack

/-!
Values as JSON has them: no dates, every number an integer or one that doubles can hold, and no key
twice in one object. The text of such a value is read back as the value itself, its keys in order, and
no text of a value holds a character that means something to HTML.
-/

namespace ReportCompiler

open ReportCompiler.Text

namespace Fields

theorem set_of_not_mem (fields : Fields) (key : String) (value : Value)
    (fresh : key ∉ fields.map Prod.fst) : fields.set key value = fields ++ [(key, value)] := by
  have missing : fields.has key = false := by
    rw [has, Option.isSome_eq_false_iff, Option.isNone_iff_eq_none, List.lookup_eq_none_iff]
    intro field member
    have other : key ≠ field.1 := fun same => fresh (by rw [same]; exact List.mem_map_of_mem member)
    simpa using other
  rw [set, missing, if_neg Bool.false_ne_true]

theorem foldl_set (fields : List (String × Value)) (before : Fields)
    (distinct : ((before ++ fields).map Prod.fst).Nodup) :
    fields.foldl (fun result field => result.set field.1 field.2) before = before ++ fields := by
  induction fields generalizing before with
  | nil => rw [List.foldl_nil, List.append_nil]
  | cons field rest ih =>
      have fresh : field.1 ∉ before.map Prod.fst := by
        rw [List.map_append, List.map_cons] at distinct
        exact fun member => (List.nodup_append.mp distinct).2.2 _ member _ List.mem_cons_self rfl
      rw [List.foldl_cons, set_of_not_mem before _ _ fresh,
        ih (before ++ [field]) (by rwa [List.append_assoc]), List.append_assoc]
      rfl

/-- Nothing is repeated, so nothing is left out. -/
theorem ofList_eq (fields : List (String × Value)) (distinct : (fields.map Prod.fst).Nodup) :
    ofList fields = fields :=
  foldl_set fields [] distinct

theorem nodup_sorted (fields : Fields) (distinct : (fields.map Prod.fst).Nodup) :
    (fields.sorted.map Prod.fst).Nodup :=
  ((List.mergeSort_perm fields _).map Prod.fst).nodup_iff.mpr distinct

end Fields

namespace Value

mutual

/-- The value with the fields of every object in the order of their keys. -/
def inKeyOrder : Value → Value
  | list items => list (inKeyOrderItems items)
  | object fields => object (Fields.sorted (inKeyOrderFields fields))
  | value => value

def inKeyOrderItems : List Value → List Value
  | [] => []
  | item :: rest => inKeyOrder item :: inKeyOrderItems rest

def inKeyOrderFields : List (String × Value) → List (String × Value)
  | [] => []
  | (key, value) :: rest => (key, inKeyOrder value) :: inKeyOrderFields rest

end

mutual

/-- A value as JSON has it. -/
def IsPlain : Value → Prop
  | number n => n.IsHeld
  | date _ => False
  | moment _ => False
  | list items => ArePlain items
  | object fields => (fields.map Prod.fst).Nodup ∧ FieldsArePlain fields
  | _ => True

def ArePlain : List Value → Prop
  | [] => True
  | item :: rest => IsPlain item ∧ ArePlain rest

def FieldsArePlain : List (String × Value) → Prop
  | [] => True
  | (_, value) :: rest => IsPlain value ∧ FieldsArePlain rest

end

theorem arePlain_iff (items : List Value) : ArePlain items ↔ ∀ item ∈ items, item.IsPlain := by
  induction items with
  | nil => simp [ArePlain]
  | cons item rest ih => simp [ArePlain, ih]

theorem fieldsArePlain_iff (fields : Fields) :
    FieldsArePlain fields ↔ ∀ field ∈ fields, field.2.IsPlain := by
  induction fields with
  | nil => simp [FieldsArePlain]
  | cons field rest ih => simp [FieldsArePlain, ih]

theorem isPlain_list (items : List Value) :
    (list items).IsPlain ↔ ∀ item ∈ items, item.IsPlain := by
  rw [IsPlain, arePlain_iff]

theorem isPlain_object (fields : Fields) :
    (object fields).IsPlain ↔
      (fields.map Prod.fst).Nodup ∧ ∀ field ∈ fields, field.2.IsPlain := by
  rw [IsPlain, fieldsArePlain_iff]

theorem inKeyOrderItems_eq_map (items : List Value) :
    inKeyOrderItems items = items.map inKeyOrder := by
  induction items with
  | nil => rfl
  | cons item rest ih => rw [inKeyOrderItems, ih, List.map_cons]

theorem inKeyOrderFields_eq_map (fields : Fields) :
    inKeyOrderFields fields = fields.map fun field => (field.1, inKeyOrder field.2) := by
  induction fields with
  | nil => rfl
  | cons field rest ih => rw [inKeyOrderFields, ih, List.map_cons]

/-! ### Plain values are read back -/

theorem IsPlain.readBack_eq {value : Value} (plain : value.IsPlain) :
    value.readBack = value.inKeyOrder := by
  induction value using Value.induction with
  | null => rfl
  | bool b => rfl
  | number n =>
      rw [IsPlain] at plain
      rw [readBack, n.readBack_eq plain]
      rfl
  | text s => rfl
  | date d => exact absurd plain id
  | moment m => exact absurd plain id
  | list items ih =>
      have inside := (isPlain_list items).mp plain
      rw [readBack, inKeyOrder, readBackItems_eq_map, inKeyOrderItems_eq_map]
      exact congrArg Value.list (List.map_congr_left fun item member => ih item member (inside item member))
  | object fields ih =>
      obtain ⟨distinct, inside⟩ := (isPlain_object fields).mp plain
      have same : readBackFields fields = inKeyOrderFields fields := by
        rw [readBackFields_eq_map, inKeyOrderFields_eq_map]
        exact List.map_congr_left fun field member => by rw [ih field member (inside field member)]
      have keys : (inKeyOrderFields fields).map Prod.fst = fields.map Prod.fst := by
        rw [inKeyOrderFields_eq_map, List.map_map]
        rfl
      rw [readBack, inKeyOrder, same,
        Fields.ofList_eq _ (Fields.nodup_sorted _ (by rw [keys]; exact distinct))]

/-- What holds of every plain value holds of every leaf of one. -/
theorem IsPlain.all {leaf : Value → Prop} (holds : ∀ value : Value, value.IsPlain → leaf value)
    {value : Value} (plain : value.IsPlain) : value.All leaf := by
  induction value using Value.induction with
  | null => exact (all_null leaf).mpr (holds _ plain)
  | bool b => exact (all_bool leaf b).mpr (holds _ plain)
  | number n => exact (all_number leaf n).mpr (holds _ plain)
  | text s => exact (all_text leaf s).mpr (holds _ plain)
  | date d => exact absurd plain id
  | moment m => exact absurd plain id
  | list items ih =>
      exact (all_list leaf items).mpr fun item member =>
        ih item member ((isPlain_list items).mp plain item member)
  | object fields ih =>
      exact (all_object leaf fields).mpr fun field member =>
        ih field member (((isPlain_object fields).mp plain).2 field member)

theorem IsPlain.isFinite {value : Value} (plain : value.IsPlain) : value.All IsFinite := by
  refine plain.all fun value plain => ?_
  cases value with
  | number n =>
      rw [IsPlain] at plain
      cases n with
      | int n => rfl
      | double x =>
          cases x with
          | finite negative mantissa exponent => rfl
          | nan => exact absurd plain id
          | infinite negative => exact absurd plain id
  | _ => trivial

theorem IsPlain.holdsDate {value : Value} (plain : value.IsPlain) : value.holdsDate = false := by
  rw [holdsDate_eq_false_iff]
  refine plain.all fun value plain => ?_
  cases value with
  | date d => exact absurd plain id
  | moment m => exact absurd plain id
  | _ => trivial

end Value

/-! ### Characters -/

/-- A character that means nothing to HTML. -/
def IsHarmless (c : Char) : Prop := c ∉ ['<', '>', '&', '\'']

/-- No character that means something to HTML. -/
def AreHarmless (chars : List Char) : Prop := ∀ c ∈ chars, IsHarmless c

instance (c : Char) : Decidable (IsHarmless c) :=
  inferInstanceAs (Decidable (c ∉ ['<', '>', '&', '\'']))

instance (chars : List Char) : Decidable (AreHarmless chars) := List.decidableBAll _ chars

theorem areHarmless_cons (c : Char) (chars : List Char) :
    AreHarmless (c :: chars) ↔ IsHarmless c ∧ AreHarmless chars :=
  List.forall_mem_cons

theorem areHarmless_append (first second : List Char) :
    AreHarmless (first ++ second) ↔ AreHarmless first ∧ AreHarmless second :=
  List.forall_mem_append

theorem AreNumerals.areHarmless {chars : List Char} (numerals : AreNumerals chars) :
    AreHarmless chars := by
  intro c member mark
  have numeral := numerals c member
  simp only [List.mem_cons, List.not_mem_nil, or_false] at mark
  rcases mark with rfl | rfl | rfl | rfl <;> exact absurd numeral (by decide)

theorem isHarmless_of_hexDigit? (c : Char) (digit : (JsonReader.hexDigit? c).isSome = true) :
    IsHarmless c := by
  intro mark
  simp only [List.mem_cons, List.not_mem_nil, or_false] at mark
  rcases mark with rfl | rfl | rfl | rfl <;> exact absurd digit (by decide)

theorem areHarmless_codeUnit (unit : Nat) : AreHarmless (JsonStyle.codeUnit unit).toList := by
  rw [JsonReader.toList_codeUnit, areHarmless_cons, areHarmless_cons]
  refine ⟨by decide, by decide, fun c member => ?_⟩
  rcases List.mem_append.mp member with zero | digit
  · rw [List.eq_of_mem_replicate zero]
    decide
  · exact isHarmless_of_hexDigit? c ((JsonReader.toDigits_hexadecimal unit).1 c digit)

theorem areHarmless_unicodeEscape (code : Nat) :
    AreHarmless (JsonStyle.unicodeEscape code).toList := by
  unfold JsonStyle.unicodeEscape
  split
  · exact areHarmless_codeUnit code
  · rw [String.toList_append, areHarmless_append]
    exact ⟨areHarmless_codeUnit _, areHarmless_codeUnit _⟩

theorem areHarmless_escapeEmbedded (c : Char) :
    AreHarmless (JsonStyle.escapeEmbedded c).toList := by
  unfold JsonStyle.escapeEmbedded
  split
  · exact areHarmless_unicodeEscape c.toNat
  · next unmarked =>
      have harmless : IsHarmless c := by
        intro mark
        simp only [List.mem_cons, List.not_mem_nil, or_false] at mark
        rcases mark with rfl | rfl | rfl | rfl <;> exact unmarked rfl
      rcases JsonReader.escapeControl_cases c with ⟨letter, known, written⟩ | written | ⟨written, -⟩
      · have other : IsHarmless letter := by
          intro mark
          simp only [List.mem_cons, List.not_mem_nil, or_false] at mark
          rcases mark with rfl | rfl | rfl | rfl <;> cases known
        rw [written, areHarmless_cons, areHarmless_cons]
        exact ⟨by decide, other, by decide⟩
      · rw [written]
        exact areHarmless_unicodeEscape c.toNat
      · rw [written, String.toList_singleton, areHarmless_cons]
        exact ⟨harmless, by decide⟩

theorem areHarmless_quote (s : String) : AreHarmless (JsonStyle.embedded.quote s).toList := by
  rw [JsonReader.toList_quote, areHarmless_cons, areHarmless_append]
  refine ⟨by decide, fun c member => ?_, by decide⟩
  obtain ⟨source, -, written⟩ := List.mem_flatMap.mp member
  exact areHarmless_escapeEmbedded source c written

theorem areHarmless_join (separator : String) (parts : List String)
    (between : AreHarmless separator.toList) (each : ∀ part ∈ parts, AreHarmless part.toList) :
    AreHarmless (join separator parts).toList := by
  induction parts with
  | nil =>
      rw [join, String.intercalate_nil]
      decide
  | cons first rest ih =>
      have head := each first List.mem_cons_self
      cases rest with
      | nil =>
          rw [join, String.intercalate_singleton]
          exact head
      | cons second rest =>
          rw [JsonReader.toList_join_cons_cons, areHarmless_append, areHarmless_append]
          exact ⟨head, between, ih fun part member => each part (List.mem_cons_of_mem first member)⟩

theorem Number.areHarmless_jsonText (n : Number) : AreHarmless n.jsonText.toList := by
  cases n with
  | int n => exact (areNumerals_toString n).areHarmless
  | double x =>
      cases x with
      | nan => decide
      | infinite negative => cases negative <;> decide
      | finite negative mantissa exponent => exact (Double.areNumerals_text _).areHarmless

/-- The text of a value can stand in any markup. -/
theorem Value.areHarmless_json (value : Value) : AreHarmless (value.json .embedded).toList := by
  induction value using Value.induction with
  | null => decide
  | bool b => cases b <;> decide
  | number n =>
      rw [Value.json]
      exact n.areHarmless_jsonText
  | text s => exact areHarmless_quote s
  | date d => exact areHarmless_quote d.text
  | moment m => exact areHarmless_quote (m.textWith " ")
  | list items ih =>
      have inside := areHarmless_join ", " (items.map (Value.json .embedded)) (by decide)
        (List.forall_mem_map.mpr ih)
      rw [JsonReader.toList_json_list, areHarmless_cons, areHarmless_append]
      exact ⟨by decide, inside, by decide⟩
  | object fields ih =>
      have inside := areHarmless_join ", " (fields.sorted.map JsonReader.fieldText) (by decide)
        (List.forall_mem_map.mpr fun field member => by
          rw [JsonReader.toList_fieldText, areHarmless_append, areHarmless_cons, areHarmless_cons]
          exact ⟨areHarmless_quote field.1, by decide, by decide,
            ih field (List.mem_mergeSort.mp member)⟩)
      rw [JsonReader.toList_json_object, areHarmless_cons, areHarmless_append]
      exact ⟨by decide, inside, by decide⟩

end ReportCompiler
