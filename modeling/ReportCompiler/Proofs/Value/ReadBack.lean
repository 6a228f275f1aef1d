import ReportCompiler.Proofs.Number.Numeral
import ReportCompiler.Proofs.Value.Escapes
import ReportCompiler.Proofs.Value.Leaves

/-!
JSON text is read back as the value that it was written for, whatever stands in the value: keys come in
order, numbers are the ones that their texts spell, and dates have become texts.
-/

namespace ReportCompiler

open ReportCompiler.Text

/-- Fields in the order of their keys. -/
def Fields.sorted (fields : Fields) : Fields := fields.mergeSort fun a b => !precedes b.1 a.1

namespace Value

/-- A proof about a list or an object may use the proofs about what stands in it. -/
theorem induction {motive : Value → Prop} (null : motive .null) (bool : ∀ b, motive (.bool b))
    (number : ∀ n, motive (.number n)) (text : ∀ s, motive (.text s))
    (date : ∀ d, motive (.date d)) (moment : ∀ m, motive (.moment m))
    (list : ∀ items, (∀ item ∈ items, motive item) → motive (.list items))
    (object : ∀ fields : Fields, (∀ field ∈ fields, motive field.2) → motive (.object fields))
    (value : Value) : motive value :=
  @Value.rec motive (fun items => ∀ item ∈ items, motive item)
    (fun fields => ∀ field ∈ fields, motive field.2) (fun field => motive field.2)
    null bool number text date moment list object
    (fun _ member => by cases member) (fun _ _ first others => List.forall_mem_cons.mpr ⟨first, others⟩)
    (fun _ member => by cases member) (fun _ _ first others => List.forall_mem_cons.mpr ⟨first, others⟩)
    (fun _ _ value => value) value

mutual

/-- What the JSON text of a value is read as. -/
def readBack : Value → Value
  | number n => number n.readBack
  | date d => text d.text
  | moment m => text (m.textWith " ")
  | list items => list (readBackItems items)
  | object fields => object (Fields.ofList (Fields.sorted (readBackFields fields)))
  | value => value

def readBackItems : List Value → List Value
  | [] => []
  | item :: rest => readBack item :: readBackItems rest

def readBackFields : List (String × Value) → List (String × Value)
  | [] => []
  | (key, value) :: rest => (key, readBack value) :: readBackFields rest

end

theorem readBackItems_eq_map (items : List Value) : readBackItems items = items.map readBack := by
  induction items with
  | nil => rfl
  | cons item rest ih => rw [readBackItems, ih, List.map_cons]

theorem readBackFields_eq_map (fields : Fields) :
    readBackFields fields = fields.map fun field => (field.1, readBack field.2) := by
  induction fields with
  | nil => rfl
  | cons field rest ih => rw [readBackFields, ih, List.map_cons]

/-- Not a number without a numeral. -/
def IsFinite : Value → Prop
  | number n => n.isFinite = true
  | _ => True

end Value

theorem Fields.sorted_map (fields : Fields) {β : Type} (f : Value → β)
    (order : (String × β) → (String × β) → Bool)
    (by_key : ∀ a b, order a b = !precedes b.1 a.1) :
    (fields.map fun field => (field.1, f field.2)).mergeSort order =
      fields.sorted.map fun field => (field.1, f field.2) := by
  refine (List.map_mergeSort fun a _ b _ => ?_).symm
  rw [by_key]

namespace JsonReader

/-- Names are read for the three values of JSON that have one, and for nothing that starts a number. -/
structure Usual (names : List (String × Value)) : Prop where
  null (rest : List Char) : readName? names ("null".toList ++ rest) = some (.null, rest)
  true (rest : List Char) : readName? names ("true".toList ++ rest) = some (.bool true, rest)
  false (rest : List Char) : readName? names ("false".toList ++ rest) = some (.bool false, rest)
  digit (c : Char) (rest : List Char) (digit : c.isDigit = Bool.true) : readName? names (c :: rest) = none
  minus (c : Char) (rest : List Char) (digit : c.isDigit = Bool.true) :
    readName? names ('-' :: c :: rest) = none

theorem beq_of_isDigit (letter c : Char) (digit : c.isDigit = true) (noDigit : letter.isDigit = false) :
    (letter == c) = false := by
  refine beq_eq_false_iff_ne.mpr fun same => ?_
  rw [same, digit] at noDigit
  cases noDigit

theorem usual_allNames : Usual allNames where
  null _ := rfl
  true _ := rfl
  false _ := rfl
  digit c rest digit := by
    have other := fun letter => beq_of_isDigit letter c digit
    simp [readName?, allNames, standardNames, List.isPrefixOf, other]
  minus c rest digit := by
    have other := fun letter => beq_of_isDigit letter c digit
    simp [readName?, allNames, standardNames, List.isPrefixOf, other]

theorem usual_standardNames : Usual standardNames where
  null _ := rfl
  true _ := rfl
  false _ := rfl
  digit c rest digit := by
    have other := fun letter => beq_of_isDigit letter c digit
    simp [readName?, standardNames, List.isPrefixOf, other]
  minus c rest digit := by
    have other := fun letter => beq_of_isDigit letter c digit
    simp [readName?, standardNames, List.isPrefixOf, other]

/-! ### What follows a value -/

/-- The end of the text, or what separates or closes. -/
def Closes (rest : List Char) : Prop := ∀ c ∈ rest.head?, c = ',' ∨ c = ']' ∨ c = '\x7d'

theorem Closes.endsNumber {rest : List Char} (closes : Closes rest) : EndsNumber rest := by
  intro c member
  rcases closes c member with rfl | rfl | rfl <;> decide

theorem closes_comma (rest : List Char) : Closes (',' :: rest) := fun c member => by
  cases member
  simp

theorem closes_bracket (rest : List Char) : Closes (']' :: rest) := fun c member => by
  cases member
  simp

theorem closes_brace (rest : List Char) : Closes ('\x7d' :: rest) := fun c member => by
  cases member
  simp

/-- What a value starts with. -/
def Opens (chars : List Char) : Prop :=
  ∃ c rest, chars = c :: rest ∧ c ≠ Char.ofNat 0xfeff ∧ isSpace c = false ∧ c ≠ ']' ∧ c ≠ '\x7d'

theorem Opens.skipSpace {chars : List Char} (opens : Opens chars) (rest : List Char) :
    skipSpace (chars ++ rest) = chars ++ rest ∧ JsonReader.skipSpace (' ' :: (chars ++ rest)) =
      chars ++ rest := by
  obtain ⟨c, more, rfl, -, shown, -⟩ := opens
  have kept : JsonReader.skipSpace (c :: more ++ rest) = c :: more ++ rest := by
    rw [JsonReader.skipSpace, List.cons_append, List.dropWhile_cons, shown, if_neg Bool.false_ne_true]
  exact ⟨kept, kept⟩

theorem Opens.skipSpace_space {chars : List Char} (opens : Opens chars) :
    JsonReader.skipSpace (' ' :: chars) = chars := by
  have skip := (opens.skipSpace []).2
  rwa [List.append_nil] at skip

theorem Opens.head?_ne_mark {chars : List Char} (opens : Opens chars) :
    (chars.head? == some (Char.ofNat 0xfeff)) = false := by
  obtain ⟨c, more, rfl, noMark, -⟩ := opens
  rw [List.head?_cons]
  exact beq_eq_false_iff_ne.mpr fun mark => noMark (Option.some.inj mark)

/-! ### Values -/

section Values

variable (names : List (String × Value))

/-- The text of the value is read, whatever closes it. -/
structure Reads (value : Value) : Prop where
  opens : Opens (value.json .embedded).toList
  readValue_eq (rest : List Char) (closes : Closes rest) (fuel : Nat)
    (enough : (value.json .embedded).toList.length < fuel) :
    readValue names fuel ((value.json .embedded).toList ++ rest) = .ok (value.readBack, rest)

theorem readValue_other (fuel : Nat) (c : Char) (rest : List Char) (quote : c ≠ '"')
    (brace : c ≠ '\x7b') (bracket : c ≠ '[') :
    readValue names (fuel + 1) (c :: rest) =
      match readName? names (c :: rest) with
      | some result => .ok result
      | none => readNumber (c :: rest) := by
  cases named : readName? names (c :: rest) <;>
    simp only [readValue, quote, brace, bracket, named, List.cons.injEq, false_and, imp_false,
      not_false_eq_true, implies_true]

theorem reads_name (value : Value) (c : Char) (name : List Char)
    (text : (value.json .embedded).toList = c :: name) (same : value.readBack = value)
    (letter : c = 'n' ∨ c = 't' ∨ c = 'f')
    (known : ∀ rest, readName? names (c :: name ++ rest) = some (value, rest)) :
    Reads names value where
  opens := by
    refine ⟨c, name, text, ?_⟩
    rcases letter with rfl | rfl | rfl <;> decide
  readValue_eq rest closes fuel enough := by
    obtain ⟨less, rfl⟩ := Nat.exists_eq_add_of_lt enough
    have other : c ≠ '"' ∧ c ≠ '\x7b' ∧ c ≠ '[' := by
      rcases letter with rfl | rfl | rfl <;> decide
    have known := known rest
    rw [List.cons_append] at known
    rw [text, same, List.cons_append, readValue_other names _ c _ other.1 other.2.1 other.2.2, known]

theorem reads_number (usual : Usual names) (n : Number) (finite : n.isFinite = true) :
    Reads names (.number n) := by
  obtain ⟨numeral, chars, value⟩ := n.exists_numeral finite
  have text : ((Value.number n).json .embedded).toList = numeral.chars := by
    rw [Value.json, chars]
  -- A numeral starts with a digit, or with a minus and a digit.
  obtain ⟨d, digits, whole⟩ := List.exists_cons_of_ne_nil numeral.whole_ne_nil
  have digit : d.isDigit = true := numeral.whole_digits d (by rw [whole]; exact List.mem_cons_self)
  have start : ∃ c more, numeral.chars = c :: more ∧ (c.isDigit = true ∨ c = '-') ∧
      ∀ rest, readName? names (c :: more ++ rest) = none := by
    have unsigned : ∃ more, numeral.unsigned = d :: more :=
      ⟨_, by rw [Numeral.unsigned, whole, List.cons_append]⟩
    obtain ⟨more, unsigned⟩ := unsigned
    unfold Numeral.chars
    cases numeral.negative with
    | true =>
        exact ⟨'-', d :: more, by rw [if_pos rfl, unsigned], .inr rfl,
          fun rest => usual.minus d (more ++ rest) digit⟩
    | false =>
        exact ⟨d, more, by rw [if_neg Bool.false_ne_true, unsigned], .inl digit,
          fun rest => usual.digit d (more ++ rest) digit⟩
  obtain ⟨c, more, same, first, unnamed⟩ := start
  have other (mark : Char) (noDigit : mark.isDigit = false) (noMinus : mark ≠ '-') : c ≠ mark := by
    rintro rfl
    rcases first with digit | minus
    · rw [digit] at noDigit
      cases noDigit
    · exact noMinus minus
  refine ⟨⟨c, more, text.trans same, other (Char.ofNat 0xfeff) (by decide) (by decide), ?_,
    other ']' rfl (by decide), other '\x7d' rfl (by decide)⟩, fun rest closes fuel enough => ?_⟩
  · simp [isSpace, other ' ' rfl (by decide), other '\t' rfl (by decide),
      other '\n' rfl (by decide), other '\r' rfl (by decide)]
  · obtain ⟨less, rfl⟩ := Nat.exists_eq_add_of_lt enough
    have number := readNumber_chars numeral rest closes.endsNumber
    have unnamed := unnamed rest
    rw [same, List.cons_append] at number
    rw [List.cons_append] at unnamed
    rw [text, same, List.cons_append, readValue_other names _ c _ (other '"' rfl (by decide))
      (other '\x7b' rfl (by decide)) (other '[' rfl (by decide)), unnamed]
    simp only [number, value, Value.readBack]

theorem reads_quoted (value : Value) (s : String)
    (text : value.json .embedded = JsonStyle.embedded.quote s) (same : value.readBack = .text s) :
    Reads names value where
  opens := by
    rw [text, toList_quote]
    exact ⟨'"', _, rfl, by decide⟩
  readValue_eq rest closes fuel enough := by
    obtain ⟨less, rfl⟩ := Nat.exists_eq_add_of_lt enough
    obtain ⟨inside, quoted, read⟩ := exists_quoted .embedded undoes_embedded s
    rw [text, quoted, same, List.cons_append, readValue, read]
    rfl

/-! ### Lists -/

theorem Opens.append {chars : List Char} (opens : Opens chars) (rest : List Char) :
    Opens (chars ++ rest) := by
  obtain ⟨c, more, rfl, marks⟩ := opens
  exact ⟨c, more ++ rest, rfl, marks⟩

theorem toList_join_cons_cons (separator first second : String) (parts : List String) :
    (join separator (first :: second :: parts)).toList =
      first.toList ++ (separator.toList ++ (join separator (second :: parts)).toList) := by
  rw [join, String.intercalate_cons_cons]
  simp [join]

theorem opens_items (item : Value) (items : List Value) (first : Opens (item.json .embedded).toList) :
    Opens (join ", " ((item :: items).map (Value.json .embedded))).toList := by
  cases items with
  | nil =>
      rw [List.map_singleton, join, String.intercalate_singleton]
      exact first
  | cons second items =>
      rw [List.map_cons, List.map_cons, toList_join_cons_cons]
      exact first.append _

theorem readItems_last (fuel : Nat) (chars rest : List Char) (item : Value)
    (read : readValue names fuel chars = .ok (item, ']' :: rest)) :
    readItems names (fuel + 1) chars = .ok ([item], rest) := by
  rw [readItems, read]
  rfl

-- Whether reading goes on or fails, after a comma it does as it does for the rest.
theorem readItems_more (fuel : Nat) (chars tail : List Char) (item : Value)
    (read : readValue names fuel chars = .ok (item, ',' :: ' ' :: tail)) (opens : Opens tail) :
    readItems names (fuel + 1) chars =
      (readItems names fuel tail).map fun found => (item :: found.1, found.2) := by
  have skipped := opens.skipSpace_space
  have kept : skipSpace (',' :: ' ' :: tail) = ',' :: ' ' :: tail := rfl
  rw [readItems, read]
  simp only [kept, skipped, bind, Except.bind, pure, Except.pure]
  cases readItems names fuel tail <;> rfl

-- The induction is on the items; each of them leaves one step fewer for those after it.
theorem readItems_join (rest : List Char) (item : Value) (items : List Value)
    (reads : ∀ other ∈ item :: items, Reads names other) (fuel : Nat)
    (enough : (join ", " ((item :: items).map (Value.json .embedded))).toList.length + 1 < fuel) :
    readItems names fuel ((join ", " ((item :: items).map (Value.json .embedded))).toList ++ ']' :: rest)
      = .ok ((item :: items).map Value.readBack, rest) := by
  induction items generalizing item fuel with
  | nil =>
      obtain ⟨fuel, rfl⟩ := Nat.exists_eq_succ_of_ne_zero (Nat.ne_zero_of_lt enough)
      rw [List.map_singleton, join, String.intercalate_singleton] at enough ⊢
      exact readItems_last names fuel _ rest item.readBack
        ((reads item List.mem_cons_self).readValue_eq _ (closes_bracket rest) fuel (by omega))
  | cons second items ih =>
      obtain ⟨fuel, rfl⟩ := Nat.exists_eq_succ_of_ne_zero (Nat.ne_zero_of_lt enough)
      have others := fun other member => reads other (List.mem_cons_of_mem item member)
      have opens := opens_items second items (others second List.mem_cons_self).opens
      have later := ih second others fuel
      rw [List.map_cons, List.map_cons, toList_join_cons_cons, ← List.map_cons] at enough ⊢
      generalize (join ", " ((second :: items).map (Value.json .embedded))).toList = tail at *
      have separator : ", ".toList = [',', ' '] := rfl
      rw [separator] at enough ⊢
      simp only [List.length_append, List.length_cons, List.length_nil] at enough
      have first := (reads item List.mem_cons_self).readValue_eq _
        (closes_comma (' ' :: (tail ++ ']' :: rest))) fuel (by omega)
      rw [List.append_assoc, List.append_assoc]
      refine (readItems_more names fuel _ _ item.readBack first (opens.append _)).trans ?_
      rw [later (by omega)]
      rfl

theorem readValue_list (fuel : Nat) (inside : List Char) (opens : Opens inside) :
    readValue names (fuel + 1) ('[' :: inside) =
      (readItems names fuel inside).map fun found => (.list found.1, found.2) := by
  have kept := (opens.skipSpace []).1
  obtain ⟨c, more, rfl, -, -, notClosed, -⟩ := opens
  rw [List.append_nil] at kept
  rw [readValue, kept]
  simp only [notClosed, List.cons.injEq, false_and, imp_false, not_false_eq_true, implies_true,
    bind, Except.bind, pure, Except.pure]
  cases readItems names fuel (c :: more) <;> rfl

theorem toList_json_list (items : List Value) :
    ((Value.list items).json .embedded).toList =
      '[' :: ((join ", " (items.map (Value.json .embedded))).toList ++ [']']) := by
  rw [Value.json, Value.jsonItems_eq_map]
  simp [JsonStyle.embedded]

theorem reads_list (items : List Value) (reads : ∀ item ∈ items, Reads names item) :
    Reads names (.list items) := by
  have text := toList_json_list items
  refine ⟨by rw [text]; exact ⟨'[', _, rfl, by decide⟩, fun rest closes fuel enough => ?_⟩
  obtain ⟨fuel, rfl⟩ := Nat.exists_eq_succ_of_ne_zero (Nat.ne_zero_of_lt enough)
  rw [text] at enough ⊢
  rw [Value.readBack, Value.readBackItems_eq_map]
  cases items with
  | nil => rfl
  | cons item items =>
      have read := readItems_join names rest item items reads fuel (by
        simp only [List.length_cons, List.length_append, List.length_nil] at enough
        omega)
      have opens := opens_items item items (reads item List.mem_cons_self).opens
      rw [List.cons_append, List.append_assoc, List.singleton_append]
      refine (readValue_list names fuel _ (opens.append _)).trans ?_
      rw [read]
      rfl

/-! ### Objects -/

/-- A field as it is written. -/
def fieldText (field : String × Value) : String :=
  JsonStyle.embedded.quote field.1 ++ ": " ++ field.2.json .embedded

theorem toList_fieldText (field : String × Value) :
    (fieldText field).toList = (JsonStyle.embedded.quote field.1).toList ++
      ':' :: ' ' :: (field.2.json .embedded).toList := by
  simp [fieldText]

theorem opens_fieldText (field : String × Value) : Opens (fieldText field).toList := by
  rw [toList_fieldText, toList_quote]
  exact ⟨'"', _, rfl, by decide⟩

theorem opens_fields (field : String × Value) (fields : Fields) :
    Opens (join ", " ((field :: fields).map fieldText)).toList := by
  cases fields with
  | nil =>
      rw [List.map_singleton, join, String.intercalate_singleton]
      exact opens_fieldText field
  | cons second fields =>
      rw [List.map_cons, List.map_cons, toList_join_cons_cons]
      exact (opens_fieldText field).append _

theorem readFields_last (fuel : Nat) (field : String × Value) (reads : Reads names field.2)
    (rest : List Char) (enough : (field.2.json .embedded).toList.length < fuel) :
    readFields names (fuel + 1) ((fieldText field).toList ++ '\x7d' :: rest) =
      .ok ([(field.1, field.2.readBack)], rest) := by
  obtain ⟨inside, quoted, key⟩ := exists_quoted .embedded undoes_embedded field.1
  have value := reads.readValue_eq _ (closes_brace rest) fuel enough
  have skipped := (reads.opens.skipSpace ('\x7d' :: rest)).2
  have colon (tail : List Char) : skipSpace (':' :: tail) = ':' :: tail := rfl
  have brace (tail : List Char) : skipSpace ('\x7d' :: tail) = '\x7d' :: tail := rfl
  rw [toList_fieldText, quoted, List.append_assoc, List.cons_append, List.cons_append, readFields]
  simp only [key, colon, skipped, value, brace, bind, Except.bind, pure, Except.pure, List.cons_append]

theorem readFields_more (fuel : Nat) (field : String × Value) (reads : Reads names field.2)
    (tail : List Char) (enough : (field.2.json .embedded).toList.length < fuel) (opens : Opens tail) :
    readFields names (fuel + 1) ((fieldText field).toList ++ ',' :: ' ' :: tail) =
      (readFields names fuel tail).map fun found =>
        ((field.1, field.2.readBack) :: found.1, found.2) := by
  obtain ⟨inside, quoted, key⟩ := exists_quoted .embedded undoes_embedded field.1
  have value := reads.readValue_eq _ (closes_comma (' ' :: tail)) fuel enough
  have skipped := (reads.opens.skipSpace (',' :: ' ' :: tail)).2
  have colon (tail : List Char) : skipSpace (':' :: tail) = ':' :: tail := rfl
  have comma (tail : List Char) : skipSpace (',' :: tail) = ',' :: tail := rfl
  have next := opens.skipSpace_space
  rw [toList_fieldText, quoted, List.append_assoc, List.cons_append, List.cons_append, readFields]
  simp only [key, colon, skipped, value, comma, next, bind, Except.bind, pure, Except.pure,
    List.cons_append]
  cases readFields names fuel tail <;> rfl

theorem length_fieldText (field : String × Value) :
    (field.2.json .embedded).toList.length + 4 ≤ (fieldText field).toList.length := by
  rw [toList_fieldText, toList_quote]
  simp only [List.length_append, List.length_cons, List.length_nil]
  omega

-- As for the items of a list, by induction on the fields.
theorem readFields_join (rest : List Char) (field : String × Value) (fields : Fields)
    (reads : ∀ other ∈ field :: fields, Reads names other.2) (fuel : Nat)
    (enough : (join ", " ((field :: fields).map fieldText)).toList.length + 1 < fuel) :
    readFields names fuel ((join ", " ((field :: fields).map fieldText)).toList ++ '\x7d' :: rest) =
      .ok ((field :: fields).map fun other => (other.1, other.2.readBack), rest) := by
  have own := length_fieldText field
  have first := reads field List.mem_cons_self
  induction fields generalizing field fuel with
  | nil =>
      obtain ⟨fuel, rfl⟩ := Nat.exists_eq_succ_of_ne_zero (Nat.ne_zero_of_lt enough)
      rw [List.map_singleton, join, String.intercalate_singleton] at enough ⊢
      exact readFields_last names fuel field first rest (by omega)
  | cons second fields ih =>
      obtain ⟨fuel, rfl⟩ := Nat.exists_eq_succ_of_ne_zero (Nat.ne_zero_of_lt enough)
      have others := fun other member => reads other (List.mem_cons_of_mem field member)
      have opens := opens_fields second fields
      have later := fun enough => ih second others fuel enough (length_fieldText second)
        (others second List.mem_cons_self)
      rw [List.map_cons, List.map_cons, toList_join_cons_cons, ← List.map_cons] at enough ⊢
      generalize (join ", " ((second :: fields).map fieldText)).toList = tail at *
      have separator : ", ".toList = [',', ' '] := rfl
      rw [separator] at enough ⊢
      simp only [List.length_append, List.length_cons, List.length_nil] at enough
      rw [List.append_assoc, List.append_assoc]
      refine (readFields_more names fuel field first _ (by omega) (opens.append _)).trans ?_
      rw [later (by omega)]
      rfl

theorem readValue_object (fuel : Nat) (inside : List Char) (opens : Opens inside) :
    readValue names (fuel + 1) ('\x7b' :: inside) =
      (readFields names fuel inside).map fun found => (.object (Fields.ofList found.1), found.2) := by
  have kept := (opens.skipSpace []).1
  obtain ⟨c, more, rfl, -, -, -, notClosed⟩ := opens
  rw [List.append_nil] at kept
  rw [readValue, kept]
  simp only [notClosed, List.cons.injEq, false_and, imp_false, not_false_eq_true, implies_true,
    bind, Except.bind, pure, Except.pure]
  cases readFields names fuel (c :: more) <;> rfl

theorem toList_json_object (fields : Fields) :
    ((Value.object fields).json .embedded).toList =
      '\x7b' :: ((join ", " (fields.sorted.map fieldText)).toList ++ ['\x7d']) := by
  have arranged : JsonStyle.embedded.arrange (Value.jsonFields .embedded fields) =
      fields.sorted.map fun field => (field.1, field.2.json .embedded) := by
    rw [Value.jsonFields_eq_map]
    exact Fields.sorted_map fields (Value.json .embedded) _ fun _ _ => rfl
  have written : ((fun field : String × String => JsonStyle.embedded.quote field.1 ++
      JsonStyle.embedded.afterKey ++ field.2) ∘ fun field : String × Value =>
        (field.1, field.2.json .embedded)) = fieldText := rfl
  have separator : JsonStyle.embedded.betweenItems = ", " := rfl
  rw [Value.json, JsonStyle.objectText, arranged, List.map_map, written, separator]
  simp

theorem reads_object (fields : Fields) (reads : ∀ field ∈ fields, Reads names field.2) :
    Reads names (.object fields) := by
  have text := toList_json_object fields
  refine ⟨by rw [text]; exact ⟨'\x7b', _, rfl, by decide⟩, fun rest closes fuel enough => ?_⟩
  obtain ⟨fuel, rfl⟩ := Nat.exists_eq_succ_of_ne_zero (Nat.ne_zero_of_lt enough)
  rw [text] at enough ⊢
  have readBack : (Value.object fields).readBack = .object (Fields.ofList
      (fields.sorted.map fun field => (field.1, field.2.readBack))) := by
    rw [Value.readBack, Value.readBackFields_eq_map]
    exact congrArg (fun sorted => Value.object (Fields.ofList sorted))
      (Fields.sorted_map fields Value.readBack _ fun _ _ => rfl)
  have inside : ∀ field ∈ fields.sorted, Reads names field.2 :=
    fun field member => reads field (List.mem_mergeSort.mp member)
  rw [readBack]
  generalize fields.sorted = sorted at *
  cases sorted with
  | nil => rfl
  | cons field others =>
      have read := readFields_join names rest field others inside fuel (by
        simp only [List.length_cons, List.length_append, List.length_nil] at enough
        omega)
      have opens := opens_fields field others
      rw [List.cons_append, List.append_assoc, List.singleton_append]
      refine (readValue_object names fuel _ (opens.append _)).trans ?_
      rw [read]
      rfl

/-- The text of every value with finite numbers is read, wherever it stands. -/
theorem reads_of_isFinite (usual : Usual names) (value : Value) (finite : value.All Value.IsFinite) :
    Reads names value := by
  induction value using Value.induction with
  | null => exact reads_name names .null 'n' _ rfl rfl (.inl rfl) usual.null
  | bool b =>
      cases b with
      | true => exact reads_name names (.bool true) 't' _ rfl rfl (.inr (.inl rfl)) usual.true
      | false => exact reads_name names (.bool false) 'f' _ rfl rfl (.inr (.inr rfl)) usual.false
  | number n => exact reads_number names usual n ((Value.all_number _ n).mp finite)
  | text s => exact reads_quoted names (.text s) s rfl rfl
  | date d => exact reads_quoted names (.date d) d.text rfl rfl
  | moment m => exact reads_quoted names (.moment m) (m.textWith " ") rfl rfl
  | list items ih =>
      have inside := (Value.all_list _ items).mp finite
      exact reads_list names items fun item member => ih item member (inside item member)
  | object fields ih =>
      have inside := (Value.all_object _ fields).mp finite
      exact reads_object names fields fun field member => ih field member (inside field member)

end Values

/-- A text that holds nothing but the text of a value is read as that value. -/
theorem readWith_json (names : List (String × Value)) (usual : Usual names) (value : Value)
    (finite : value.All Value.IsFinite) :
    readWith names (value.json .embedded) = .ok value.readBack := by
  obtain ⟨opens, read⟩ := reads_of_isFinite names usual value finite
  have kept := (opens.skipSpace []).1
  have whole := read [] (fun c member => by cases member)
    ((value.json .embedded).toList.length + 1) (Nat.lt_succ_self _)
  rw [List.append_nil] at kept whole
  unfold readWith
  simp only [opens.head?_ne_mark, kept, whole, Bool.false_eq_true, if_false, bind, Except.bind]
  rfl

end JsonReader

end ReportCompiler
