import Mathlib.Data.List.Nodup
import Mathlib.Data.Option.Basic
import ReportCompiler.Proofs.Value.Plain
import ReportCompiler.Value.Equality

/-!
When two JSON values are the same: numbers by what they are worth, lists item by item, objects key by key and in
any order. Equality of values is this relation once truth values have been replaced by the numbers they count as,
so that it says too much just where one value has a truth value and the other a number.
-/

namespace ReportCompiler

/-! ### Numbers -/

namespace Number

/-- What a finite number is worth. -/
def worth? : Number → Option ℚ
  | int n => some n
  | double x => x.ratio?.map fun (num, den) => num / den

theorem exists_place_of_isFinite (n : Number) (finite : n.isFinite = true) :
    ∃ num den, n.place? = some (.at num den) ∧ 0 < den ∧ n.worth? = some ((num : ℚ) / den) := by
  cases n with
  | int n => exact ⟨n, 1, rfl, Nat.one_pos, by simp [worth?]⟩
  | double x =>
      cases x with
      | finite negative mantissa exponent =>
          exact ⟨_, _, rfl, Double.scale_snd_pos mantissa exponent, rfl⟩
      | _ => cases finite

theorem same_iff_worth (m n : Number) (finite : m.isFinite = true) (finite' : n.isFinite = true) :
    m.same n = true ↔ m.worth? = n.worth? := by
  obtain ⟨a, b, place, b_pos, worth⟩ := exists_place_of_isFinite m finite
  obtain ⟨c, d, place', d_pos, worth'⟩ := exists_place_of_isFinite n finite'
  have b_ne : (b : ℚ) ≠ 0 := by exact_mod_cast b_pos.ne'
  have d_ne : (d : ℚ) ≠ 0 := by exact_mod_cast d_pos.ne'
  have crossed : m.same n = true ↔ a * d = c * b := by
    simp only [same, le, place, place', Place.lt, Bool.and_eq_true, Bool.not_eq_true', decide_eq_false_iff_not]
    omega
  rw [crossed, worth, worth', Option.some_inj, div_eq_div_iff b_ne d_ne]
  exact_mod_cast Iff.rfl

theorem isFinite_of_isHeld (n : Number) (held : n.IsHeld) : n.isFinite = true := by
  cases n with
  | int n => rfl
  | double x =>
      cases x with
      | finite negative mantissa exponent => rfl
      | _ => cases held

end Number

/-! ### Fields under distinct keys -/

namespace Fields

theorem lookup_map (f : Value → Value) (fields : Fields) (key : String) :
    List.lookup key (fields.map fun field => (field.1, f field.2)) = (fields.lookup key).map f := by
  induction fields with
  | nil => rfl
  | cons field rest ih =>
      rw [List.map_cons, lookup_cons, lookup_cons, ih]
      split <;> rfl

theorem mem_of_lookup (fields : Fields) (key : String) (value : Value) (found : fields.lookup key = some value) :
    (key, value) ∈ fields := by
  obtain ⟨before, after, whole, -⟩ := List.lookup_eq_some_iff.mp found
  rw [whole]
  exact List.mem_append_right _ List.mem_cons_self

theorem lookup_of_mem (fields : Fields) (distinct : (fields.map Prod.fst).Nodup) (field : String × Value)
    (member : field ∈ fields) : fields.lookup field.1 = some field.2 := by
  induction fields with
  | nil => cases member
  | cons first rest ih =>
      obtain ⟨fresh, later⟩ := List.nodup_cons.mp distinct
      rw [lookup_cons]
      rcases List.mem_cons.mp member with rfl | inside
      · rw [if_pos rfl]
      · have other : field.1 ≠ first.1 := fun same => fresh (same ▸ List.mem_map_of_mem inside)
        rw [if_neg other, ih later inside]

theorem exists_lookup_iff (fields : Fields) (key : String) :
    (∃ value, fields.lookup key = some value) ↔ key ∈ fields.map Prod.fst := by
  rw [← Option.isSome_iff_exists, List.lookup_isSome_iff, List.mem_map]
  exact exists_congr fun field => and_congr_right fun _ => beq_iff_eq.trans eq_comm

-- With no key twice, as many fields and all keys of the one mean the same keys.
theorem rel_lookup_iff (R : Value → Value → Prop) (fields others : Fields)
    (distinct : (fields.map Prod.fst).Nodup) (distinct' : (others.map Prod.fst).Nodup) :
    (∀ key, Option.Rel R (fields.lookup key) (others.lookup key)) ↔
      fields.length = others.length ∧
        ∀ field ∈ fields, ∃ value, others.lookup field.1 = some value ∧ R field.2 value := by
  constructor
  · intro related
    have keys : ∀ key, key ∈ fields.map Prod.fst ↔ key ∈ others.map Prod.fst := by
      intro key
      have both := related key
      rw [← exists_lookup_iff, ← exists_lookup_iff]
      generalize fields.lookup key = found, others.lookup key = there at *
      cases both <;> simp
    have perm := (List.perm_ext_iff_of_nodup distinct distinct').mpr keys
    refine ⟨by simpa using perm.length_eq, fun field member => ?_⟩
    have own := related field.1
    rw [lookup_of_mem fields distinct field member] at own
    cases found : others.lookup field.1 with
    | none => rw [found] at own; cases own
    | some value =>
        rw [found, Option.rel_some_some] at own
        exact ⟨value, rfl, own⟩
  · rintro ⟨lengths, each⟩ key
    have inside : fields.map Prod.fst ⊆ others.map Prod.fst := by
      intro key member
      obtain ⟨field, own, rfl⟩ := List.mem_map.mp member
      obtain ⟨value, found, -⟩ := each field own
      exact (exists_lookup_iff others field.1).mp ⟨value, found⟩
    have perm := (List.subperm_of_subset distinct inside).perm_of_length_le (by simp [lengths])
    cases found : fields.lookup key with
    | some value =>
        obtain ⟨other, there, related⟩ := each _ (mem_of_lookup fields key value found)
        rw [there]
        exact .some related
    | none =>
        cases there : others.lookup key with
        | none => exact .none
        | some other =>
            have member := (exists_lookup_iff others key).mp ⟨other, there⟩
            obtain ⟨value, own⟩ := (exists_lookup_iff fields key).mpr (perm.mem_iff.mpr member)
            rw [found] at own
            cases own

end Fields

/-! ### The same value -/

namespace Value

/-- Two values are the same JSON value. -/
inductive Same : Value → Value → Prop where
  | null : Same .null .null
  | bool (b : Bool) : Same (.bool b) (.bool b)
  | number {m n : Number} {worth : ℚ} (left : m.worth? = some worth) (right : n.worth? = some worth) :
      Same (.number m) (.number n)
  | text (s : String) : Same (.text s) (.text s)
  | list {items others : List Value} (each : List.Forall₂ Same items others) :
      Same (.list items) (.list others)
  | object {fields others : Fields} (each : ∀ key, Option.Rel Same (fields.lookup key) (others.lookup key)) :
      Same (.object fields) (.object others)

theorem same_number_iff (m n : Number) (finite : m.isFinite = true) :
    Same (.number m) (.number n) ↔ m.worth? = n.worth? := by
  obtain ⟨num, den, -, -, worth⟩ := m.exists_place_of_isFinite finite
  constructor
  · rintro ⟨⟩
    next left right => rw [left, right]
  · exact fun equal => .number worth (equal ▸ worth)

theorem same_list_iff (items others : List Value) :
    Same (.list items) (.list others) ↔ List.Forall₂ Same items others :=
  ⟨fun same => by cases same; assumption, .list⟩

theorem same_object_iff (fields others : Fields) :
    Same (.object fields) (.object others) ↔
      ∀ key, Option.Rel Same (fields.lookup key) (others.lookup key) :=
  ⟨fun same => by cases same; assumption, .object⟩

mutual

/-- The value with every truth value replaced by the number that it counts as. -/
def counted : Value → Value
  | bool b => .int (if b then 1 else 0)
  | list items => list (countedItems items)
  | object fields => object (countedFields fields)
  | value => value

def countedItems : List Value → List Value
  | [] => []
  | item :: rest => counted item :: countedItems rest

def countedFields : List (String × Value) → List (String × Value)
  | [] => []
  | (key, value) :: rest => (key, counted value) :: countedFields rest

end

theorem countedItems_eq_map (items : List Value) : countedItems items = items.map counted := by
  induction items with
  | nil => rfl
  | cons item rest ih => rw [countedItems, ih, List.map_cons]

theorem countedFields_eq_map (fields : Fields) :
    countedFields fields = fields.map fun field => (field.1, counted field.2) := by
  induction fields with
  | nil => rfl
  | cons field rest ih => rw [countedFields, ih, List.map_cons]

theorem same_counted_list_iff (items others : List Value) :
    Same (list items).counted (list others).counted ↔
      List.Forall₂ (fun item other => Same item.counted other.counted) items others := by
  rw [counted, counted, same_list_iff, countedItems_eq_map, countedItems_eq_map, List.forall₂_map_left_iff,
    List.forall₂_map_right_iff]

theorem same_counted_object_iff (fields others : Fields) :
    Same (object fields).counted (object others).counted ↔
      ∀ key, Option.Rel (fun value other => Same value.counted other.counted) (fields.lookup key)
        (others.lookup key) := by
  rw [counted, counted, same_object_iff, countedFields_eq_map, countedFields_eq_map]
  refine forall_congr' fun key => ?_
  rw [Fields.lookup_map, Fields.lookup_map]
  cases fields.lookup key <;> cases others.lookup key <;> simp

/-! ### Equality -/

theorem equalItems_iff (items others : List Value) :
    equalItems items others = true ↔ List.Forall₂ (fun item other => item.equal other = true) items others := by
  induction items generalizing others with
  | nil => cases others <;> simp [equalItems]
  | cons item rest ih => cases others <;> simp [equalItems, ih]

theorem equalFields_iff (fields others : Fields) :
    equalFields fields others = true ↔
      ∀ field ∈ fields, ∃ value, others.lookup field.1 = some value ∧ field.2.equal value = true := by
  induction fields with
  | nil => simp [equalFields]
  | cons field rest ih =>
      rw [equalFields, Bool.and_eq_true, ih, List.forall_mem_cons]
      refine and_congr_left fun _ => ?_
      cases others.lookup field.1 <;> simp

/-- Numbers and truth values are compared by what they count as. -/
theorem equal_iff_of_quantities (left right : Value) (m n : Number) (first : left.quantity? = some m)
    (second : right.quantity? = some n) (finite : m.isFinite = true) (finite' : n.isFinite = true) :
    left.equal right = true ↔ Same left.counted right.counted := by
  have compared : left.equal right = m.same n := by
    cases left <;> cases first <;> cases right <;> cases second <;> rfl
  have number : ∀ value : Value, ∀ k, value.quantity? = some k → value.counted = .number k := by
    intro value k own
    cases value <;> cases own <;> rfl
  rw [compared, number left m first, number right n second, same_number_iff m n finite,
    Number.same_iff_worth m n finite finite']

theorem forall₂_congr_of_mem {α β : Type} {R S : α → β → Prop} (xs : List α) (ys : List β)
    (same : ∀ x ∈ xs, ∀ y ∈ ys, (R x y ↔ S x y)) : List.Forall₂ R xs ys ↔ List.Forall₂ S xs ys := by
  rw [List.forall₂_iff_zip, List.forall₂_iff_zip]
  refine and_congr_right fun _ => forall_congr' fun x => forall_congr' fun y => imp_congr_right fun pair => ?_
  obtain ⟨left, right⟩ := List.of_mem_zip pair
  exact same x left y right

/-- Two JSON values are equal just when they are the same once truth values are numbers. -/
theorem equal_iff (left right : Value) (plain : left.IsPlain) (plain' : right.IsPlain) :
    left.equal right = true ↔ Same left.counted right.counted := by
  induction left using Value.induction generalizing right with
  | null =>
      cases right with
      | null => exact iff_of_true rfl .null
      | _ => exact iff_of_false (by simp [equal, equalLeaf, quantity?]) (fun same => by cases same)
  | bool b =>
      cases right with
      | bool c => exact equal_iff_of_quantities _ _ _ _ rfl rfl rfl rfl
      | number n => exact equal_iff_of_quantities _ _ _ _ rfl rfl rfl (n.isFinite_of_isHeld plain')
      | _ => exact iff_of_false (by simp [equal, equalLeaf, quantity?]) (fun same => by cases same)
  | number m =>
      have finite := m.isFinite_of_isHeld plain
      cases right with
      | bool c => exact equal_iff_of_quantities _ _ _ _ rfl rfl finite rfl
      | number n => exact equal_iff_of_quantities _ _ _ _ rfl rfl finite (n.isFinite_of_isHeld plain')
      | _ => exact iff_of_false (by simp [equal, equalLeaf, quantity?]) (fun same => by cases same)
  | text s =>
      cases right with
      | text t =>
          have compared : (text s).equal (text t) = (s == t) := rfl
          rw [compared, beq_iff_eq]
          exact ⟨fun equal => equal ▸ .text s, fun same => by cases same; rfl⟩
      | _ => exact iff_of_false (by simp [equal, equalLeaf, quantity?]) (fun same => by cases same)
  | date d => exact absurd plain id
  | moment m => exact absurd plain id
  | list items ih =>
      cases right with
      | list others =>
          have inside := (isPlain_list items).mp plain
          have inside' := (isPlain_list others).mp plain'
          rw [equal, equalItems_iff, same_counted_list_iff]
          exact forall₂_congr_of_mem items others fun item member other member' =>
            ih item member other (inside item member) (inside' other member')
      | _ => exact iff_of_false (by simp [equal, equalLeaf, quantity?]) (fun same => by cases same)
  | object fields ih =>
      cases right with
      | object others =>
          obtain ⟨distinct, inside⟩ := (isPlain_object fields).mp plain
          obtain ⟨distinct', inside'⟩ := (isPlain_object others).mp plain'
          rw [equal, Bool.and_eq_true, beq_iff_eq, equalFields_iff, same_counted_object_iff,
            Fields.rel_lookup_iff _ fields others distinct distinct']
          refine and_congr_right fun _ => forall₂_congr fun field member => exists_congr fun value =>
            and_congr_right fun found => ?_
          exact ih field member value (inside field member)
            (inside' _ (Fields.mem_of_lookup others field.1 value found))
      | _ => exact iff_of_false (by simp [equal, equalLeaf, quantity?]) (fun same => by cases same)

/-! ### Truth values beside numbers -/

/-- At some place one value has a truth value and the other a number. -/
inductive Mixes : Value → Value → Prop where
  | bool (b : Bool) (n : Number) : Mixes (.bool b) (.number n)
  | number (n : Number) (b : Bool) : Mixes (.number n) (.bool b)
  | item {items others : List Value} {left right : Value} (pair : (left, right) ∈ items.zip others)
      (inside : Mixes left right) : Mixes (.list items) (.list others)
  | field {fields others : Fields} {key : String} {left right : Value} (first : fields.lookup key = some left)
      (second : others.lookup key = some right) (inside : Mixes left right) :
      Mixes (.object fields) (.object others)

theorem mixes_list_iff (items others : List Value) :
    Mixes (.list items) (.list others) ↔ ∃ pair ∈ items.zip others, pair.1.Mixes pair.2 :=
  ⟨fun | .item pair inside => ⟨_, pair, inside⟩, fun ⟨_, pair, inside⟩ => .item pair inside⟩

theorem mixes_object_iff (fields others : Fields) :
    Mixes (.object fields) (.object others) ↔
      ∃ key left right, fields.lookup key = some left ∧ others.lookup key = some right ∧ left.Mixes right :=
  ⟨fun | .field first second inside => ⟨_, _, _, first, second, inside⟩,
    fun ⟨_, _, _, first, second, inside⟩ => .field first second inside⟩

/-- Values are the same when they are so with truth values as numbers, and no truth value meets a number. -/
theorem same_iff (left right : Value) : Same left right ↔ Same left.counted right.counted ∧ ¬ Mixes left right := by
  induction left using Value.induction generalizing right with
  | bool b =>
      cases right with
      | bool c =>
          have counts : Same (bool b).counted (bool c).counted ↔ b = c := by
            rw [counted, counted, int, int, same_number_iff _ _ rfl]
            cases b <;> cases c <;> simp [Number.worth?]
          rw [counts]
          constructor
          · rintro ⟨⟩
            exact ⟨rfl, fun mixes => by cases mixes⟩
          · rintro ⟨rfl, -⟩
            exact .bool b
      | number n => exact iff_of_false (fun same => by cases same) fun both => both.2 (.bool b n)
      | _ => exact iff_of_false (fun same => by cases same) fun both => by cases both.1
  | number m =>
      cases right with
      | bool c => exact iff_of_false (fun same => by cases same) fun both => both.2 (.number m c)
      | number n => exact (and_iff_left fun mixes => by cases mixes).symm
      | _ => exact iff_of_false (fun same => by cases same) fun both => by cases both.1
  | list items ih =>
      cases right with
      | list others =>
          rw [same_list_iff, same_counted_list_iff, mixes_list_iff,
            forall₂_congr_of_mem items others fun item member other _ => ih item member other,
            List.forall₂_iff_zip, List.forall₂_iff_zip]
          push Not
          exact ⟨fun ⟨lengths, each⟩ => ⟨⟨lengths, fun pair => (each pair).1⟩, fun pair member => (each member).2⟩,
            fun ⟨⟨lengths, each⟩, apart⟩ => ⟨lengths, fun pair => ⟨each pair, apart _ pair⟩⟩⟩
      | _ => exact iff_of_false (fun same => by cases same) fun both => by cases both.1
  | object fields ih =>
      cases right with
      | object others =>
          rw [same_object_iff, same_counted_object_iff, mixes_object_iff]
          push Not
          rw [← forall_and]
          refine forall_congr' fun key => ?_
          cases found : fields.lookup key with
          | none => cases others.lookup key <;> simp
          | some value =>
              have one := ih _ (Fields.mem_of_lookup fields key value found)
              cases there : others.lookup key with
              | none => simp
              | some other => simp [one other]
      | _ => exact iff_of_false (fun same => by cases same) fun both => by cases both.1
  | _ =>
      rw [and_iff_left fun mixes => by cases mixes]
      cases right with
      | bool b => exact iff_of_false (fun same => by cases same) fun same => by cases same
      | list others => exact iff_of_false (fun same => by cases same) fun same => by cases same
      | object others => exact iff_of_false (fun same => by cases same) fun same => by cases same
      | _ => rfl

end Value

end ReportCompiler
