import Mathlib.Data.List.Basic
import ReportCompiler.Value.Basic

/-!
Looking up fields: what setting one field does to the others, and objects that agree on all fields but
some.
-/

namespace ReportCompiler

namespace Fields

section Lookup

variable {β : Type}

theorem lookup_cons (field : String × β) (rest : List (String × β)) (name : String) :
    List.lookup name (field :: rest) =
      if name = field.1 then some field.2 else rest.lookup name := by
  obtain ⟨key, value⟩ := field
  by_cases same : name = key
  · simp [same]
  · have other : (name == key) = false := by simp [same]
    simp [List.lookup_cons, other, same]

theorem lookup_replace (fields : List (String × β)) (key name : String) (value : β) :
    (fields.map fun field => if field.1 == key then (key, value) else field).lookup name =
      if name = key then (fields.lookup key).map fun _ => value else fields.lookup name := by
  induction fields with
  | nil => simp
  | cons field rest ih =>
      rw [List.map_cons, lookup_cons, lookup_cons, lookup_cons, ih]
      by_cases here : field.1 = key
      · by_cases same : name = key <;> simp [here, same]
      · by_cases asked : name = field.1
        · simp [here, asked]
        · simp [here, asked, Ne.symm here]

theorem lookup_eq_none_of_not_mem (fields : List (String × β)) (name : String)
    (absent : name ∉ fields.map Prod.fst) : fields.lookup name = none := by
  rw [List.lookup_eq_none_iff]
  intro field listed
  exact bne_iff_ne.mpr (ne_of_mem_of_not_mem (List.mem_map_of_mem listed) absent).symm

/-- Under distinct keys, the order of the fields does not matter to a key. -/
theorem lookup_reverse (fields : List (String × β)) (distinct : (fields.map Prod.fst).Nodup) (name : String) :
    fields.reverse.lookup name = fields.lookup name := by
  induction fields with
  | nil => rfl
  | cons field rest ih =>
      obtain ⟨fresh, later⟩ := List.nodup_cons.mp distinct
      rw [List.reverse_cons, List.lookup_append, ih later, lookup_cons, lookup_cons, List.lookup_nil]
      by_cases asked : name = field.1
      · rw [if_pos asked, if_pos asked, asked, lookup_eq_none_of_not_mem rest _ fresh, Option.none_or]
      · rw [if_neg asked, if_neg asked, Option.or_none]

/-- Under distinct keys, the fields are what their keys find. -/
theorem eq_filterMap_lookup (fields : List (String × β)) (distinct : (fields.map Prod.fst).Nodup) :
    fields = (fields.map Prod.fst).filterMap fun name => (fields.lookup name).map fun value => (name, value) := by
  induction fields with
  | nil => rfl
  | cons field rest ih =>
      obtain ⟨fresh, later⟩ := List.nodup_cons.mp distinct
      have others : ∀ name ∈ rest.map Prod.fst,
          ((List.lookup name (field :: rest)).map fun value => (name, value)) =
            (rest.lookup name).map fun value => (name, value) := by
        intro name listed
        rw [lookup_cons, if_neg (ne_of_mem_of_not_mem listed fresh)]
      rw [List.map_cons, List.filterMap_cons, lookup_cons, if_pos rfl, List.filterMap_congr others, ← ih later]
      rfl

end Lookup

/-! ### Setting a field -/

theorem lookup_set (fields : Fields) (key name : String) (value : Value) :
    (fields.set key value).lookup name = if name = key then some value else fields.lookup name := by
  unfold set has
  cases found : fields.lookup key with
  | some old => rw [Option.isSome_some, if_pos rfl, lookup_replace, found, Option.map_some]
  | none =>
      rw [Option.isSome_none, if_neg Bool.false_ne_true, List.lookup_append, lookup_cons, List.lookup_nil]
      by_cases same : name = key
      · rw [if_pos same, if_pos same, same, found, Option.none_or]
      · rw [if_neg same, if_neg same, Option.or_none]

theorem get_set (fields : Fields) (key name : String) (value : Value) :
    (fields.set key value).get name = if name = key then value else fields.get name := by
  rw [get, lookup_set]
  split <;> rfl

theorem get_set_self (fields : Fields) (key : String) (value : Value) :
    (fields.set key value).get key = value := by
  rw [get_set, if_pos rfl]

theorem get_set_of_ne (fields : Fields) (key name : String) (value : Value)
    (different : name ≠ key) : (fields.set key value).get name = fields.get name := by
  rw [get_set, if_neg different]

/-! ### Nulls -/

theorem get_cons (field : String × Value) (rest : Fields) (name : String) :
    get (field :: rest) name = if name = field.1 then field.2 else rest.get name := by
  rw [get, lookup_cons]
  split <;> rfl

/-- A value that is no null comes before whatever is appended. -/
theorem get_withoutNulls_append (fields rest : Fields) (name : String)
    (stated : (fields.get name).isNull = false) :
    get (fields.withoutNulls ++ rest) name = fields.get name := by
  induction fields with
  | nil => cases stated
  | cons field others ih =>
      rw [get_cons] at stated ⊢
      by_cases asked : name = field.1
      · rw [if_pos asked] at stated ⊢
        simp [withoutNulls, stated, get_cons, asked]
      · rw [if_neg asked] at stated ⊢
        rw [← ih stated]
        cases null : field.2.isNull <;> simp [withoutNulls, null, get_cons, asked]

theorem get_of_not_mem (fields : Fields) (name : String) (absent : name ∉ fields.map Prod.fst) :
    fields.get name = .null := by
  induction fields with
  | nil => rfl
  | cons field rest ih =>
      rw [List.map_cons, List.mem_cons, not_or] at absent
      rw [get_cons, if_neg absent.1, ih absent.2]

theorem get_append (first second : Fields) (name : String) :
    get (first ++ second) name =
      if name ∈ first.map Prod.fst then first.get name else second.get name := by
  induction first with
  | nil => rfl
  | cons field rest ih =>
      rw [List.cons_append, get_cons, get_cons, ih, List.map_cons]
      by_cases asked : name = field.1
      · simp [asked]
      · by_cases later : name ∈ rest.map Prod.fst <;> simp [asked, later]

/-- The fields without the nulls under the chosen names. -/
def withoutNullsUnder (chosen : String → Bool) (fields : Fields) : Fields :=
  fields.filter fun field => !(chosen field.1 && field.2.isNull)

-- A null that is left out is null all the same, unless the key comes again.
theorem get_withoutNullsUnder (chosen : String → Bool) (fields : Fields) (name : String)
    (distinct : (fields.map Prod.fst).Nodup) :
    (fields.withoutNullsUnder chosen).get name = fields.get name := by
  induction fields with
  | nil => rfl
  | cons field rest ih =>
      obtain ⟨fresh, others⟩ := List.nodup_cons.mp distinct
      rw [get_cons]
      cases gone : (chosen field.1 && field.2.isNull) with
      | false =>
          have kept : withoutNullsUnder chosen (field :: rest) =
              field :: withoutNullsUnder chosen rest := by
            simp only [withoutNullsUnder, List.filter_cons, gone, Bool.not_false, if_true]
          rw [kept, get_cons, ih others]
      | true =>
          have dropped : withoutNullsUnder chosen (field :: rest) = withoutNullsUnder chosen rest := by
            simp only [withoutNullsUnder, List.filter_cons, gone, Bool.not_true, Bool.false_eq_true,
              if_false]
          rw [dropped, ih others]
          split
          · next asked =>
              rw [get_of_not_mem rest name (asked ▸ fresh)]
              have null := (Bool.and_eq_true_iff.mp gone).2
              cases value : field.2 with
              | null => rfl
              | _ => rw [value] at null; cases null
          · rfl

theorem get_withoutNulls (fields : Fields) (name : String)
    (distinct : (fields.map Prod.fst).Nodup) : fields.withoutNulls.get name = fields.get name :=
  get_withoutNullsUnder (fun _ => true) fields name distinct

theorem nodup_withoutNullsUnder (chosen : String → Bool) (fields : Fields)
    (distinct : (fields.map Prod.fst).Nodup) :
    ((fields.withoutNullsUnder chosen).map Prod.fst).Nodup :=
  distinct.sublist (List.filter_sublist.map Prod.fst)

/-! ### Leaving fields out -/

/-- The fields under other names than these. -/
def without (names : List String) (fields : Fields) : Fields :=
  fields.filter fun field => !names.contains field.1

theorem without_append (names : List String) (first second : Fields) :
    without names (first ++ second) = without names first ++ without names second :=
  List.filter_append first second

theorem without_withoutNulls (names : List String) (fields : Fields) :
    without names fields.withoutNulls = (without names fields).withoutNulls := by
  simp only [without, withoutNulls, List.filter_filter]
  exact List.filter_congr fun field _ => Bool.and_comm _ _

theorem without_set (names : List String) (fields : Fields) (key : String) (value : Value)
    (known : key ∈ names) : without names (fields.set key value) = without names fields := by
  -- Where the key stands already, only fields under it are replaced, and they are left out.
  have replaced : without names
      (fields.map fun field => if field.1 == key then (key, value) else field) =
        without names fields := by
    unfold without
    induction fields with
    | nil => rfl
    | cons field rest ih =>
        by_cases here : field.1 = key
        · simpa [here, known] using ih
        · simp only [List.map_cons, beq_iff_eq, here, if_false, List.filter_cons] at ih ⊢
          rw [ih]
  unfold set
  split
  · exact replaced
  · simp [without, known]

theorem get_without (names : List String) (fields : Fields) (name : String) (other : name ∉ names) :
    (without names fields).get name = fields.get name := by
  have looked : (without names fields).lookup name = fields.lookup name := by
    induction fields with
    | nil => rfl
    | cons field rest ih =>
        unfold without at ih ⊢
        rw [lookup_cons, ← ih]
        by_cases asked : name = field.1
        · simp [asked ▸ other, lookup_cons, asked]
        · by_cases left : field.1 ∈ names <;> simp [left, lookup_cons, asked]
  rw [get, looked, get]

/-! ### Fields that answer alike -/

theorem nodup_set (fields : Fields) (key : String) (value : Value)
    (distinct : (fields.map Prod.fst).Nodup) : ((fields.set key value).map Prod.fst).Nodup := by
  unfold set
  split
  · have names : (fields.map fun field => if field.1 == key then (key, value) else field).map Prod.fst =
        fields.map Prod.fst := by
      rw [List.map_map]
      refine List.map_congr_left fun field _ => ?_
      by_cases here : field.1 = key <;> simp [here]
    rwa [names]
  · next absent =>
      have fresh : key ∉ fields.map Prod.fst := by
        intro member
        obtain ⟨field, inside, rfl⟩ := List.mem_map.mp member
        exact absent (List.lookup_isSome_iff.mpr ⟨field, inside, beq_self_eq_true field.1⟩)
      rw [List.map_append]
      refine List.nodup_append.mpr ⟨distinct, by simp, ?_⟩
      intro name member other single
      rw [List.mem_singleton.mp single]
      rintro rfl
      exact fresh member

-- With the null gone, and no other field of its name, whatever is appended answers.
theorem get_withoutNulls_append_of_null (fields rest : Fields) (name : String)
    (distinct : (fields.map Prod.fst).Nodup) (null : (fields.get name).isNull = true) :
    get (fields.withoutNulls ++ rest) name = rest.get name := by
  induction fields with
  | nil => rfl
  | cons field others ih =>
      obtain ⟨fresh, later⟩ := List.nodup_cons.mp distinct
      rw [get_cons] at null
      by_cases asked : name = field.1
      · rw [if_pos asked] at null
        have again : (Fields.get others name).isNull = true := by
          rw [get_of_not_mem others name (asked ▸ fresh)]
          rfl
        rw [← ih later again]
        simp [withoutNulls, null]
      · rw [if_neg asked] at null
        rw [← ih later null]
        cases gone : field.2.isNull <;> simp [withoutNulls, gone, get_cons, asked]

/-- Fields that answer every lookup alike, with no name standing twice. A missing field answers as a null
does, and the order of the fields is of no account. -/
structure Alike (first second : Fields) : Prop where
  distinct : (first.map Prod.fst).Nodup
  otherDistinct : (second.map Prod.fst).Nodup
  get_eq : second.get = first.get

theorem alike_withoutNullsUnder (chosen : String → Bool) (fields : Fields)
    (distinct : (fields.map Prod.fst).Nodup) : Alike fields (fields.withoutNullsUnder chosen) where
  distinct := distinct
  otherDistinct := nodup_withoutNullsUnder chosen fields distinct
  get_eq := funext fun name => get_withoutNullsUnder chosen fields name distinct

namespace Alike

variable {first second : Fields} (alike : Alike first second)
include alike

theorem set (key : String) (value : Value) : Alike (first.set key value) (second.set key value) where
  distinct := nodup_set first key value alike.distinct
  otherDistinct := nodup_set second key value alike.otherDistinct
  get_eq := funext fun name => by rw [get_set, get_set, alike.get_eq]

theorem withoutNulls_append (rest : Fields) :
    get (second.withoutNulls ++ rest) = get (first.withoutNulls ++ rest) := by
  funext name
  have same : second.get name = first.get name := congrFun alike.get_eq name
  cases null : (first.get name).isNull with
  | false =>
      rw [get_withoutNulls_append first rest name null,
        get_withoutNulls_append second rest name (by rw [same, null]), same]
  | true =>
      rw [get_withoutNulls_append_of_null first rest name alike.distinct null,
        get_withoutNulls_append_of_null second rest name alike.otherDistinct (by rw [same, null])]

end Alike

end Fields

end ReportCompiler
