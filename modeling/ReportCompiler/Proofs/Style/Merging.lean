import Mathlib.Data.List.Induction
import ReportCompiler.Proofs.FirstOccurrences
import ReportCompiler.Proofs.Text.Case
import ReportCompiler.Proofs.Text.Cutting
import ReportCompiler.Proofs.Text.Trimming
import ReportCompiler.Proofs.Value.Fields
import ReportCompiler.Style.Basic

/-!
Merged styles. A merge has every name once, where it was first given, with the value given last, and these two facts
leave no choice: merging parts first, or merging again, comes to the same. What is written after a merge is read as
the declarations that were merged, so the same holds of the texts.
-/

namespace ReportCompiler

open ReportCompiler.Text

namespace Style

/-! ### Merging declarations -/

/-- The names that are given, each once and in the order in which they are first given, with their last values. -/
structure IsMerge (given merged : List Declaration) : Prop where
  names : merged.map Prod.fst = (given.map Prod.fst).eraseDups
  values : ∀ name, merged.lookup name = given.reverse.lookup name

theorem map_fst_declare (known : List Declaration) (given : Declaration) :
    (declare known given).map Prod.fst =
      if given.1 ∈ known.map Prod.fst then known.map Prod.fst else known.map Prod.fst ++ [given.1] := by
  have listed : (known.any fun declaration => declaration.1 == given.1) = true ↔ given.1 ∈ known.map Prod.fst := by
    simp
  have kept : ∀ declaration : Declaration,
      (if declaration.1 == given.1 then given else declaration).1 = declaration.1 := by
    intro declaration
    split
    · next same => exact (beq_iff_eq.mp same).symm
    · rfl
  rw [declare]
  by_cases old : given.1 ∈ known.map Prod.fst
  · rw [if_pos (listed.mpr old), if_pos old, List.map_map]
    exact List.map_congr_left fun declaration _ => kept declaration
  · rw [if_neg fun any => old (listed.mp any), if_neg old, List.map_append, List.map_singleton]

theorem lookup_declare (known : List Declaration) (given : Declaration) (name : String) :
    (declare known given).lookup name = if name = given.1 then some given.2 else known.lookup name := by
  have listed : (known.any fun declaration => declaration.1 == given.1) = true ↔ (known.lookup given.1).isSome := by
    rw [List.lookup_isSome_iff, List.any_eq_true]
    exact exists_congr fun declaration => and_congr_right fun _ => by rw [beq_iff_eq, beq_iff_eq, eq_comm]
  rw [declare]
  cases found : known.lookup given.1 with
  | some old =>
      rw [if_pos (listed.mpr (by rw [found]; rfl)), Fields.lookup_replace known given.1 name given.2, found]
      rfl
  | none =>
      have fresh : ¬ (known.any fun declaration => declaration.1 == given.1) = true := by
        rw [listed, found]
        exact Bool.false_ne_true
      rw [if_neg fresh, List.lookup_append, Fields.lookup_cons]
      by_cases asked : name = given.1
      · simp [asked, found]
      · simp [asked]

theorem merge_append_singleton (given : List Declaration) (last : Declaration) :
    merge (given ++ [last]) = declare (merge given) last := List.foldl_concat ..

theorem mem_of_mem_declare (known : List Declaration) (given declaration : Declaration)
    (member : declaration ∈ declare known given) : declaration ∈ known ∨ declaration = given := by
  rw [declare] at member
  split at member
  · obtain ⟨old, listed, same⟩ := List.mem_map.mp member
    split at same
    · exact Or.inr same.symm
    · exact Or.inl (same ▸ listed)
  · exact (List.mem_append.mp member).imp_right List.mem_singleton.mp

theorem mem_of_mem_merge (given : List Declaration) (declaration : Declaration)
    (member : declaration ∈ merge given) : declaration ∈ given := by
  induction given using List.reverseRecOn with
  | nil => cases member
  | append_singleton given last ih =>
      rw [merge_append_singleton] at member
      rw [List.mem_append, List.mem_singleton]
      exact (mem_of_mem_declare _ last declaration member).imp_left ih

-- By induction on what is given, the last declaration last: it finds its name among the earlier ones or is new.
theorem merge_isMerge (given : List Declaration) : IsMerge given (merge given) := by
  induction given using List.reverseRecOn with
  | nil => exact ⟨rfl, fun _ => rfl⟩
  | append_singleton given last ih =>
      constructor
      · rw [merge_append_singleton, map_fst_declare, ih.names, List.map_append, List.map_singleton,
          List.eraseDups_append]
        by_cases old : last.1 ∈ given.map Prod.fst
        · rw [if_pos (List.mem_eraseDups.mpr old)]
          simp [List.removeAll, old]
        · rw [if_neg fun listed => old (List.mem_eraseDups.mp listed)]
          simp [List.removeAll, old, List.eraseDups_cons]
      · intro name
        rw [merge_append_singleton, lookup_declare, ih.values, List.reverse_append, List.reverse_singleton,
          List.singleton_append, Fields.lookup_cons]

theorem IsMerge.distinct {given merged : List Declaration} (isMerge : IsMerge given merged) :
    (merged.map Prod.fst).Nodup := by
  rw [isMerge.names]
  exact nodup_eraseDups _

/-- There is only one way to merge. -/
theorem IsMerge.unique {given first second : List Declaration} (one : IsMerge given first)
    (two : IsMerge given second) : first = second := by
  rw [Fields.eq_filterMap_lookup first one.distinct, Fields.eq_filterMap_lookup second two.distinct, one.names,
    two.names]
  simp only [one.values, two.values]

theorem lookup_flatMap_merge (groups : List (List Declaration)) (name : String) :
    (groups.flatMap merge).reverse.lookup name = groups.flatten.reverse.lookup name := by
  induction groups with
  | nil => rfl
  | cons group rest ih =>
      have own : (merge group).reverse.lookup name = group.reverse.lookup name := by
        rw [Fields.lookup_reverse _ (merge_isMerge group).distinct, (merge_isMerge group).values]
      rw [List.flatMap_cons, List.flatten_cons, List.reverse_append, List.reverse_append, List.lookup_append,
        List.lookup_append, ih, own]

/-- Groups that are merged first make no difference. -/
theorem merge_flatMap_merge (groups : List (List Declaration)) :
    merge (groups.flatMap merge) = merge groups.flatten := by
  apply (merge_isMerge _).unique
  constructor
  · have each : ∀ group : List Declaration, (merge group).map Prod.fst = (group.map Prod.fst).eraseDups :=
      fun group => (merge_isMerge group).names
    rw [(merge_isMerge _).names, List.map_flatten, List.map_flatMap]
    simp only [each]
    rw [eraseDups_flatMap_eraseDups, List.flatMap_def]
  · intro name
    rw [(merge_isMerge _).values, lookup_flatMap_merge]

/-- What is given twice is given once. -/
theorem merge_append_self (given : List Declaration) : merge (given ++ given) = merge given := by
  apply (merge_isMerge _).unique
  have merged := merge_isMerge given
  constructor
  · have again : (given.map Prod.fst).removeAll (given.map Prod.fst) = [] := by simp [List.removeAll]
    rw [merged.names, List.map_append, List.eraseDups_append, again, List.eraseDups_nil, List.append_nil]
  · intro name
    rw [merged.values, List.reverse_append, List.lookup_append, Option.or_self]

/-! ### Reading declarations -/

/-- The piece says that a property has a value: what precedes its first colon, unless it is blank, is the name, and
what follows that colon is the value. -/
def Declares (piece : String) (declaration : Declaration) : Prop :=
  ∃ before after : String, piece = before ++ ":" ++ after ∧ ':' ∉ before.toList ∧ isBlankText before = false ∧
    declaration = (lower (trim before), trim after)

theorem declaration?_of_colon (before after : String) (first : ':' ∉ before.toList) :
    declaration? (before ++ ":" ++ after) =
      if isBlankText before then none else some (lower (trim before), trim after) := by
  have trimmed : trimChars (before ++ ":" ++ after).toList =
      trimLeft before.toList ++ ':' :: trimRight after.toList := by
    rw [String.toList_append, String.toList_append, List.append_assoc]
    exact trimChars_append_cons before.toList after.toList ':' (by decide)
  have inside : ∀ c ∈ trimLeft before.toList, (c != ':') = true := by
    intro c member
    exact bne_iff_ne.mpr (ne_of_mem_of_not_mem ((List.dropWhile_suffix isBlank).subset member) first)
  have ends : ∀ c ∈ (':' :: trimRight after.toList).head?, (c != ':') = false := by simp
  have blank : (trimLeft before.toList).isEmpty = isBlankText before := by
    rw [Bool.eq_iff_iff, List.isEmpty_iff, trimLeft_eq_nil_iff, isBlankText, List.all_eq_true]
  simp only [declaration?, trimmed, takeWhile_run _ _ _ inside ends, dropWhile_run _ _ _ inside ends, blank,
    trimChars_trimLeft, trimChars_trimRight]
  rfl

theorem declaration?_of_no_colon (piece : String) (absent : ':' ∉ piece.toList) : declaration? piece = none := by
  have none : (trimChars piece.toList).dropWhile (· != ':') = [] := by
    rw [List.dropWhile_eq_nil_iff]
    intro c member
    exact bne_iff_ne.mpr (ne_of_mem_of_not_mem ((isInfix_trimChars _).subset member) absent)
  rw [declaration?]
  simp only [none]

theorem declaration?_eq_some_iff (piece : String) (declaration : Declaration) :
    declaration? piece = some declaration ↔ Declares piece declaration := by
  constructor
  · intro read
    by_cases colon : ':' ∈ piece.toList
    · obtain ⟨before, after, whole, first⟩ := List.eq_append_cons_of_mem colon
      have same : piece = String.ofList before ++ ":" ++ String.ofList after := by
        rw [← String.toList_inj, whole]
        simp
      have early : ':' ∉ (String.ofList before).toList := by rwa [String.toList_ofList]
      rw [same, declaration?_of_colon _ _ early] at read
      obtain ⟨solid, made⟩ := Option.ite_none_left_eq_some.mp read
      exact ⟨_, _, same, early, Bool.eq_false_iff.mpr solid, (Option.some.inj made).symm⟩
    · rw [declaration?_of_no_colon piece colon] at read
      cases read
  · rintro ⟨before, after, rfl, first, solid, rfl⟩
    rw [declaration?_of_colon before after first, solid, if_neg Bool.false_ne_true]

/-! ### Writing declarations -/

/-- A declaration that is read as it is written. -/
structure IsSettled (declaration : Declaration) : Prop where
  name_solid : isBlankText declaration.1 = false
  name_trim : trim declaration.1 = declaration.1
  name_lower : lower declaration.1 = declaration.1
  name_colon : ':' ∉ declaration.1.toList
  name_semicolon : ';' ∉ declaration.1.toList
  value_trim : trim declaration.2 = declaration.2
  value_semicolon : ';' ∉ declaration.2.toList

theorem isSettled_of_declares (piece : String) (declaration : Declaration) (within : ';' ∉ piece.toList)
    (declares : Declares piece declaration) : IsSettled declaration := by
  obtain ⟨before, after, rfl, first, solid, rfl⟩ := declares
  simp only [String.toList_append, List.mem_append, not_or] at within
  have kept (mark : Char) (marked : isMark mark = true) (absent : mark ∉ before.toList) :
      mark ∉ (lower (trim before)).toList := by
    rw [lower, trim, String.toList_ofList, String.toList_ofList]
    exact fun member => absent ((isInfix_trimChars _).subset (mem_of_mem_lowerFrom [] _ mark marked member))
  exact {
    name_solid := by rw [isBlankText_lower, isBlankText_trim, solid]
    name_trim := trim_lower_trim before
    name_lower := lower_lower _
    name_colon := kept ':' (by decide) first
    name_semicolon := kept ';' (by decide) within.1.1
    value_trim := trim_trim after
    value_semicolon := by
      change ';' ∉ (trim after).toList
      rw [trim, String.toList_ofList]
      exact fun member => within.2 ((isInfix_trimChars _).subset member) }

theorem isSettled_of_mem_declarations (text : String) (declaration : Declaration)
    (listed : declaration ∈ declarations text) : IsSettled declaration := by
  obtain ⟨piece, member, read⟩ := List.mem_filterMap.mp listed
  exact isSettled_of_declares piece declaration (not_mem_of_mem_split ';' text piece member)
    ((declaration?_eq_some_iff piece declaration).mp read)

/-- The declaration as it is written. -/
def written (declaration : Declaration) : String := declaration.1 ++ ": " ++ declaration.2

theorem declares_written (blanks : String) (blank : isBlankText blanks = true) (declaration : Declaration)
    (settled : IsSettled declaration) : Declares (blanks ++ written declaration) declaration := by
  refine ⟨blanks ++ declaration.1, " " ++ declaration.2, ?_, ?_, ?_, ?_⟩
  · rw [← String.toList_inj]
    simp [written]
  · rw [String.toList_append, List.mem_append, not_or]
    refine ⟨fun member => ?_, settled.name_colon⟩
    exact absurd (List.all_eq_true.mp blank ':' member) (by decide)
  · rw [isBlankText_append, settled.name_solid, Bool.and_false]
  · rw [trim_append_of_blank blanks _ blank, trim_append_of_blank " " _ (by decide), settled.name_trim,
      settled.name_lower, settled.value_trim]

theorem semicolon_not_mem_written (declaration : Declaration) (settled : IsSettled declaration) :
    ';' ∉ (written declaration).toList := by
  rw [written, String.toList_append, String.toList_append, List.mem_append, List.mem_append, not_or, not_or]
  exact ⟨⟨settled.name_semicolon, by decide⟩, settled.value_semicolon⟩

/-- Settled declarations are read back from their text. -/
theorem declarations_ofDeclarations (merged : List Declaration) (settled : ∀ d ∈ merged, IsSettled d) :
    declarations (ofDeclarations merged) = merged := by
  cases merged with
  | nil => rfl
  | cons first rest =>
      obtain ⟨head, later⟩ := List.forall_mem_cons.mp settled
      have apart : ∀ part ∈ written first :: rest.map written, ';' ∉ part.toList :=
        List.forall_mem_cons.mpr ⟨semicolon_not_mem_written first head,
          List.forall_mem_map.mpr fun d member => semicolon_not_mem_written d (later d member)⟩
      have one (blanks : String) (blank : isBlankText blanks = true) (d : Declaration) (known : IsSettled d) :
          declaration? (blanks ++ written d) = some d :=
        (declaration?_eq_some_iff _ d).mpr (declares_written blanks blank d known)
      have joined : ofDeclarations (first :: rest) =
          join (String.ofList (';' :: [' '])) (written first :: rest.map written) := rfl
      have others : ∀ d ∈ rest, declaration? (String.ofList ([' '] ++ (written d).toList)) = some d := by
        intro d member
        have spaced : String.ofList ([' '] ++ (written d).toList) = " " ++ written d := by
          rw [String.ofList_append, String.ofList_toList]
        rw [spaced, one " " (by decide) d (later d member)]
      have tail : (rest.filterMap fun d => declaration? (String.ofList ([' '] ++ (written d).toList))) = rest := by
        rw [List.filterMap_congr others, List.filterMap_some]
      have begun := one "" (by decide) first head
      rw [String.empty_append] at begun
      rw [declarations, joined, split_join ';' [' '] _ _ (by decide) apart,
        List.filterMap_cons_some begun, List.map_map, List.filterMap_map]
      simp only [Function.comp_def, tail]

/-! ### Merging texts -/

theorem declarations_combine (parts : List String) :
    declarations (combine parts) = merge (parts.flatMap declarations) := by
  rw [combine, declarations_ofDeclarations]
  intro declaration member
  obtain ⟨part, _, listed⟩ := List.mem_flatMap.mp (mem_of_mem_merge _ declaration member)
  exact isSettled_of_mem_declarations part declaration listed

/-- Parts that are combined first make no difference. -/
theorem combine_map_combine (groups : List (List String)) :
    combine (groups.map combine) = combine groups.flatten := by
  have each : (groups.map combine).flatMap declarations =
      (groups.map fun group => group.flatMap declarations).flatMap merge := by
    rw [List.flatMap_map, List.flatMap_map]
    exact List.flatMap_congr fun group _ => declarations_combine group
  rw [combine, each, merge_flatMap_merge, combine, List.flatten_eq_flatMap, List.flatMap_map,
    List.flatten_eq_flatMap, List.flatMap_assoc]
  rfl

/-! ### Texts that may not be given -/

/-- All that some texts declare, one text and one piece after the other. -/
def allDeclarations (parts : List (Option String)) : List Declaration := (parts.filterMap id).flatMap declarations

/-- Groups that are combined first make no difference, also where texts are not given. -/
theorem combineGiven_groups (groups : List (List (Option String))) :
    combineGiven (groups.map fun group => some (combineGiven group)) = combineGiven groups.flatten := by
  have each : (groups.map fun group => some (combineGiven group)).filterMap id =
      (groups.map fun group => group.filterMap id).map combine := by
    rw [List.filterMap_map, List.map_map]
    exact congrFun List.filterMap_eq_map groups
  rw [combineGiven, each, combine_map_combine, ← List.filterMap_flatten, combineGiven]

/-- A merge of style texts lists every name that stands before a colon once, in lower case and in the order in which
the names first occur, each with the value given to it last. Merging merged texts, in whatever groups, is merging
all of them at once. -/
theorem combineGiven_lists (xs ys : List (Option String)) :
    (∃ merged, combineGiven xs = ofDeclarations merged ∧ IsMerge (allDeclarations xs) merged ∧
      declarations (combineGiven xs) = merged) ∧
    (∀ piece declaration, declaration? piece = some declaration ↔ Declares piece declaration) ∧
    combineGiven [some (combineGiven xs), some (combineGiven ys)] = combineGiven (xs ++ ys) ∧
    (∀ groups : List (List (Option String)),
      combineGiven (groups.map fun group => some (combineGiven group)) = combineGiven groups.flatten) ∧
    combineGiven [some (combineGiven xs)] = combineGiven xs ∧
    combineGiven (xs ++ xs) = combineGiven xs := by
  have two := combineGiven_groups [xs, ys]
  have one := combineGiven_groups [xs]
  rw [List.flatten_cons, List.flatten_cons, List.flatten_nil, List.append_nil] at two
  rw [List.flatten_cons, List.flatten_nil, List.append_nil] at one
  refine ⟨⟨merge (allDeclarations xs), rfl, merge_isMerge _, declarations_combine _⟩, declaration?_eq_some_iff, two,
    combineGiven_groups, one, ?_⟩
  rw [combineGiven, combineGiven, List.filterMap_append, combine, combine, List.flatMap_append, merge_append_self]

end Style

end ReportCompiler
