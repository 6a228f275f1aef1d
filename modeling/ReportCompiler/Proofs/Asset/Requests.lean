import ReportCompiler.Asset.Inline
import ReportCompiler.Proofs.FirstOccurrences

/-!
What is requested for a template: every external address that stands in a setting for images, at any depth,
once and in the order of first occurrence. Batches change nothing about it.
-/

namespace ReportCompiler

/-! ### Texts at any depth -/

/-- The text stands in the value, at any depth of lists and objects. -/
inductive Value.HoldsText (s : String) : Value → Prop
  | text : HoldsText s (.text s)
  | item {items : List Value} {item : Value} (listed : item ∈ items) (inside : HoldsText s item) :
      HoldsText s (.list items)
  | field {fields : List (String × Value)} {field : String × Value} (listed : field ∈ fields)
      (inside : HoldsText s field.2) : HoldsText s (.object fields)

namespace Asset

theorem textsInItems_eq_flatMap (items : List Value) : textsInItems items = items.flatMap textsIn := by
  induction items with
  | nil => rfl
  | cons item rest ih => rw [textsInItems, ih, List.flatMap_cons]

theorem textsInFields_eq_flatMap (fields : Fields) :
    textsInFields fields = fields.flatMap fun field => textsIn field.2 := by
  induction fields with
  | nil => rfl
  | cons field rest ih => rw [textsInFields, ih, List.flatMap_cons]

theorem mem_textsIn_of_holdsText {s : String} {value : Value} (holds : value.HoldsText s) :
    s ∈ textsIn value := by
  induction holds with
  | text => simp [textsIn]
  | item listed _ ih =>
      rw [textsIn, textsInItems_eq_flatMap]
      exact List.mem_flatMap_of_mem listed ih
  | field listed _ ih =>
      rw [textsIn, textsInFields_eq_flatMap]
      exact List.mem_flatMap_of_mem listed ih

mutual

theorem holdsText_of_mem_textsIn {s : String} : (value : Value) → s ∈ textsIn value →
    value.HoldsText s
  | .null, member => by cases member
  | .bool _, member => by cases member
  | .number _, member => by cases member
  | .date _, member => by cases member
  | .moment _, member => by cases member
  | .text t, member => by
      rw [textsIn, List.mem_singleton] at member
      rw [member]
      exact .text
  | .list items, member => by
      rw [textsIn] at member
      obtain ⟨item, listed, inside⟩ := exists_item_of_mem items member
      exact .item listed inside
  | .object fields, member => by
      rw [textsIn] at member
      obtain ⟨field, listed, inside⟩ := exists_field_of_mem fields member
      exact .field listed inside

theorem exists_item_of_mem {s : String} : (items : List Value) → s ∈ textsInItems items →
    ∃ item ∈ items, item.HoldsText s
  | [], member => by cases member
  | item :: rest, member => by
      rcases List.mem_append.mp member with here | later
      · exact ⟨item, List.mem_cons_self, holdsText_of_mem_textsIn item here⟩
      · obtain ⟨other, listed, inside⟩ := exists_item_of_mem rest later
        exact ⟨other, List.mem_cons_of_mem _ listed, inside⟩

theorem exists_field_of_mem {s : String} : (fields : List (String × Value)) →
    s ∈ textsInFields fields → ∃ field ∈ fields, field.2.HoldsText s
  | [], member => by cases member
  | (key, value) :: rest, member => by
      rcases List.mem_append.mp member with here | later
      · exact ⟨(key, value), List.mem_cons_self, holdsText_of_mem_textsIn value here⟩
      · obtain ⟨other, listed, inside⟩ := exists_field_of_mem rest later
        exact ⟨other, List.mem_cons_of_mem _ listed, inside⟩

end

theorem mem_textsIn_iff (s : String) (value : Value) : s ∈ textsIn value ↔ value.HoldsText s :=
  ⟨holdsText_of_mem_textsIn value, mem_textsIn_of_holdsText⟩

/-! ### Addresses -/

/-- An address of the web. -/
def IsWeb (url : String) : Prop :=
  "http://".toList <+: url.toList ∨ "https://".toList <+: url.toList

theorem not_isData_of_isWeb {url : String} (web : IsWeb url) : isData url = false := by
  refine Bool.eq_false_iff.mpr fun data => ?_
  obtain ⟨rest, whole⟩ := List.isPrefixOf_iff_prefix.mp data
  rcases web with ⟨other, same⟩ | ⟨other, same⟩ <;> rw [← whole] at same <;> cases same

theorem isExternal_iff (url : String) : isExternal url = true ↔ IsWeb url := by
  have given : isExternal url = true ↔ isData url = false ∧ IsWeb url := by
    simp only [isExternal, Text.startsWith, Bool.and_eq_true, Bool.or_eq_true,
      Bool.not_eq_true', List.isPrefixOf_iff_prefix, IsWeb]
  rw [given]
  exact and_iff_right_of_imp not_isData_of_isWeb

theorem looksLikeImage_of_isExternal (url : String) (external : isExternal url = true) :
    looksLikeImage url = true := by
  have http : "http".toList <+: url.toList := by
    rcases (isExternal_iff url).mp external with web | web
    · exact (show "http".toList <+: "http://".toList by decide).trans web
    · exact (show "http".toList <+: "https://".toList by decide).trans web
  have starts : Text.startsWith url "http" = true := List.isPrefixOf_iff_prefix.mpr http
  rw [looksLikeImage, starts, Bool.true_or, Bool.true_or]

/-! ### Requests -/

/-- The texts in the settings for images, widget by widget in the order of the template and setting by setting
in the order of their names. -/
def imageTexts (tree : Tree) : List String :=
  tree.nodes.flatMap fun entry => imageProps.flatMap fun name => textsIn (entry.2.props.get name)

theorem externalImages_eq (tree : Tree) :
    externalImages tree = (imageTexts tree).eraseDups.filter isExternal := by
  have both : ∀ url, (isExternal url && looksLikeImage url) = isExternal url := by
    intro url
    cases external : isExternal url with
    | false => rfl
    | true => exact looksLikeImage_of_isExternal url external
  unfold externalImages imagesOf
  rw [eraseDups_flatMap_eraseDups, filter_eraseDups, filter_eraseDups, imageTexts,
    List.filter_flatMap, List.filter_flatMap]
  simp only [List.filter_filter, both]

theorem mem_externalImages_iff (tree : Tree) (url : String) :
    url ∈ externalImages tree ↔ IsWeb url ∧ ∃ entry ∈ tree.nodes, ∃ name ∈ imageProps,
      (entry.2.props.get name).HoldsText url := by
  rw [externalImages_eq, List.mem_filter, List.mem_eraseDups, isExternal_iff, imageTexts, and_comm]
  simp only [List.mem_flatMap, mem_textsIn_iff]

theorem externalImages_pairwise (tree : Tree) :
    (externalImages tree).Pairwise fun first second =>
      (imageTexts tree).idxOf first < (imageTexts tree).idxOf second := by
  rw [externalImages_eq]
  exact (eraseDups_pairwise_idxOf _).filter _

theorem nodup_externalImages (tree : Tree) : (externalImages tree).Nodup := by
  rw [externalImages_eq]
  exact (nodup_eraseDups _).sublist List.filter_sublist

/-! ### Batches -/

theorem flatten_batches (size : Nat) (some_ : 0 < size) (fuel : Nat) (urls : List String)
    (enough : urls.length ≤ fuel) : (batches size fuel urls).flatten = urls := by
  induction fuel generalizing urls with
  | zero => rw [List.eq_nil_of_length_eq_zero (Nat.le_zero.mp enough)]; rfl
  | succ fuel ih =>
      cases urls with
      | nil => rfl
      | cons url rest =>
          have shorter : ((url :: rest).drop size).length ≤ fuel := by
            rw [List.length_drop]
            omega
          rw [batches, List.flatten_cons, ih _ shorter, List.take_append_drop]
          exact List.cons_ne_nil url rest

theorem batchSize_pos (usual : Int) (wanted : Option Int) : 0 < batchSize usual wanted := by
  unfold batchSize
  split <;> omega

section Asking

variable {m : Type → Type} [Monad m] [LawfulMonad m]

theorem flatten_mapM {α β : Type} (f : α → m β) (groups : List (List α)) :
    (do let results ← groups.mapM fun group => group.mapM f
        return results.flatten) = groups.flatten.mapM f := by
  induction groups with
  | nil => simp
  | cons group rest ih => simp [List.mapM_cons, List.mapM_append, ← ih]

/-- However many addresses are fetched at once, they are gone through one by one. -/
theorem processAll_eq_mapM (client : ClientIn m) (convert : Bool) (size : Nat) (some_ : 0 < size)
    (urls : List String) :
    processAll client convert size urls = urls.mapM (outcome client convert) := by
  rw [processAll, flatten_mapM, flatten_batches size some_ urls.length urls (Nat.le_refl _)]

/-- What comes of the request for an address, by the reply to it. -/
def answered (asked : String × Reply) : Outcome := .ofImage asked.1 (ofReply asked.1 asked.2)

theorem outcome_of_isExternal (client : ClientIn m) (url : String)
    (external : isExternal url = true) :
    outcome client true url = do return answered (url, ← client url) := by
  have notData := not_isData_of_isWeb ((isExternal_iff url).mp external)
  simp [outcome, isRequested, external, embed, notData, answered]

theorem mapM_outcome (client : ClientIn m) (urls : List String)
    (external : ∀ url ∈ urls, isExternal url = true) :
    urls.mapM (outcome client true) = do
      let replies ← urls.mapM client
      return (urls.zip replies).map answered := by
  induction urls with
  | nil => simp
  | cons url rest ih =>
      obtain ⟨here, later⟩ := List.forall_mem_cons.mp external
      simp [List.mapM_cons, outcome_of_isExternal client url here, ih later]

end Asking

end Asset

end ReportCompiler
