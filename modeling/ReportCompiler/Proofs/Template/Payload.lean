import ReportCompiler.Proofs.Value.Leaves
import ReportCompiler.Template.Payload

/-!
Templates read from payloads: the leaves of a widget's settings are leaves of the payload. Nothing that a payload
does not hold gets into a template but the defaults, which are no settings.
-/

namespace ReportCompiler

namespace Payload

/-! ### Values that pass -/

namespace Checked

variable {α β : Type}

theorem map_eq_valid_iff (f : α → β) (x : Checked α) (b : β) :
    x.map f = .valid b ↔ ∃ a, x = .valid a ∧ f a = b := by
  cases x <;> simp [map]

theorem functor_eq_valid_iff (f : α → β) (x : Checked α) (b : β) :
    f <$> x = .valid b ↔ ∃ a, x = .valid a ∧ f a = b :=
  map_eq_valid_iff f x b

theorem seq_eq_valid_iff (f : Checked (α → β)) (x : Checked α) (b : β) :
    f <*> x = .valid b ↔ ∃ g a, f = .valid g ∧ x = .valid a ∧ g a = b := by
  cases f <;> cases x <;> simp [Seq.seq, apply]

theorem andThen_eq_valid_iff (x : Checked α) (check : α → Checked β) (b : β) :
    x.andThen check = .valid b ↔ ∃ a, x = .valid a ∧ check a = .valid b := by
  cases x <;> simp [andThen]

theorem within_eq_valid_iff (outer : List String) (x : Checked α) (a : α) :
    x.within outer = .valid a ↔ x = .valid a := by
  cases x <;> simp [within]

end Checked

/-! ### Leaves of a payload -/

/-- What is read from a value with such leaves is so itself. -/
def Keeps {α : Type} (leaf : Value → Prop) (read : Reader α) (holds : α → Prop) : Prop :=
  ∀ value result, value.All leaf → read value = .valid result → holds result

variable {α : Type} {leaf : Value → Prop} {holds : α → Prop}

theorem Keeps.optional {read : Reader α} (keeps : Keeps leaf read holds) (names : List String)
    (fallback result : α) (base : holds fallback) (fields : Fields) (all : Fields.All leaf fields)
    (given : Payload.optional names fallback read fields = .valid result) : holds result := by
  rw [Payload.optional, named] at given
  split at given
  · next name value found =>
      obtain ⟨_, _, same⟩ := List.exists_of_findSome?_eq_some found
      obtain ⟨_, listed, same⟩ := Option.map_eq_some_iff.mp same
      cases same
      obtain ⟨before, after, whole, _⟩ := List.lookup_eq_some_iff.mp listed
      have member : (name, value) ∈ fields := by
        rw [whole]
        exact List.mem_append_right before List.mem_cons_self
      exact keeps value result (all _ member) ((Checked.within_eq_valid_iff _ _ _).mp given)
  · cases given
    exact base

theorem keeps_record (orAttributes : Bool) (read : Fields → Checked α)
    (keeps : ∀ fields result, Fields.All leaf fields → read fields = .valid result → holds result) :
    Keeps leaf (record orAttributes read) holds := by
  intro value result all given
  cases value with
  | object fields => exact keeps fields result ((Value.all_object leaf fields).mp all) given
  | _ => cases given

theorem keeps_entries (read : String → Reader α) (keeps : ∀ key, Keeps leaf (read key) holds)
    (fields : Fields) (all : Fields.All leaf fields) (result : List (String × α))
    (given : entries read fields = .valid result) : ∀ entry ∈ result, holds entry.2 := by
  induction fields generalizing result with
  | nil =>
      cases given
      exact List.forall_mem_nil _
  | cons field rest ih =>
      obtain ⟨key, value⟩ := field
      obtain ⟨here, later⟩ := (Fields.all_cons leaf key value rest).mp all
      obtain ⟨_, others, first, second, rfl⟩ := (Checked.seq_eq_valid_iff _ _ _).mp given
      obtain ⟨entry, made, rfl⟩ := (Checked.functor_eq_valid_iff _ _ _).mp first
      obtain ⟨read, passed, rfl⟩ := (Checked.map_eq_valid_iff _ _ _).mp made
      have one := keeps key value read here ((Checked.within_eq_valid_iff _ _ _).mp passed)
      exact List.forall_mem_cons.mpr ⟨one, ih later others second⟩

end Payload

open ReportCompiler.Payload

variable {leaf : Value → Prop}

namespace Node

theorem keeps_entriesOrNull : Keeps leaf entriesOrNull (Fields.All leaf) := by
  intro value result all given
  cases value with
  | null =>
      cases given
      exact Fields.all_nil leaf
  | object fields =>
      cases given
      exact (Value.all_object leaf _).mp all
  | _ => cases given

theorem all_props_of_ofFields (fields : Fields) (node : Node) (all : Fields.All leaf fields)
    (read : ofFields fields = .valid node) : Fields.All leaf node.props := by
  obtain ⟨_, custom, four, _, rfl⟩ := (Checked.seq_eq_valid_iff _ _ _).mp read
  obtain ⟨_, children, three, _, rfl⟩ := (Checked.seq_eq_valid_iff _ _ _).mp four
  obtain ⟨_, props, two, given, rfl⟩ := (Checked.seq_eq_valid_iff _ _ _).mp three
  obtain ⟨_, type, one, _, rfl⟩ := (Checked.seq_eq_valid_iff _ _ _).mp two
  obtain ⟨id, _, rfl⟩ := (Checked.functor_eq_valid_iff _ _ _).mp one
  exact keeps_entriesOrNull.optional ["props"] [] props (Fields.all_nil leaf) fields all given

theorem keeps_ofEntry (text : ∀ s, leaf (.text s)) (key : String) :
    Keeps leaf (ofEntry key) fun node => Fields.All leaf node.props := by
  apply keeps_record
  intro fields node all read
  refine all_props_of_ofFields _ node ?_ read
  rw [withId]
  split
  · exact all
  · exact Fields.all_set leaf fields "id" (.text key) all ((Value.all_text leaf key).mpr (text key))

end Node

/-- All leaves of all settings are so. -/
def Tree.AllProps (leaf : Value → Prop) (tree : Tree) : Prop :=
  ∀ entry ∈ tree.nodes, Fields.All leaf entry.2.props

namespace Tree

theorem keeps_nodesOf (text : ∀ s, leaf (.text s)) :
    Keeps leaf nodesOf fun nodes => ∀ entry ∈ nodes, Fields.All leaf entry.2.props := by
  intro value nodes all read
  obtain ⟨fields, given, read⟩ := (Checked.andThen_eq_valid_iff _ _ _).mp read
  cases value with
  | object others =>
      cases given
      have each := (Value.all_object leaf _).mp all
      exact keeps_entries Node.ofEntry (Node.keeps_ofEntry text) _ each nodes read
  | _ => cases given

theorem all_wrapped (value : Value) (all : value.All leaf) : Fields.All leaf (wrapped value) := by
  have whole : Fields.All leaf [("nodes", value)] :=
    (Fields.all_cons leaf "nodes" value []).mpr ⟨all, Fields.all_nil leaf⟩
  rw [wrapped.eq_def]
  split
  · split
    · exact (Value.all_object leaf _).mp all
    · exact whole
  · exact whole

theorem keeps_ofPayload (text : ∀ s, leaf (.text s)) : Keeps leaf Tree.ofPayload (Tree.AllProps leaf) := by
  intro value tree all read
  rw [ofPayload.eq_def] at read
  split at read
  · cases read
    exact List.forall_mem_nil _
  · obtain ⟨_, rootId, one, _, rfl⟩ := (Checked.seq_eq_valid_iff _ _ _).mp read
    obtain ⟨nodes, given, rfl⟩ := (Checked.functor_eq_valid_iff _ _ _).mp one
    exact (keeps_nodesOf text).optional ["nodes"] [] nodes (List.forall_mem_nil _) _
      (all_wrapped value all) given

end Tree

namespace Page

theorem keeps_ofPayload (text : ∀ s, leaf (.text s)) (orAttributes : Bool) :
    Keeps leaf (Page.ofPayload orAttributes) fun page => page.canvas.AllProps leaf := by
  apply keeps_record
  intro fields page all read
  obtain ⟨_, order, four, _, rfl⟩ := (Checked.seq_eq_valid_iff _ _ _).mp read
  obtain ⟨_, look, three, _, rfl⟩ := (Checked.seq_eq_valid_iff _ _ _).mp four
  obtain ⟨_, canvas, two, given, rfl⟩ := (Checked.seq_eq_valid_iff _ _ _).mp three
  obtain ⟨_, name, one, _, rfl⟩ := (Checked.seq_eq_valid_iff _ _ _).mp two
  obtain ⟨id, _, rfl⟩ := (Checked.functor_eq_valid_iff _ _ _).mp one
  have base : Tree.empty.AllProps leaf := List.forall_mem_nil _
  exact (Tree.keeps_ofPayload text).optional ["canvasState", "canvas_state"] Tree.empty canvas base fields all
    given

end Page

end ReportCompiler
