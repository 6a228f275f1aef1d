import ReportCompiler.Proofs.Template.Payload
import ReportCompiler.Proofs.Value.Fields

/-!
The two forms of a template: the map of its widgets, and an object with that map under `nodes`. The forms are
told apart by their shape alone, so a widget with the id `nodes` makes a map look like the other form.
-/

namespace ReportCompiler

open ReportCompiler.Payload

namespace Payload

/-! ### Entries by key -/

theorem lookup_entries {α : Type} (read : String → Reader α) (fields : Fields) (result : List (String × α))
    (given : entries read fields = .valid result) (key : String) :
    (fields.lookup key).map (read key) = (result.lookup key).map .valid := by
  induction fields generalizing result with
  | nil =>
      cases given
      rfl
  | cons field rest ih =>
      obtain ⟨name, value⟩ := field
      obtain ⟨_, others, first, second, rfl⟩ := (Checked.seq_eq_valid_iff _ _ _).mp given
      obtain ⟨_, made, rfl⟩ := (Checked.functor_eq_valid_iff _ _ _).mp first
      obtain ⟨one, passed, rfl⟩ := (Checked.map_eq_valid_iff _ _ _).mp made
      have here : read name value = .valid one := (Checked.within_eq_valid_iff _ _ _).mp passed
      rw [Fields.lookup_cons, Fields.lookup_cons]
      by_cases same : key = name
      · rw [if_pos same, if_pos same, Option.map_some, Option.map_some, same, here]
      · rw [if_neg same, if_neg same, ih others second]

end Payload

namespace Node

/-! ### One widget -/

theorem lookup_withId (key : String) (fields : Fields) (name : String) (other : name ≠ "id") :
    (withId key fields).lookup name = fields.lookup name := by
  unfold withId
  split
  · rfl
  · rw [Fields.lookup_set, if_neg other]

/-- What is read as a widget is an object, and what counts as its children is none. -/
theorem children_of_ofEntry (key : String) (value : Value) (node : Node) (read : ofEntry key value = .valid node) :
    ∃ fields, value = .object fields ∧
      ∀ inner, (fields.lookup "children").or (fields.lookup "nodes") ≠ some (.object inner) := by
  cases value with
  | object fields =>
      refine ⟨fields, rfl, fun inner held => ?_⟩
      obtain ⟨_, _, four, _, _⟩ := (Checked.seq_eq_valid_iff _ _ _).mp read
      obtain ⟨_, children, _, given, _⟩ := (Checked.seq_eq_valid_iff _ _ _).mp four
      rw [Payload.optional, named, List.findSome?_cons, List.findSome?_cons, List.findSome?_nil,
        lookup_withId key fields "children" (by decide), lookup_withId key fields "nodes" (by decide)] at given
      cases first : fields.lookup "children" with
      | some value =>
          rw [first, Option.some_or, Option.some_inj] at held
          rw [first, held] at given
          cases given
      | none =>
          rw [first, Option.none_or] at held
          rw [first, held] at given
          cases given
  | _ => cases read

end Node

namespace Tree

/-! ### Both forms -/

/-- The widgets of a template by key, if it can be read. -/
def readNodes? (payload : Value) : Option (List (String × Node)) :=
  match ofPayload payload with
  | .valid tree => some tree.nodes
  | .invalid _ => none

theorem readNodes?_eq_some_iff (payload : Value) (nodes : List (String × Node)) :
    readNodes? payload = some nodes ↔ ∃ tree, ofPayload payload = .valid tree ∧ tree.nodes = nodes := by
  rw [readNodes?]
  cases ofPayload payload <;> simp

/-- A map of widgets is read as what it is when it stands under `nodes`, unless it has an object there itself. -/
theorem ofPayload_bare (widgets : Fields) (plain : ∀ inner, widgets.get "nodes" ≠ .object inner) :
    ofPayload (.object widgets) = ofPayload (.object [("nodes", .object widgets)]) := by
  have bare : wrapped (.object widgets) = [("nodes", .object widgets)] := by
    rw [wrapped.eq_def]
    dsimp only
    split
    · next inner held => exact absurd held (plain inner)
    · rfl
  rw [ofPayload, bare]
  · rfl
  · intro impossible
    cases impossible

/-- With an object under `nodes`, it is the entries of that object that are read. -/
theorem entries_of_readNodes? (fields inner : Fields) (nodes : List (String × Node))
    (held : fields.lookup "nodes" = some (.object inner)) (read : readNodes? (.object fields) = some nodes) :
    entries Node.ofEntry inner = .valid nodes := by
  obtain ⟨tree, made, rfl⟩ := (readNodes?_eq_some_iff _ _).mp read
  have whole : wrapped (.object fields) = fields := by
    rw [wrapped.eq_def]
    dsimp only
    rw [Fields.get, held]
    rfl
  have fromFields : ofFields fields = .valid tree := by
    rw [← made, ofPayload, whole]
    intro impossible
    cases impossible
  obtain ⟨_, _, first, _, rfl⟩ := (Checked.seq_eq_valid_iff _ _ _).mp fromFields
  obtain ⟨nodes, given, rfl⟩ := (Checked.functor_eq_valid_iff _ _ _).mp first
  rw [Payload.optional, named, List.findSome?_cons, held] at given
  exact (Checked.within_eq_valid_iff _ _ _).mp given

/-- No widget can be an entry under `nodes` and hold widgets itself: its children would be an object. -/
theorem readNodes?_apart (widgets inner : Fields) (nodes : List (String × Node))
    (held : widgets.lookup "nodes" = some (.object inner)) (bare : readNodes? (.object widgets) = some nodes)
    (whole : readNodes? (.object [("nodes", .object widgets)]) = some nodes) : False := by
  have inside := lookup_entries Node.ofEntry inner nodes (entries_of_readNodes? widgets inner nodes held bare)
  have outside := lookup_entries Node.ofEntry widgets nodes
    (entries_of_readNodes? [("nodes", .object widgets)] widgets nodes rfl whole) "nodes"
  rw [held, Option.map_some] at outside
  obtain ⟨node, listed, made⟩ := Option.map_eq_some_iff.mp outside.symm
  obtain ⟨_, same, childless⟩ := Node.children_of_ofEntry "nodes" (.object inner) node made.symm
  cases same
  have objects : ∀ key value, inner.lookup key = some value → ∃ fields, value = .object fields := by
    intro key value found
    have read := inside key
    rw [found, Option.map_some] at read
    obtain ⟨one, _, passed⟩ := Option.map_eq_some_iff.mp read.symm
    obtain ⟨fields, object, _⟩ := Node.children_of_ofEntry key value one passed.symm
    exact ⟨fields, object⟩
  cases first : inner.lookup "children" with
  | some value =>
      obtain ⟨fields, rfl⟩ := objects "children" value first
      exact childless fields (by rw [first, Option.some_or])
  | none =>
      have again := inside "nodes"
      rw [listed, Option.map_some] at again
      obtain ⟨value, found, _⟩ := Option.map_eq_some_iff.mp again
      obtain ⟨fields, rfl⟩ := objects "nodes" value found
      exact childless fields (by rw [first, Option.none_or, found])

/-- The two forms of a template give the same widgets in the same order, or none at all, exactly when the map has no
object under `nodes` or cannot be read either way. -/
theorem readNodes?_wrapped_iff (widgets : Fields) :
    readNodes? (.object widgets) = readNodes? (.object [("nodes", .object widgets)]) ↔
      (∀ inner, widgets.get "nodes" ≠ .object inner) ∨
        (readNodes? (.object widgets) = none ∧ readNodes? (.object [("nodes", .object widgets)]) = none) := by
  constructor
  · intro same
    cases read : readNodes? (.object widgets) with
    | none => exact .inr ⟨rfl, same.symm.trans read⟩
    | some nodes =>
        refine .inl fun inner object => ?_
        have held : widgets.lookup "nodes" = some (.object inner) := by
          rw [Fields.get] at object
          cases found : widgets.lookup "nodes" with
          | some value =>
              rw [found] at object
              exact congrArg some object
          | none =>
              rw [found] at object
              cases object
        exact readNodes?_apart widgets inner nodes held read (same.symm.trans read)
  · rintro (plain | ⟨bare, whole⟩)
    · rw [readNodes?, readNodes?, ofPayload_bare widgets plain]
    · rw [bare, whole]

/-- A text under the id `nodes`: alone, the map is taken for the other form, whose widgets are then no objects. -/
theorem readNodes?_named_nodes :
    let widgets : Fields := [("nodes", .object [("type", .text "Text")])]
    readNodes? (.object widgets) = none ∧
      readNodes? (.object [("nodes", .object widgets)]) =
        some [("nodes", { id := "nodes", type := "Text", props := [], children := [], custom := [] })] :=
  ⟨rfl, rfl⟩

end Tree

end ReportCompiler
