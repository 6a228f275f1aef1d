import ReportCompiler.Compile.Own
import ReportCompiler.Proofs.Preview.Filling
import ReportCompiler.Proofs.Widget.Drawing

/-!
What rendering comes to for a widget that is not hidden: the text of its drawing, which is one `div`
element, empty for the kinds that hold other widgets.
-/

namespace ReportCompiler

namespace Widget

/-! ### Hidden widgets -/

theorem visible_of_mem_resolve (kind : Kind) (given : Fields) (value : Value)
    (member : ("visible", value) ∈ resolve kind.defaults given) :
    ("visible", value) ∈ given ∨ value = .bool true := by
  have free : "visible" ∉ kind.defaults.map Prod.fst := by cases kind <;> decide
  rw [resolve, List.mem_append, List.mem_append] at member
  rcases member with (own | standard) | shared
  · exact Or.inl (List.mem_filter.mp own).1
  · exact absurd (List.mem_map_of_mem standard) free
  · simpa [sharedDefaults] using Or.inr shared

theorem isHidden_resolve (kind : Kind) (given : Fields)
    (visible : ("visible", .bool false) ∉ given) :
    isHidden (resolve kind.defaults given) = false := by
  unfold isHidden Fields.get
  cases found : (resolve kind.defaults given).lookup "visible" with
  | none => rfl
  | some value =>
      obtain ⟨before, after, split, _⟩ := List.lookup_eq_some_iff.mp found
      have member : ("visible", value) ∈ resolve kind.defaults given := by
        rw [split]
        exact List.mem_append_right _ List.mem_cons_self
      rcases visible_of_mem_resolve kind given value member with own | rfl
      · cases value with
        | bool b =>
            cases b with
            | false => exact absurd own visible
            | true => rfl
        | _ => rfl
      · rfl

/-! ### Drawings -/

/-- The element of a widget that can hold others has nothing in it. -/
theorem Kind.draw_eq_empty_frame (kind : Kind) (now : Moment) (id : String) (props : Fields)
    (tree : Markup) (drawn : kind.draw now id props = .ok tree)
    (holds : kind.holdsChildren = true) : ∃ style, tree = frame kind id props style [] [] := by
  cases kind with
  | page => exact ⟨_, (Except.ok.inj drawn).symm⟩
  | container => exact ⟨_, (Except.ok.inj drawn).symm⟩
  | _ => cases holds

theorem frame_write (kind : Kind) (id : String) (props : Fields) (style : String)
    (more : List Attribute) (children : List Markup) :
    (frame kind id props style more children).write =
      Markup.openTag "div" (attributes kind id props style more) ++ ">" ++
        Markup.writeAll children ++ "</div>" := by
  simp [frame, Markup.write, String.append_assoc]

theorem frame_write_ne_empty (kind : Kind) (id : String) (props : Fields) (style : String)
    (more : List Attribute) (children : List Markup) :
    (frame kind id props style more children).write ≠ "" := by
  simp [frame, Markup.write]

/-! ### Renderers -/

/-- A widget that is shown has the markup of its drawing, next to its entry. -/
theorem render_eq_ok_iff (r : Renderer) (now : Moment) (id : String) (given : Fields)
    (result : Rendered) (shown : isHidden (resolve r.defaults given) = false) :
    r.render now id given = .ok result ↔
      ∃ tree, r.draw now id (resolve r.defaults given) = .ok tree ∧
        result.html = tree.write ∧
        r.entry id (resolve r.defaults given) = .ok result.component := by
  simp only [Renderer.render, shown, Bool.false_eq_true, if_false]
  constructor
  · intro rendered
    obtain ⟨tree, drawn, rest⟩ := (Attempt.bind_eq_ok_iff _ _ _).mp rendered
    obtain ⟨component, entered, made⟩ := (Attempt.bind_eq_ok_iff _ _ _).mp rest
    rw [← (Attempt.pure_eq_ok_iff _ _).mp made]
    exact ⟨tree, drawn, rfl, entered⟩
  · rintro ⟨tree, drawn, written, entered⟩
    refine (Attempt.bind_eq_ok_iff _ _ _).mpr ⟨tree, drawn, ?_⟩
    refine (Attempt.bind_eq_ok_iff _ _ _).mpr ⟨result.component, entered, ?_⟩
    rw [Attempt.pure_eq_ok_iff, ← written]

/-- A widget that cannot be drawn is not rendered. -/
theorem render_eq_error (r : Renderer) (now : Moment) (id : String) (given : Fields) (fault : Fault)
    (shown : isHidden (resolve r.defaults given) = false)
    (failed : r.draw now id (resolve r.defaults given) = .error fault) :
    r.render now id given = .error fault := by
  simp only [Renderer.render, shown, Bool.false_eq_true, if_false]
  exact (Attempt.bind_eq_error_iff _ _ _).mpr (.inl failed)

end Widget

/-- The widget is not hidden by its own settings. -/
def Node.IsVisible (node : Node) : Prop := ("visible", .bool false) ∉ node.props

/-- A widget with no settings of its own. -/
def Node.bare (id type : String) (children : List String) : Node :=
  { id, type, props := [], children, custom := [] }

/-- The renderers of all kinds, and no sample data. -/
def Surroundings.plain : Surroundings :=
  { registry := .standard, now := default, data := .null }

namespace Own

open Widget

/-- A widget that is shown has the markup of its drawing, with the data filled into its settings. -/
theorem render_eq_ok (s : Surroundings) (kind : Kind) (node : Node) (result : Rendered)
    (seen : ∀ filled, Preview.bound kind node.props s.data = .ok filled →
      isHidden (resolve kind.defaults filled) = false)
    (rendered : Own.render s kind.renderer node = .ok result) :
    ∃ filled tree, Preview.bound kind node.props s.data = .ok filled ∧
      kind.draw s.now node.id (resolve kind.defaults filled) = .ok tree ∧
      result.html = tree.write := by
  unfold Own.render at rendered
  split at rendered
  · next absent =>
      have unfilled := Preview.bound_of_null kind node.props s.data absent
      obtain ⟨tree, drawn, written, _⟩ :=
        (render_eq_ok_iff kind.renderer s.now node.id node.props result (seen _ unfilled)).mp rendered
      exact ⟨_, tree, unfilled, drawn, written⟩
  · obtain ⟨filled, bound, rest⟩ := (Attempt.bind_eq_ok_iff _ _ _).mp rendered
    obtain ⟨first, whole, rest⟩ := (Attempt.bind_eq_ok_iff _ _ _).mp rest
    obtain ⟨tree, drawn, written, _⟩ :=
      (render_eq_ok_iff kind.renderer s.now node.id filled first (seen filled bound)).mp whole
    refine ⟨filled, tree, bound, drawn, ?_⟩
    split at rest
    · rw [← (Attempt.pure_eq_ok_iff _ _).mp rest]
      exact written
    · obtain ⟨component, _, made⟩ := (Attempt.bind_eq_ok_iff _ _ _).mp rest
      rw [← (Attempt.pure_eq_ok_iff _ _).mp made]
      exact written

-- No data is ever put into the setting that hides a widget.
theorem seen_of_isVisible (node : Node) (visible : node.IsVisible) (kind : Kind) (data : Value)
    (filled : Fields) (bound : Preview.bound kind node.props data = .ok filled) :
    isHidden (resolve kind.defaults filled) = false := by
  have kept := Preview.bound_keeps "visible" (by decide) node.props data kind filled bound
  exact isHidden_resolve kind filled fun member => visible (kept _ member)

theorem render_html_ne_empty (s : Surroundings) (kind : Kind) (node : Node) (result : Rendered)
    (visible : node.IsVisible) (rendered : Own.render s kind.renderer node = .ok result) :
    result.html ≠ "" := by
  obtain ⟨filled, tree, _, drawn, written⟩ :=
    render_eq_ok s kind node result (seen_of_isVisible node visible kind s.data) rendered
  obtain ⟨style, more, children, rfl, _⟩ := kind.draw_eq_frame s.now node.id _ tree drawn
  rw [written]
  exact frame_write_ne_empty kind node.id _ style more children

/-! ### Contributions -/

theorem ofNode_of_render (s : Surroundings) (node : Node) (kind : Kind) (result : Rendered)
    (standard : s.registry = .standard) (registered : Kind.ofName? node.type = some kind)
    (ok : Own.render s kind.renderer node = .ok result) :
    Own.ofNode s node = rendered node kind.holdsChildren result (conditionFindings node) := by
  have found : s.registry.find? node.type = some kind.renderer := by
    simp [standard, Registry.find?, registered, Registry.standard]
  simp only [Own.ofNode, found, ok]
  rfl

theorem ofNode_of_fault (s : Surroundings) (node : Node) (kind : Kind) (fault : Fault)
    (standard : s.registry = .standard) (registered : Kind.ofName? node.type = some kind)
    (failure : Own.render s kind.renderer node = .error fault) :
    Own.ofNode s node = failed node fault (conditionFindings node) := by
  have found : s.registry.find? node.type = some kind.renderer := by
    simp [standard, Registry.find?, registered, Registry.standard]
  simp only [Own.ofNode, found, failure]

theorem ofNode_of_unknown (s : Surroundings) (node : Node) (standard : s.registry = .standard)
    (unregistered : Kind.ofName? node.type = none) : Own.ofNode s node = unknown node := by
  have absent : s.registry.find? node.type = none := by
    simp [standard, Registry.find?, unregistered]
  simp only [Own.ofNode, absent]

theorem isShown_rendered (node : Node) (holds : Bool) (result : Rendered) (earlier : List Finding)
    (written : result.html ≠ "") : (rendered node holds result earlier).isShown = true := by
  simp [rendered, written]

theorem isOpen_rendered (node : Node) (holds : Bool) (result : Rendered) (earlier : List Finding)
    (written : result.html ≠ "") :
    (rendered node holds result earlier).isOpen = (holds && !node.children.isEmpty) := by
  simp [rendered, written]

theorem components_rendered (node : Node) (holds : Bool) (result : Rendered)
    (earlier : List Finding) : (rendered node holds result earlier).components =
      if result.html == "" then [] else result.component.toList := by
  unfold rendered
  split <;> rfl

-- A widget about which nothing is found has been rendered, and no child of its has been ignored.
theorem ofNode_silent (s : Surroundings) (node : Node) (standard : s.registry = .standard)
    (visible : node.IsVisible) (silent : (Own.ofNode s node).findings = []) :
    (Own.ofNode s node).isShown = true ∧
      ((Own.ofNode s node).isOpen = true ∨ node.children = []) := by
  cases registered : Kind.ofName? node.type with
  | none =>
      have absent : s.registry.find? node.type = none := by
        simp [standard, Registry.find?, registered]
      simp [Own.ofNode, absent, unknown, placeholder] at silent
  | some kind =>
      cases attempt : Own.render s kind.renderer node with
      | error fault =>
          have found : s.registry.find? node.type = some kind.renderer := by
            simp [standard, Registry.find?, registered, Registry.standard]
          simp [Own.ofNode, found, attempt, failed, placeholder] at silent
      | ok result =>
          have written := render_html_ne_empty s kind node result visible attempt
          rw [ofNode_of_render s node kind result standard registered attempt] at silent ⊢
          refine ⟨isShown_rendered node _ result _ written, ?_⟩
          rw [isOpen_rendered node _ result _ written]
          by_cases empty : node.children = []
          · exact Or.inr empty
          · simp [rendered, written, empty] at silent
            simp [silent, empty]

end Own

end ReportCompiler
