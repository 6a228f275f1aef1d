import ReportCompiler.Proofs.Binding.Lookup
import ReportCompiler.Proofs.Markup.Reference
import ReportCompiler.Proofs.Widget.Settings

/-!
The hooks of a widget. The embedded program finds a widget, and binds it again, by the attributes of its
element alone. They are read back from the markup of every widget that is rendered, whatever its settings hold
and whatever its kind adds.
-/

namespace ReportCompiler

open ReportCompiler.Text

namespace Widget

/-! ### Looking up an attribute -/

theorem attributes_eq (kind : Kind) (id : String) (props : Fields) (style : String)
    (more : List Attribute) :
    attributes kind id props style more =
      [Markup.escaped "id" id, Markup.asWritten "data-component" kind.label] ++
        (more ++ ([Markup.escaped "style" style] ++
          (bindingAttribute props ++ (conditionAttribute props ++ hiddenAttribute props)))) := by
  simp [attributes]

section Frame

variable (kind : Kind) (id : String) (props : Fields) (style : String) (more : List Attribute)

/-- The opening tag of a widget's element. -/
def opening : Token := .opening "div" (attributes kind id props style more) false

theorem attribute?_id : (opening kind id props style more).attribute? "id" = some id := by
  simp [opening, Token.attribute?, attributes_eq, Markup.escaped, Attribute.content, Markup.decode_escape]

theorem attribute?_component :
    (opening kind id props style more).attribute? "data-component" = some (lower kind.name) := by
  have plain : Markup.decode kind.label = lower kind.name := by cases kind <;> decide
  simp [opening, Token.attribute?, attributes_eq, Markup.escaped, Markup.asWritten, Attribute.content, plain]

variable (own : ∀ a ∈ more, IsOwn a)
include own

/-- The hooks of binding and condition come last; nothing before them has their names. -/
theorem attribute?_late (name : String)
    (hook : name ∈ ["data-binding", "data-visibility-condition", "data-condition-hidden"]) :
    (opening kind id props style more).attribute? name =
      ((bindingAttribute props ++ (conditionAttribute props ++ hiddenAttribute props)).find?
        (·.name == name)).map Attribute.content := by
  have usual : name ∈ frameNames ∧ "id" ≠ name ∧ "data-component" ≠ name ∧ "style" ≠ name := by
    simp only [List.mem_cons, List.not_mem_nil, or_false] at hook
    rcases hook with rfl | rfl | rfl <;> decide
  obtain ⟨framed, notId, notComponent, notStyle⟩ := usual
  have absent : more.find? (·.name == name) = none := by
    rw [List.find?_eq_none]
    intro a member same
    exact (own a member).1 (beq_iff_eq.mp same ▸ framed)
  rw [opening, Token.attribute?, attributes_eq, List.find?_append, List.find?_append, absent, Option.none_or,
    List.find?_append]
  simp [Markup.escaped, Markup.asWritten, notId, notComponent, notStyle]

theorem attribute?_binding :
    (opening kind id props style more).attribute? "data-binding" =
      if hasBinding props then some (bindingText props) else none := by
  rw [attribute?_late kind id props style more own _ (by decide)]
  unfold bindingAttribute conditionAttribute hiddenAttribute
  split <;> split <;> split <;> simp [Markup.escaped, Attribute.content, Markup.decode_escape]

theorem attribute?_condition :
    (opening kind id props style more).attribute? "data-visibility-condition" = condition? props := by
  rw [attribute?_late kind id props style more own _ (by decide)]
  unfold bindingAttribute conditionAttribute hiddenAttribute
  split <;> split <;> split <;> simp [Markup.escaped, Attribute.content, Markup.decode_escape, *]

theorem attribute?_hidden :
    (opening kind id props style more).attribute? "data-condition-hidden" =
      if (props.get hiddenByCondition).isPresent then some "true" else none := by
  rw [attribute?_late kind id props style more own _ (by decide)]
  unfold bindingAttribute conditionAttribute hiddenAttribute
  split <;> split <;> split <;> simp [Markup.escaped, Attribute.content, Markup.decode_escape]

end Frame

/-! ### Hooks -/

/-- The hooks of a widget, as a reader of its markup finds them in the opening tag. -/
structure CarriesHooks (type id : String) (props : Fields) (token : Token) : Prop where
  id_eq : token.attribute? "id" = some id
  component_eq : token.attribute? "data-component" = some (lower type)
  binding_iff : ∀ text, token.attribute? "data-binding" = some text ↔
    isBlankText (props.get "binding").plainIfPresent = false ∧
      text = trim (props.get "binding").plainIfPresent
  condition_iff : ∀ text, token.attribute? "data-visibility-condition" = some text ↔
    props.get "visibilityCondition" = .text text ∧ isBlankText text = false
  hidden_eq : (token.attribute? "data-condition-hidden").isSome = (props.get hiddenByCondition).isPresent

theorem hasBinding_eq_true_iff (props : Fields) :
    hasBinding props = true ↔ isBlankText (props.get "binding").plainIfPresent = false := by
  rw [hasBinding, bne_iff_ne, bindingText, Ne, trim_eq_empty_iff, Bool.not_eq_true]

theorem opening_carriesHooks (kind : Kind) (id : String) (props : Fields) (style : String)
    (more : List Attribute) (own : ∀ a ∈ more, IsOwn a) :
    CarriesHooks kind.name id props (opening kind id props style more) where
  id_eq := attribute?_id kind id props style more
  component_eq := attribute?_component kind id props style more
  binding_iff text := by
    rw [attribute?_binding kind id props style more own, Option.ite_none_right_eq_some,
      hasBinding_eq_true_iff, Option.some.injEq, bindingText, eq_comm (a := text)]
  condition_iff text := by
    rw [attribute?_condition kind id props style more own, condition?_eq_some_iff]
  hidden_eq := by
    rw [attribute?_hidden kind id props style more own]
    split <;> simp_all

-- What stands inside the element does not matter, not even where it is no markup.
theorem firstToken?_draw (kind : Kind) (now : Moment) (id : String) (props : Fields) (tree : Markup)
    (drawn : kind.draw now id props = .ok tree) :
    ∃ style more, Markup.firstToken? tree.write = some (opening kind id props style more) ∧
      ∀ a ∈ more, IsOwn a := by
  have drawnFrom := kind.draw_isFrom now id props tree drawn
  obtain ⟨style, more, children, rfl, own⟩ := kind.draw_eq_frame now id props tree drawn
  have named := isNamed_of_isFrom kind _ ((Markup.all_element _ _ _ _).mp drawnFrom).1
  have enclosed : ∀ a ∈ attributes kind id props style more, '"' ∉ a.source.toList := by
    intro a member
    rcases mem_attributes kind id props style more a member with added | usual
    · exact (own a added).2
    · exact usual.2
  refine ⟨style, more, ?_, own⟩
  rw [frame_write, String.append_assoc]
  exact Markup.firstToken?_openTag "div" _ _ named.1 named.2 enclosed

/-- The hooks of every widget that is rendered are read back from the first tag of its markup. -/
theorem render_readsBack (now : Moment) (type id : String) (r : Renderer) (given : Fields)
    (result : Rendered) (registered : Registry.standard.find? type = some r)
    (rendered : r.render now id given = .ok result) (written : result.html ≠ "") :
    ∃ token, Markup.firstToken? result.html = some token ∧
      CarriesHooks type id (resolve r.defaults given) token := by
  obtain ⟨kind, known, rfl⟩ := Option.map_eq_some_iff.mp registered
  have shown : isHidden (resolve kind.defaults given) = false := by
    rw [← (kind.gist_of_render now id given result rendered).1]
    exact beq_false_of_ne written
  obtain ⟨tree, drawn, same, _⟩ :=
    (render_eq_ok_iff kind.renderer now id given result shown).mp rendered
  obtain ⟨style, more, first, own⟩ := firstToken?_draw kind now id _ tree drawn
  refine ⟨_, same ▸ first, ?_⟩
  rw [← Kind.name_of_ofName? known]
  exact opening_carriesHooks kind id _ style more own

/-- Settings of a page number that would end its tag or its values, were they written as they are. -/
def breaking : Fields :=
  [("format", .text "\" id=\"other"), ("binding", .text " data.a<b \n"),
    ("visibilityCondition", .text " data.n > 1 && data.m !== \"x'\""), ("conditionHidden", .int 1)]

theorem render_readsBack_pageNumber :
    ∃ result token,
      Kind.pageNumber.renderer.render default "a\"><b id='c'>&amp;" breaking = .ok result ∧
      Markup.firstToken? result.html = some token ∧
      token.attribute? "id" = some "a\"><b id='c'>&amp;" ∧
      token.attribute? "data-component" = some "pagenumber" ∧
      token.attribute? "data-binding" = some "data.a<b" ∧
      token.attribute? "data-visibility-condition" = some " data.n > 1 && data.m !== \"x'\"" ∧
      (token.attribute? "data-condition-hidden").isSome = true := by
  have registered : Registry.standard.find? "PageNumber" = some Kind.pageNumber.renderer := rfl
  have shown : isHidden (resolve Kind.pageNumber.renderer.defaults breaking) = false := by decide
  obtain ⟨result, rendered, written⟩ : ∃ result,
      Kind.pageNumber.renderer.render default "a\"><b id='c'>&amp;" breaking = .ok result ∧
        result.html ≠ "" :=
    ⟨{ html := _, component := none },
      (render_eq_ok_iff Kind.pageNumber.renderer _ _ breaking _ shown).mpr ⟨_, rfl, rfl, rfl⟩,
      frame_write_ne_empty _ _ _ _ _ _⟩
  obtain ⟨token, first, hooks⟩ :=
    render_readsBack default "PageNumber" _ _ breaking result registered rendered written
  exact ⟨result, token, rendered, first, hooks.id_eq, hooks.component_eq.trans (by decide),
    (hooks.binding_iff _).mpr (by decide), (hooks.condition_iff _).mpr ⟨rfl, by decide⟩,
    hooks.hidden_eq.trans (by decide)⟩

end Widget

end ReportCompiler
