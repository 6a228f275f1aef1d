import Mathlib.Data.List.Nodup
import ReportCompiler.Proofs.Compile.Branch
import ReportCompiler.Proofs.Compile.Preview

/-!
Widgets that the data hides. A widget whose condition does not hold on the sample data is in the document all
the same, with a mark on its element. The program that is to show it again needs the condition, and finds it
in the entry of every widget but page numbers.
-/

namespace ReportCompiler

open ReportCompiler.Text ReportCompiler.Widget

/-! ### Text inside of text -/

namespace Text

/-- The part stands somewhere in the whole. -/
def IsWithin (part whole : String) : Prop := ∃ before after, whole = before ++ part ++ after

theorem IsWithin.trans (part middle whole : String) (inner : IsWithin part middle)
    (outer : IsWithin middle whole) : IsWithin part whole := by
  obtain ⟨before, after, rfl⟩ := inner
  obtain ⟨front, back, rfl⟩ := outer
  exact ⟨front ++ before, after ++ back, by simp only [String.append_assoc]⟩

theorem isWithin_join_head (separator part : String) (parts : List String) :
    IsWithin part (join separator (part :: parts)) := by
  cases parts with
  | nil => exact ⟨"", "", by simp [join]⟩
  | cons next rest =>
      refine ⟨"", separator ++ join separator (next :: rest), ?_⟩
      simp [join, String.append_assoc]

theorem isWithin_join_tail (separator part : String) (parts : List String) :
    IsWithin (join separator parts) (join separator (part :: parts)) := by
  cases parts with
  | nil => exact ⟨part, "", by simp [join]⟩
  | cons next rest => exact ⟨part ++ separator, "", by simp [join]⟩

end Text

/-! ### Elements of a document -/

namespace Outline

theorem isWithin_splice (opening inside children : String) :
    IsWithin opening (splice (opening ++ inside ++ "</div>") children) := by
  rw [splice_close]
  exact ⟨"", inside ++ "\n" ++ children ++ "\n</div>", by simp [String.append_assoc]⟩

theorem children_isWithin_splice (before children : String) :
    IsWithin children (splice (before ++ "</div>") children) := by
  rw [splice_close]
  exact ⟨before ++ "\n", "\n</div>", rfl⟩

end Outline

-- The induction is on the walk. Children are put before the end of their container, so that what its element
-- begins with stays in front of them.
theorem Walk.isWithin_of_placed {s : Surroundings} {tree : Tree} {parent : String}
    {keys reached : List String} {parts : List Outline} {visits : List Visit}
    (walk : Walk s tree parent keys reached parts visits)
    (closed : ∀ entry ∈ placed visits, (Own.ofNode s entry.2).isOpen = true →
      ∃ before, (Own.ofNode s entry.2).html = before ++ "</div>") :
    ∀ entry ∈ placed visits, ∀ opening inside,
      (Own.ofNode s entry.2).html = opening ++ inside ++ "</div>" →
        IsWithin opening (join "\n" (Outline.htmlAll parts)) := by
  induction walk with
  | done => simp
  | missing parent key rest reached parts visits absent later ih => exact ih closed
  | again parent key rest reached node parts visits found known later ih =>
      intro entry member opening inside written
      have deeper := ih closed entry member opening inside written
      exact deeper.trans _ _ _ (isWithin_join_tail "\n" "" (Outline.htmlAll parts))
  | first parent key rest reached node inside parts within visits found fresh inner later ihIn ih =>
      rw [placed_first, placed_append] at closed ⊢
      obtain ⟨here, deeper⟩ := List.forall_mem_cons.mp closed
      obtain ⟨closedIn, closedAfter⟩ := List.forall_mem_append.mp deeper
      intro entry member opening body written
      rw [Outline.htmlAll, Outline.html?]
      rcases List.mem_cons.mp member with rfl | member
      · refine IsWithin.trans _ _ _ ?_ (isWithin_join_head _ _ _)
        split
        · rw [written]
          exact Outline.isWithin_splice opening body _
        · exact ⟨"", body ++ "</div>", by simp [written, String.append_assoc]⟩
      rcases List.mem_append.mp member with member | member
      · refine IsWithin.trans _ _ _ (ihIn closedIn entry member opening body written) ?_
        refine IsWithin.trans _ _ _ ?_ (isWithin_join_head _ _ _)
        by_cases opened : (Own.ofNode s node).isOpen = true
        · obtain ⟨before, whole⟩ := here opened
          rw [if_pos opened, whole]
          exact Outline.children_isWithin_splice before _
        -- A widget that is not open has nothing placed inside it.
        · rw [openChildren, if_neg opened] at inner
          cases inner
          cases member
      · refine IsWithin.trans _ _ _ (ih closedAfter entry member opening body written) ?_
        exact isWithin_join_tail _ _ _

/-! ### Conditions that do not hold -/

-- A blank condition holds on all data, and every condition holds without data.
theorem Condition.of_not_met (data : Value) (condition : String)
    (fails : isMet (.text condition) data = .ok false) :
    isBlankText condition = false ∧ data.isNull = false := by
  rw [← Bool.or_eq_false_iff]
  by_contra easy
  have holds : isMet (.text condition) data = .ok true := by
    simp only [isMet, eq_true_of_ne_false easy, if_true]
  rw [holds] at fails
  cases fails

theorem Widget.condition?_of_not_met (props : Fields) (data : Value) (condition : String)
    (stated : props.get "visibilityCondition" = .text condition)
    (fails : Condition.isMet (.text condition) data = .ok false) :
    condition? props = some condition :=
  (condition?_eq_some_iff props condition).mpr
    ⟨stated, (Condition.of_not_met data condition fails).1⟩

theorem Preview.get_hidden_of_not_met (kind : Kind) (props filled : Fields) (data : Value)
    (condition : String) (own : condition? props = some condition)
    (fails : Condition.isMet (.text condition) data = .ok false)
    (made : Preview.bound kind props data = .ok filled) :
    filled.get hiddenByCondition = .bool true := by
  have given := (Condition.of_not_met data condition fails).2
  obtain ⟨change, refused, _, outcome, rfl⟩ := Preview.bound_cases props data kind filled given made
  have away : Preview.isRefused props data = .ok true := by
    rw [Preview.isRefused, own]
    simp only [fails]
    rfl
  obtain rfl := Except.ok.inj (away.symm.trans outcome)
  exact Fields.get_set_self _ hiddenByCondition _

namespace Widget

theorem exists_attributes_of_hidden (kind : Kind) (id : String) (props : Fields) (style : String)
    (more : List Attribute) (away : (props.get hiddenByCondition).isPresent = true) :
    ∃ rest, attributes kind id props style more = Markup.escaped "id" id :: rest ∧
      Markup.escaped "data-condition-hidden" "true" ∈ rest := by
  refine ⟨_, rfl, List.mem_append_right _ ?_⟩
  rw [hiddenAttribute, if_pos away]
  exact List.mem_singleton_self _

/-! ### Entries -/

theorem component?_of_condition (kind : Kind) (names : List String) (bound : Bool) (id : String)
    (props : Fields) (condition : String) (given : condition? props = some condition)
    (free : "visibilityCondition" ∉ names) :
    ∃ component, component? kind names bound id props = some component ∧
      component.props.get "visibilityCondition" = .text condition := by
  have needed : (bound || (condition? props).isSome) = true := by simp [given]
  refine ⟨_, by rw [component?, if_pos needed], get_withCondition_self props _ condition given ?_⟩
  cases bound with
  | true => rwa [if_pos rfl, map_fst_carried]
  | false => exact List.not_mem_nil

/-- Whatever a widget is bound to, its entry has its condition; page numbers alone have no entry. -/
theorem Kind.entry_of_condition (kind : Kind) (id : String) (props : Fields)
    (entry : Option Component) (condition : String) (given : condition? props = some condition)
    (other : kind ≠ .pageNumber) (made : kind.entry id props = .ok entry) :
    ∃ component, entry = some component ∧
      component.props.get "visibilityCondition" = .text condition := by
  have shared : ∀ bound, component? kind kind.carriedNames bound id props = entry →
      ∃ component, entry = some component ∧
        component.props.get "visibilityCondition" = .text condition := by
    intro bound same
    have free : "visibilityCondition" ∉ kind.carriedNames := by cases kind <;> decide
    obtain ⟨component, entered, kept⟩ :=
      component?_of_condition kind kind.carriedNames bound id props condition given free
    exact ⟨component, same.symm.trans entered, kept⟩
  cases kind with
  | pageNumber => exact absurd rfl other
  | chart =>
      obtain ⟨component, built, rfl⟩ := (Attempt.map_eq_ok_iff _ _ _).mp made
      obtain ⟨labels, _, rest⟩ := (Attempt.bind_eq_ok_iff _ _ _).mp built
      obtain ⟨datasets, _, rest⟩ := (Attempt.bind_eq_ok_iff _ _ _).mp rest
      obtain ⟨bindings, _, whole⟩ := (Attempt.bind_eq_ok_iff _ _ _).mp rest
      refine ⟨component, rfl, ?_⟩
      rw [← (Attempt.pure_eq_ok_iff _ _).mp whole]
      exact get_withCondition_self props _ condition given (by simp)
  | _ => exact shared _ (Except.ok.inj made)

end Widget

/-! ### Single widgets -/

namespace Own

variable (s : Surroundings) (node : Node)

theorem isShown_of_isOpen (opened : (ofNode s node).isOpen = true) :
    (ofNode s node).isShown = true := by
  unfold ofNode at opened ⊢
  split
  · next absent =>
      rw [absent] at opened
      cases opened
  · next renderer found =>
      rw [found] at opened
      cases attempt : Own.render s renderer node with
      | error fault =>
          simp only [attempt] at opened
          cases opened
      | ok result =>
          simp only [attempt, rendered] at opened ⊢
          split
          · next empty =>
              rw [if_pos empty] at opened
              cases opened
          · rfl

/-- A widget that is shown is of a known kind, and has been rendered. -/
theorem exists_render_of_isShown (standard : s.registry = .standard)
    (shown : (ofNode s node).isShown = true) :
    ∃ kind result, Kind.ofName? node.type = some kind ∧
      Own.render s kind.renderer node = .ok result ∧
      isHidden (resolve kind.defaults node.props) = false ∧
      (ofNode s node).html = result.html ∧
      (ofNode s node).components = result.component.toList := by
  cases registered : Kind.ofName? node.type with
  | none =>
      rw [ofNode_of_unknown s node standard registered] at shown
      cases shown
  | some kind =>
      cases attempt : Own.render s kind.renderer node with
      | error fault =>
          rw [ofNode_of_fault s node kind fault standard registered attempt] at shown
          cases shown
      | ok result =>
          have visible := (render_spec s kind node result attempt).1
          rw [ofNode_of_render s node kind result standard registered attempt] at shown ⊢
          rw [rendered] at shown ⊢
          split at shown
          · cases shown
          · next written =>
              refine ⟨kind, result, rfl, attempt, ?_, ?_, ?_⟩
              · rw [← visible]
                exact Bool.eq_false_iff.mpr written
              · rw [if_neg written]
              · rw [if_neg written]

section Shown

variable (standard : s.registry = .standard) (shown : (ofNode s node).isShown = true)
include standard shown

/-- The element of a widget that is shown, and the settings it is made of. -/
theorem exists_frame_of_isShown :
    ∃ kind filled style more inside, Preview.bound kind node.props s.data = .ok filled ∧
      (ofNode s node).html =
        Markup.openTag "div" (attributes kind node.id (resolve kind.defaults filled) style more)
          ++ ">" ++ inside ++ "</div>" := by
  obtain ⟨kind, result, registered, ok, seen, html, _⟩ :=
    exists_render_of_isShown s node standard shown
  have visible : ∀ filled, Preview.bound kind node.props s.data = .ok filled →
      isHidden (resolve kind.defaults filled) = false := fun filled bound =>
    (Preview.isHidden_of_bound kind node.props filled s.data bound).trans seen
  obtain ⟨filled, tree, bound, drawn, written⟩ := render_eq_ok s kind node result visible ok
  obtain ⟨style, more, children, rfl, _⟩ := kind.draw_eq_frame s.now node.id _ tree drawn
  exact ⟨kind, filled, style, more, _, bound, by rw [html, written, frame_write]⟩

theorem closes_of_isShown : ∃ before, (ofNode s node).html = before ++ "</div>" := by
  obtain ⟨_, _, _, _, _, _, whole⟩ := exists_frame_of_isShown s node standard shown
  exact ⟨_, whole⟩

variable (condition : String) (stated : node.props.get "visibilityCondition" = .text condition)
  (fails : Condition.isMet (.text condition) s.data = .ok false)
include stated fails

theorem marks_of_not_met :
    ∃ rest inside, (ofNode s node).html =
        Markup.openTag "div" (Markup.escaped "id" node.id :: rest) ++ ">" ++ inside ++ "</div>" ∧
      Markup.escaped "data-condition-hidden" "true" ∈ rest := by
  obtain ⟨kind, filled, style, more, inside, bound, whole⟩ :=
    exists_frame_of_isShown s node standard shown
  have own := condition?_of_not_met node.props s.data condition stated fails
  have mark := Preview.get_hidden_of_not_met kind node.props filled s.data condition own fails bound
  have kept : (resolve kind.defaults filled).get hiddenByCondition = .bool true := by
    rw [get_resolve_of_given _ _ _ (by rw [mark]; rfl), mark]
  obtain ⟨rest, attributes, member⟩ := exists_attributes_of_hidden kind node.id
    (resolve kind.defaults filled) style more (by rw [kept]; rfl)
  rw [attributes] at whole
  exact ⟨rest, inside, whole, member⟩

-- The entry is built from settings that keep the condition, with or without the data filled in.
theorem entered_of_not_met (other : node.type ≠ "PageNumber") :
    ∃ component ∈ (ofNode s node).components,
      component.props.get "visibilityCondition" = .text condition := by
  obtain ⟨kind, result, registered, ok, seen, _, entries⟩ :=
    exists_render_of_isShown s node standard shown
  obtain ⟨_, entered, made, entry⟩ := render_spec s kind node result ok
  have kept : ∀ name ∉ Preview.filledNames, (resolve kind.defaults entered).get name =
      (resolve kind.defaults node.props).get name := by
    unfold enteredProps at made
    split at made
    · have fills := Preview.bound_fills node.props s.data kind entered made
      exact get_resolve_of_without kind.defaults node.props entered _ fills.without_eq
    · rw [← Except.ok.inj made]
      exact fun _ _ => rfl
  have visible : isHidden (resolve kind.defaults entered) = false :=
    (isHidden_congr _ _ (kept "visible" (by decide))).trans seen
  have own : condition? (resolve kind.defaults entered) = some condition := by
    rw [← condition?_of_not_met node.props s.data condition stated fails]
    refine condition?_congr _ _ ((kept "visibilityCondition" (by decide)).trans ?_)
    exact get_resolve_of_given _ _ _ (by rw [stated]; rfl)
  rw [kind.component_renderer_of_visible node.id entered visible] at entry
  have numbered : kind ≠ .pageNumber := by
    rintro rfl
    exact other (Kind.name_of_ofName? registered).symm
  obtain ⟨component, named, condition⟩ :=
    kind.entry_of_condition node.id _ result.component condition own numbered entry
  refine ⟨component, ?_, condition⟩
  rw [entries, named]
  exact List.mem_singleton_self _

end Shown

theorem components_of_pageNumber (standard : s.registry = .standard)
    (numbered : node.type = "PageNumber") : (ofNode s node).components = [] := by
  have registered : Kind.ofName? node.type = some .pageNumber := by
    rw [numbered]
    rfl
  cases attempt : Own.render s Kind.pageNumber.renderer node with
  | error fault => rw [ofNode_of_fault s node .pageNumber fault standard registered attempt]; rfl
  | ok result =>
      obtain ⟨_, entered, _, entry⟩ := render_spec s .pageNumber node result attempt
      have none_ : result.component = none := by
        rw [Kind.component_renderer] at entry
        split at entry
        · exact (Except.ok.inj entry).symm
        · exact (Except.ok.inj entry).symm
      rw [ofNode_of_render s node .pageNumber result standard registered attempt,
        components_rendered, none_]
      exact ite_self _

end Own

/-! ### Whole templates -/

namespace Tree.Places

variable {s : Surroundings} {tree : Tree} {entries : List (String × Node)}
  (places : tree.Places s entries) (standard : s.registry = .standard)
include places standard

theorem isWithin_html (entry : String × Node) (member : entry ∈ entries) (opening inside : String)
    (written : (Own.ofNode s entry.2).html = opening ++ inside ++ "</div>") :
    IsWithin opening (compile s tree).html := by
  obtain ⟨visits, walk, rfl⟩ := places
  rw [compile_html]
  refine walk.isWithin_of_placed (fun other _ opened => ?_) entry member opening inside written
  exact Own.closes_of_isShown s other.2 standard (Own.isShown_of_isOpen s other.2 opened)

-- An entry of the document is an entry of the one widget that has its id.
theorem mem_components_of_id (entry : String × Node) (member : entry ∈ entries)
    (component : Component) (listed : component ∈ (compile s tree).components)
    (same : component.id = entry.2.id) : component ∈ (Own.ofNode s entry.2).components := by
  rw [places.components_eq] at listed
  obtain ⟨other, there, own⟩ := List.mem_flatMap.mp listed
  have named := Own.components_id s other.2 standard component own
  have alone := List.inj_on_of_nodup_map places.nodup_ids there member (named.symm.trans same)
  rwa [alone] at own

end Tree.Places

/-- A widget that is shown, but whose condition does not hold on the data, has a mark on its element, and an
entry with the condition unless it is a page number. -/
theorem compile_marks_not_met (s : Surroundings) (tree : Tree) (standard : s.registry = .standard)
    (distinct : tree.keys.Nodup) :
    ∃ entries, tree.Places s entries ∧ ∀ entry ∈ entries, ∀ condition,
      (Own.ofNode s entry.2).isShown = true →
      entry.2.props.get "visibilityCondition" = .text condition →
      Condition.isMet (.text condition) s.data = .ok false →
        (∃ before rest after, (compile s tree).html =
            before ++ (Markup.openTag "div" (Markup.escaped "id" entry.2.id :: rest) ++ ">") ++ after ∧
          Markup.escaped "data-condition-hidden" "true" ∈ rest) ∧
        (entry.2.type ≠ "PageNumber" → ∃ component ∈ (compile s tree).components,
          component.id = entry.2.id ∧
            component.props.get "visibilityCondition" = .text condition) ∧
        (entry.2.type = "PageNumber" →
          ∀ component ∈ (compile s tree).components, component.id ≠ entry.2.id) := by
  obtain ⟨visits, walk⟩ := Outline.ofTree_walk s tree distinct ""
  have places : tree.Places s (placed visits) := ⟨visits, walk, rfl⟩
  refine ⟨placed visits, places, fun entry member condition shown stated fails => ⟨?_, ?_, ?_⟩⟩
  · obtain ⟨rest, inside, whole, mark⟩ :=
      Own.marks_of_not_met s entry.2 standard shown condition stated fails
    obtain ⟨before, after, html⟩ := places.isWithin_html standard entry member _ inside whole
    exact ⟨before, rest, after, html, mark⟩
  · intro other
    obtain ⟨component, own, kept⟩ :=
      Own.entered_of_not_met s entry.2 standard shown condition stated fails other
    refine ⟨component, ?_, Own.components_id s entry.2 standard component own, kept⟩
    rw [places.components_eq]
    exact List.mem_flatMap.mpr ⟨entry, member, own⟩
  · intro numbered component listed same
    have own := places.mem_components_of_id standard entry member component listed same
    rw [Own.components_of_pageNumber s entry.2 standard numbered] at own
    cases own

theorem compile_marks_divider :
    let divider : Node :=
      { Node.bare "d" "Divider" [] with props := [("visibilityCondition", .text "data.show")] }
    let tree : Tree := { nodes := [("d", divider)], rootId := none }
    let s : Surroundings := { Surroundings.plain with data := .object [("show", .bool false)] }
    (Own.ofNode s divider).isShown = true ∧
      Condition.isMet (.text "data.show") s.data = .ok false ∧
      ∃ component ∈ (compile s tree).components, component.id = "d" ∧
        component.props.get "visibilityCondition" = .text "data.show" := by
  intro divider tree s
  have shown : (Own.ofNode s divider).isShown = true := by decide +kernel
  have fails : Condition.isMet (.text "data.show") s.data = .ok false :=
    Attempt.eq_ok_of_toOption _ _ (by decide +kernel)
  have entered : (compile s tree).components.length = 1 := by decide +kernel
  obtain ⟨entries, places, marks⟩ := compile_marks_not_met s tree rfl (by decide)
  cases entries with
  | nil =>
      rw [places.components_eq] at entered
      cases entered
  | cons entry rest =>
      obtain rfl := List.mem_singleton.mp (places.subset List.mem_cons_self)
      obtain ⟨_, kept, _⟩ := marks _ List.mem_cons_self "data.show" shown rfl fails
      exact ⟨shown, fails, kept (by decide)⟩

-- A page number has the mark, but nothing tells the program when to show it again.
theorem compile_marks_pageNumber :
    let number : Node :=
      { Node.bare "n" "PageNumber" [] with props := [("visibilityCondition", .text "data.show")] }
    let tree : Tree := { nodes := [("n", number)], rootId := none }
    let s : Surroundings := { Surroundings.plain with data := .object [("show", .bool false)] }
    (Own.ofNode s number).isShown = true ∧ (compile s tree).widgetCount = 1 ∧
      Condition.isMet (.text "data.show") s.data = .ok false ∧
      ¬ ∃ component ∈ (compile s tree).components, component.id = "n" ∧
        component.props.get "visibilityCondition" = .text "data.show" := by
  intro number tree s
  have nothing : (compile s tree).components.length = 0 := by decide +kernel
  refine ⟨by decide +kernel, by decide +kernel, Attempt.eq_ok_of_toOption _ _ (by decide +kernel), ?_⟩
  rintro ⟨component, listed, _⟩
  rw [List.length_eq_zero_iff.mp nothing] at listed
  cases listed

end ReportCompiler
