import ReportCompiler.Proofs.Compile.Preview
import ReportCompiler.Proofs.Preview.Reads

/-!
What the preview of a template reads of the data. The entries of the template, compiled without data, list all
paths by which its preview looks anything up, so that data which answers alike to them, and on which the
conditions come out alike, has the same preview.
-/

namespace ReportCompiler

open ReportCompiler.Widget

/-- The same surroundings with other sample data. -/
def Surroundings.withData (s : Surroundings) (data : Value) : Surroundings := { s with data }

theorem Preview.isRefused_congr (props : Fields) (first second : Value)
    (alike : ∀ condition, props.get "visibilityCondition" = .text condition →
      Condition.isMet (.text condition) second = Condition.isMet (.text condition) first) :
    isRefused props second = isRefused props first := by
  unfold isRefused
  cases given : condition? props with
  | none => rfl
  | some condition =>
      have stated := ((condition?_eq_some_iff props condition).mp given).1
      simp only [alike condition stated]

namespace Own

section SameAnswers

variable (s : Surroundings) (node : Node) (first second : Value)
  (standard : s.registry = .standard) (given : first.isNull = false)
  (otherGiven : second.isNull = false)
  (static : ∀ finding ∈ (ofNode s.withoutData node).findings, finding.code ≠ "RENDER_FAILED")
  (alike : ∀ component ∈ (ofNode s.withoutData node).components, ∀ path ∈ component.pathTexts,
    Path.AnswersAlike first second path)
include standard static alike

-- The entry without data is made of the widget's own settings.
theorem agree_of_static (kind : Kind) (registered : Kind.ofName? node.type = some kind)
    (seen : isHidden (resolve kind.defaults node.props) = false) :
    Preview.Agree first second kind node.props := by
  obtain ⟨plain, ok, own⟩ := render_of_whole s.withoutData kind node standard registered static
  obtain ⟨empty, entered, unfilled, entry⟩ := render_spec s.withoutData kind node plain ok
  have settings : entered = node.props := by
    unfold enteredProps at unfilled
    rw [Preview.bound_of_null kind node.props _ rfl, ite_self] at unfilled
    exact (Except.ok.inj unfilled).symm
  rw [settings, kind.component_renderer_of_visible node.id _ seen] at entry
  rw [own, components_rendered, empty, seen, if_neg Bool.false_ne_true] at alike
  exact Preview.agree_of_entry first second node.id node.props plain.component
    (fun component member => alike component (Option.mem_toList.mpr member)) kind entry

theorem render_congr (given : first.isNull = false) (otherGiven : second.isNull = false)
    (refused : Preview.isRefused node.props second = Preview.isRefused node.props first)
    (kind : Kind) (registered : Kind.ofName? node.type = some kind)
    (seen : isHidden (resolve kind.defaults node.props) = false) :
    Own.render (s.withData second) kind.renderer node =
      Own.render (s.withData first) kind.renderer node := by
  have agree := agree_of_static s node first second standard static alike kind registered seen
  have bound : Preview.bound kind.renderer.kind node.props second =
      Preview.bound kind.renderer.kind node.props first :=
    Preview.bound_congr first second given otherGiven kind node.props agree refused
  simp only [Own.render, Surroundings.withData, given, otherGiven, bound]

/-- A widget contributes the same to both previews. -/
theorem ofNode_congr (given : first.isNull = false) (otherGiven : second.isNull = false)
    (refused : Preview.isRefused node.props second = Preview.isRefused node.props first)
    (shown : ∀ finding ∈ (ofNode (s.withData first) node).findings, finding.code ≠ "RENDER_FAILED")
    (otherShown : ∀ finding ∈ (ofNode (s.withData second) node).findings,
      finding.code ≠ "RENDER_FAILED") :
    ofNode (s.withData second) node = ofNode (s.withData first) node := by
  cases registered : Kind.ofName? node.type with
  | none =>
      rw [ofNode_of_unknown (s.withData first) node standard registered,
        ofNode_of_unknown (s.withData second) node standard registered]
  | some kind =>
      obtain ⟨result, ok, own⟩ :=
        render_of_whole (s.withData first) kind node standard registered shown
      obtain ⟨other, otherOk, otherOwn⟩ :=
        render_of_whole (s.withData second) kind node standard registered otherShown
      by_cases away : isHidden (resolve kind.defaults node.props) = true
      -- A hidden widget gives nothing, whatever the data may be.
      · have empty := (render_spec _ kind node result ok).1.trans away
        have otherEmpty := (render_spec _ kind node other otherOk).1.trans away
        rw [own, otherOwn, rendered, rendered, if_pos empty, if_pos otherEmpty]
      · have same := render_congr s node first second standard static alike given otherGiven refused
          kind registered (Bool.eq_false_iff.mpr away)
        rw [own, otherOwn, Except.ok.inj (otherOk.symm.trans (same.trans ok))]

end SameAnswers

end Own

/-- Data that answers alike to all paths of the entries without data, and on which all conditions come out
alike, has the same preview. -/
theorem compile_of_answersAlike (s : Surroundings) (tree : Tree) (first second : Value)
    (standard : s.registry = .standard) (distinct : tree.keys.Nodup)
    (given : first.isNull = false) (otherGiven : second.isNull = false)
    (alike : ∀ component ∈ (compile s.withoutData tree).components, ∀ path ∈ component.pathTexts,
      Path.resolve path second = Path.resolve path first)
    (conditions : ∀ entry ∈ tree.nodes, ∀ condition,
      entry.2.props.get "visibilityCondition" = .text condition →
        Condition.isMet (.text condition) second = Condition.isMet (.text condition) first)
    (static : (compile s.withoutData tree).IsWhole) (shown : (compile (s.withData first) tree).IsWhole)
    (otherShown : (compile (s.withData second) tree).IsWhole) :
    compile (s.withData second) tree = compile (s.withData first) tree := by
  obtain ⟨entries, here, plain, _⟩ :=
    exists_places_beside (s.withData first) s.withoutData tree standard standard distinct shown static
  have quiet : ∀ finding ∈ (compile (s.withData second) (tree.mapProps id)).findings,
      finding.code ≠ "RENDER_FAILED" := by
    rw [Tree.mapProps_id]
    exact otherShown
  have same := compile_congr_of_places id (s.withData first) (s.withData second) tree _ distinct
    shown quiet ?_ ?_
  · rwa [Tree.mapProps_id] at same
  · intro entry _ calm
    have agrees := Own.agrees_of_whole (s.withData first) (s.withData second) entry.2 standard
      standard calm.1 calm.2
    have opened : (Own.ofNode (s.withData second) (entry.2.mapProps id)).isOpen =
      (Own.ofNode (s.withData first) entry.2).isOpen := agrees.isOpen
    rw [openChildren, openChildren, opened]
    rfl
  · intro others places entry member calm
    obtain rfl := here.unique others places
    have listed : (Own.ofNode s.withoutData entry.2).components ⊆
        (compile s.withoutData tree).components := by
      intro component inside
      rw [plain.components_eq]
      exact List.mem_flatMap.mpr ⟨entry, member, inside⟩
    have refused := Preview.isRefused_congr entry.2.props first second
      (conditions entry (here.subset member))
    exact Own.ofNode_congr s entry.2 first second standard
      (fun finding found => static finding (plain.findings_subset entry member found))
      (fun component inside => alike component (listed inside)) given otherGiven refused
      calm.1 calm.2

theorem compile_of_answersAlike_unread :
    let text : Node :=
      { Node.bare "t" "Text" [] with
        props := [("binding", .text " data.total "), ("visibilityCondition", .text "total > 1")] }
    let chart : Node :=
      { Node.bare "c" "Chart" [] with
        props := [("title", .text "\x7b\x7bname\x7d\x7d"),
          ("datasets", .list [.object [("binding", .text "points")]])] }
    let tree : Tree := { nodes := [("t", text), ("c", chart)], rootId := none }
    let data : Value → Value := fun spare =>
      .object [("total", .int 3), ("name", .text "Sales"), ("points", .list [.int 1, .int 2]),
        ("spare", spare)]
    compile (Surroundings.plain.withData (data (.int 1))) tree =
      compile (Surroundings.plain.withData (data .null)) tree := by
  intro text chart tree data
  have static : (compile Surroundings.plain.withoutData tree).IsWhole := by
    unfold Compiled.IsWhole
    decide +kernel
  have shown : ∀ spare ∈ [.null, .int 1],
      (compile (Surroundings.plain.withData (data spare)) tree).IsWhole := by
    unfold Compiled.IsWhole
    decide +kernel
  have asked : ∀ component ∈ (compile Surroundings.plain.withoutData tree).components,
      ∀ path ∈ component.pathTexts, path ∈ ["data.total", "name", "points"] := by
    decide +kernel
  refine compile_of_answersAlike .plain tree (data .null) (data (.int 1)) rfl (by decide) rfl rfl
    ?_ ?_ static (shown _ (by simp)) (shown _ (by simp))
  · intro component member path listed
    have one := asked component member path listed
    have unread : ∀ path key, path ≠ "" → Text.split '.' (Path.normalize path) = [key] →
        key ≠ "spare" → Path.resolve path (data (.int 1)) = Path.resolve path (data .null) := by
      intro path key given part other
      rw [Path.resolve_field path key _ given part, Path.resolve_field path key _ given part]
      simp [Fields.get_cons, other]
    simp only [List.mem_cons, List.not_mem_nil, or_false] at one
    rcases one with rfl | rfl | rfl
    · exact unread _ "total" (by decide) (by decide +kernel) (by decide)
    · exact unread _ "name" (by decide) (by decide +kernel) (by decide)
    · exact unread _ "points" (by decide) (by decide +kernel) (by decide)
  · refine List.forall_mem_cons.mpr ⟨?_, List.forall_mem_singleton.mpr ?_⟩
    · intro condition stated
      obtain rfl := Value.text.inj stated
      have met : ∀ spare ∈ [.null, .int 1],
          (Condition.isMet (.text "total > 1") (data spare)).toOption = some true := by
        decide +kernel
      rw [Attempt.eq_ok_of_toOption _ _ (met (.int 1) (by simp)),
        Attempt.eq_ok_of_toOption _ _ (met .null (by simp))]
    · intro condition impossible
      cases impossible

end ReportCompiler
