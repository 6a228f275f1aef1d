import ReportCompiler.Proofs.Compile.Preview
import ReportCompiler.Proofs.Preview.Unbound
import ReportCompiler.Proofs.Widget.Lookups

/-!
Templates that read no data. Whatever the data is, their preview is the document without data, character by
character.
-/

namespace ReportCompiler

open ReportCompiler.Widget

namespace Widget

/-- Writing the datasets of a chart again changes no setting that is asked for. -/
theorem get_resolve_set (defaults given : Fields) (key : String)
    (present : (given.get key).isPresent = true) (name : String) :
    (resolve defaults (given.set key (given.get key))).get name =
      (resolve defaults given).get name := by
  have stated : (given.get key).isNull = false := by
    cases value : given.get key with
    | null => rw [value] at present; cases present
    | _ => rfl
  by_cases asked : name = key
  · subst asked
    have again : (given.set name (given.get name)).get name = given.get name :=
      Fields.get_set_self given name _
    rw [get_resolve_of_given defaults given name stated,
      get_resolve_of_given defaults _ name (by rw [again]; exact stated), again]
  · refine get_resolve_of_without defaults given _ [key] ?_ name (by simpa using asked)
    exact Fields.without_set [key] given key _ (List.mem_singleton_self key)

end Widget

namespace Own

theorem render_of_unbound (s : Surroundings) (kind : Kind) (node : Node) (result plain : Rendered)
    (registered : Kind.ofName? node.type = some kind) (unbound : node.IsUnbound s.data)
    (ok : Own.render s kind.renderer node = .ok result)
    (static : Own.render s.withoutData kind.renderer node = .ok plain) : result = plain := by
  have static : kind.renderer.render s.now node.id node.props = .ok plain := static
  unfold Own.render at ok
  split at ok
  · exact Except.ok.inj (ok.symm.trans static)
  · next given =>
      obtain ⟨filled, bound, shown⟩ := (Attempt.bind_eq_ok_iff _ _ _).mp ok
      obtain ⟨first, rendered, rest⟩ := (Attempt.bind_eq_ok_iff _ _ _).mp shown
      -- The widget is rendered as it would be without data, and so has the entry it would have.
      have same : first = plain := by
        rcases Preview.bound_of_unbound s.data kind node filled (by simpa using given) registered
          unbound bound with rfl | ⟨rfl, present, rfl⟩
        · exact Except.ok.inj (rendered.symm.trans static)
        · rw [Kind.chart.render_congr node.id node.props _
            (funext (get_resolve_set Chart.defaults node.props "datasets" present))] at rendered
          exact Except.ok.inj (rendered.symm.trans static)
      split at rest
      · rw [← (Attempt.pure_eq_ok_iff _ _).mp rest, same]
      · obtain ⟨entry, made, whole⟩ := (Attempt.bind_eq_ok_iff _ _ _).mp rest
        have own := (kind.gist_of_render s.now node.id node.props plain static).2
        rw [← (Attempt.pure_eq_ok_iff _ _).mp whole, same, Except.ok.inj (made.symm.trans own)]

theorem ofNode_of_unbound (s : Surroundings) (node : Node) (standard : s.registry = .standard)
    (unbound : node.IsUnbound s.data)
    (static : ∀ finding ∈ (ofNode s.withoutData node).findings, finding.code ≠ "RENDER_FAILED")
    (shown : ∀ finding ∈ (ofNode s node).findings, finding.code ≠ "RENDER_FAILED") :
    ofNode s node = ofNode s.withoutData node := by
  cases registered : Kind.ofName? node.type with
  | none =>
      rw [ofNode_of_unknown s node standard registered,
        ofNode_of_unknown s.withoutData node standard registered]
  | some kind =>
      obtain ⟨result, ok, own⟩ := render_of_whole s kind node standard registered shown
      obtain ⟨plain, plainOk, plainOwn⟩ :=
        render_of_whole s.withoutData kind node standard registered static
      rw [own, plainOwn, render_of_unbound s kind node result plain registered unbound ok plainOk]

end Own

/-- The preview of a template that reads no data is the document without data. -/
theorem compile_of_unbound (s : Surroundings) (tree : Tree) (standard : s.registry = .standard)
    (distinct : tree.keys.Nodup) (unbound : ∀ entry ∈ tree.nodes, entry.2.IsUnbound s.data)
    (shown : (compile s tree).IsWhole) (static : (compile s.withoutData tree).IsWhole) :
    compile s tree = compile s.withoutData tree := by
  have quiet : ∀ finding ∈ (compile s (tree.mapProps id)).findings,
      finding.code ≠ "RENDER_FAILED" := by
    rw [Tree.mapProps_id]
    exact shown
  have same := compile_congr id s.withoutData s tree _ distinct static quiet
    fun entry member calm =>
      Own.ofNode_of_unbound s entry.2 standard (unbound entry member) calm.1 calm.2
  rw [Tree.mapProps_id] at same
  exact same

theorem compile_of_unbound_datasets :
    let chart : Node :=
      { Node.bare "c" "Chart" [] with
        props := [("title", .text "Sales"), ("datasets", .list [.object [("label", .text "A")]])] }
    let text : Node := { Node.bare "t" "Text" [] with props := [("text", .text "\x7b\x7b no marker")] }
    let tree : Tree := { nodes := [("c", chart), ("t", text)], rootId := none }
    let s : Surroundings := { Surroundings.plain with data := .object [("total", .int 3)] }
    (∀ entry ∈ tree.nodes, entry.2.IsUnbound s.data) ∧
      compile s tree = compile s.withoutData tree := by
  intro chart text tree s
  have unbound : ∀ entry ∈ tree.nodes, entry.2.IsUnbound s.data := by
    refine List.forall_mem_cons.mpr ⟨⟨by decide, by decide, by decide, ?_, ?_⟩,
      List.forall_mem_singleton.mpr ⟨by decide, by decide, by decide, ?_, ?_⟩⟩
    · intro _ items given own member
      cases given
      obtain rfl := Value.object.inj (List.mem_singleton.mp member)
      rfl
    · intro refused
      cases refused
    · intro _ items given
      cases given
    · intro refused
      cases refused
  have shown : (compile s tree).IsWhole := by unfold Compiled.IsWhole; decide +kernel
  have static : (compile s.withoutData tree).IsWhole := by unfold Compiled.IsWhole; decide +kernel
  exact ⟨unbound, compile_of_unbound s tree rfl (by decide) unbound shown static⟩

end ReportCompiler
