import ReportCompiler.Preview.Binding
import ReportCompiler.Proofs.Widget.Lookups

/-!
Sample data filled into settings that answer alike. Binding looks settings up and sets some of them, so that
what comes out of it answers alike again, or it fails on both in the same way.
-/

namespace ReportCompiler

open ReportCompiler.Widget

namespace Preview

/-- Two changes, each to settings of its own, that come to settings which answer alike. -/
def ChangedAlike (first second : Fields) (change other : Change) : Prop :=
  Fields.Alike (change.getD first) (other.getD second)

theorem withLabels_alike {first second : Fields} (alike : first.Alike second) (labels : List Value) :
    (withLabels labels first).Alike (withLabels labels second) := by
  unfold withLabels
  split
  · exact alike
  · exact alike.set "labels" _

section Binders

variable {first second : Fields} (alike : first.Alike second) (data : Value)
include alike

omit data in
theorem unchanged_alike : Attempt.Related (ChangedAlike first second) (.ok none) (.ok none) :=
  .ok none none alike

omit data in
theorem changed_alike (key : String) (value : Value) :
    Attempt.Related (ChangedAlike first second) (.ok (some (first.set key value)))
      (.ok (some (second.set key value))) :=
  .ok _ _ (alike.set key value)

theorem boundValue_of_alike : boundValue second data = boundValue first data := by
  rw [boundValue, boundValue, bindingText_congr first second alike.get_eq]

theorem isRefused_of_alike : isRefused second data = isRefused first data := by
  rw [isRefused, isRefused, condition?_congr first second (congrFun alike.get_eq _)]

-- Most binders differ only in what they make of the value that the widget is bound to.
theorem bindValue_alike (fill fillOther : Value → Except Fault Change)
    (each : ∀ value, Attempt.Related (ChangedAlike first second) (fill value) (fillOther value)) :
    Attempt.Related (ChangedAlike first second) (boundValue first data >>= fill)
      (boundValue second data >>= fillOther) := by
  rw [boundValue_of_alike alike]
  refine (Attempt.Related.refl _).bind _ _ ?_
  rintro value _ rfl
  exact each value

theorem bindText_alike :
    Attempt.Related (ChangedAlike first second) (bindText first data) (bindText second data) := by
  have unchanged := unchanged_alike alike
  unfold bindText
  rw [hasBinding_congr first second alike.get_eq]
  split
  · refine bindValue_alike alike data _ _ fun value => ?_
    cases value with
    | null => exact unchanged
    | _ => exact changed_alike alike "text" _
  · rw [alike.get_eq]
    cases first.get "text" with
    | text s =>
        dsimp only
        split
        · refine (Attempt.Related.refl (Marker.interpolate s data)).bind _ _ ?_
          rintro filled _ rfl
          exact changed_alike alike "text" _
        · exact unchanged
    | _ => exact unchanged

theorem bindTable_alike :
    Attempt.Related (ChangedAlike first second) (bindTable first data) (bindTable second data) := by
  refine bindValue_alike alike data _ _ fun value => ?_
  cases value with
  | list rows => exact changed_alike alike "data" _
  | _ => exact unchanged_alike alike

theorem bindBulletList_alike :
    Attempt.Related (ChangedAlike first second) (bindBulletList first data) (bindBulletList second data) := by
  refine bindValue_alike alike data _ _ fun value => ?_
  cases value with
  | null => exact unchanged_alike alike
  | _ => exact changed_alike alike "items" _

theorem bindIndicator_alike :
    Attempt.Related (ChangedAlike first second) (bindIndicator first data) (bindIndicator second data) := by
  refine bindValue_alike alike data _ _ fun value => ?_
  cases value with
  | null => exact unchanged_alike alike
  | _ => exact changed_alike alike "status" _

theorem bindMeasure_alike :
    Attempt.Related (ChangedAlike first second) (bindMeasure first data) (bindMeasure second data) := by
  refine bindValue_alike alike data _ _ fun value => ?_
  cases value.number? with
  | none => exact unchanged_alike alike
  | some n => exact changed_alike alike "value" _

theorem bindDate_alike :
    Attempt.Related (ChangedAlike first second) (bindDate first data) (bindDate second data) := by
  refine bindValue_alike alike data _ _ fun value => ?_
  cases value with
  | null => exact unchanged_alike alike
  | _ => exact changed_alike alike "value" _

/-! ### Charts -/

theorem boundTitle_alike :
    Attempt.Related Fields.Alike (boundTitle first data) (boundTitle second data) := by
  unfold boundTitle
  rw [alike.get_eq]
  cases first.get "title" with
  | text s =>
      dsimp only
      split
      · refine (Attempt.Related.refl (Marker.interpolate s data)).bind _ _ ?_
        rintro filled _ rfl
        exact .ok _ _ (alike.set "title" _)
      · exact .ok _ _ alike
  | _ => exact .ok _ _ alike

theorem bindChart_alike :
    Attempt.Related Fields.Alike (bindChart first data) (bindChart second data) := by
  unfold bindChart
  rw [alike.get_eq, boundValue_of_alike alike]
  refine (boundTitle_alike alike data).bind _ _ fun titled otherTitled titles => ?_
  dsimp only
  split
  · refine (Attempt.Related.refl (first.get "datasets").items?).bind _ _ ?_
    rintro items _ rfl
    refine (Attempt.Related.refl (bindDatasets data [] items)).bind _ _ ?_
    rintro ⟨bound, labels⟩ _ rfl
    exact .ok _ _ (withLabels_alike (titles.set "datasets" _) labels)
  · refine (Attempt.Related.refl (boundValue first data)).bind _ _ ?_
    rintro value _ rfl
    refine (Attempt.Related.refl (Series.ofValue? value)).bind _ _ ?_
    rintro series _ rfl
    cases series with
    | none => exact .ok _ _ titles
    | some series => exact .ok _ _ (withLabels_alike (titles.set "dataPoints" _) _)

/-! ### All widgets -/

theorem bindKind_alike (kind : Kind) :
    Attempt.Related (ChangedAlike first second) (bindKind first data kind) (bindKind second data kind) := by
  cases kind with
  | text => exact bindText_alike alike data
  | table => exact bindTable_alike alike data
  | bulletList => exact bindBulletList_alike alike data
  | indicator => exact bindIndicator_alike alike data
  | gauge => exact bindMeasure_alike alike data
  | progressBar => exact bindMeasure_alike alike data
  | dateTime => exact bindDate_alike alike data
  | chart => exact (bindChart_alike alike data).map _ _ fun _ _ charts => charts
  | _ => exact unchanged_alike alike

theorem bind_alike (kind : Kind) :
    Attempt.Related (ChangedAlike first second) (bind kind first data) (bind kind second data) := by
  unfold bind
  split
  · exact unchanged_alike alike
  · rw [isRefused_of_alike alike]
    refine (bindKind_alike alike data kind).bind _ _ fun change other changes => ?_
    refine (Attempt.Related.refl (isRefused first data)).bind _ _ ?_
    rintro refused _ rfl
    cases refused with
    | true => exact .ok _ _ (changes.set hiddenByCondition _)
    | false => exact .ok _ _ changes

/-- Settings that answer alike do so with the data filled in, or fail to be bound in the same way. -/
theorem bound_alike (kind : Kind) :
    Attempt.Related Fields.Alike (bound kind first data) (bound kind second data) :=
  (bind_alike alike data kind).bind _ _ fun _ _ changes => .ok _ _ changes

end Binders

end Preview

end ReportCompiler
