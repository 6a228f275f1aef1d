import ReportCompiler.Proofs.Widget.Settings

/-!
Widgets read their settings by looking them up, and by nothing else: settings that answer every lookup alike
have the same markup and the same entry.
-/

namespace ReportCompiler

namespace Widget

section Drawings

variable (props others : Fields) (same : others.get = props.get)
include same

theorem bindingText_congr : bindingText others = bindingText props := by
  simp only [bindingText, same]

theorem hasBinding_congr : hasBinding others = hasBinding props := by
  simp only [hasBinding, bindingText_congr props others same]

theorem frame_congr (kind : Kind) (id style : String) (more : List Attribute) (children : List Markup) :
    frame kind id others style more children = frame kind id props style more children := by
  have binding : bindingAttribute others = bindingAttribute props := by
    simp only [bindingAttribute, hasBinding_congr props others same, bindingText_congr props others same]
  have condition : conditionAttribute others = conditionAttribute props := by
    simp only [conditionAttribute, condition?_congr props others (congrFun same _)]
  have hidden : hiddenAttribute others = hiddenAttribute props := by
    simp only [hiddenAttribute, same]
  simp only [frame, attributes, binding, condition, hidden]

theorem Gauge.draw_congr (id : String) : Gauge.draw id others = Gauge.draw id props := by
  have shape : ∀ percentage, geometry percentage others = geometry percentage props := by
    intro percentage
    simp only [geometry, same]
  have inside : ∀ g value, middle g value others = middle g value props := by
    intro g value
    simp only [middle, same]
  simp only [draw, Measure.ofProps, shape, inside, frame_congr props others same, style, Style.position,
    drawing, same]

/-- Settings that answer alike are drawn alike. -/
theorem Kind.draw_congr (kind : Kind) (now : Moment) (id : String) :
    kind.draw now id others = kind.draw now id props := by
  have framed := frame_congr props others same
  have placed : Style.position others = Style.position props := by
    simp only [Style.position, same]
  cases kind with
  | gauge => exact Gauge.draw_congr props others same id
  | page => simp only [Kind.draw, Page.draw, Page.style, framed, same]
  | container => simp only [Kind.draw, Container.draw, Container.style, framed, placed, same]
  | spacer => simp only [Kind.draw, Spacer.draw, framed, placed]
  | divider =>
      have horizontal : Divider.isHorizontal others = Divider.isHorizontal props := by
        simp only [Divider.isHorizontal, same]
      simp only [Kind.draw, Divider.draw, Divider.style, Divider.lineStyle, horizontal, framed, placed, same]
  | pageBreak => simp only [Kind.draw, PageBreak.draw, framed, placed]
  | pageNumber => simp only [Kind.draw, PageNumber.draw, PageNumber.style, framed, placed, same]
  | image =>
      have style : Image.imageStyle others = Image.imageStyle props := by
        unfold Image.imageStyle
        rw [same]
      simp only [Kind.draw, Image.draw, style, framed, placed, same]
  | text =>
      simp only [Kind.draw, FreeText.draw, FreeText.style, hasBinding_congr props others same, framed,
        placed, same]
  | bulletList => simp only [Kind.draw, BulletList.draw, BulletList.style, framed, placed, same]
  | dateTime =>
      simp only [Kind.draw, DateTime.draw, DateTime.shown, DateTime.style, framed, placed, same]
  | indicator =>
      simp only [Kind.draw, Indicator.draw, Indicator.badge, Status.shownLabel, framed, placed, same]
  | progressBar =>
      have measured : Measure.ofProps others = Measure.ofProps props := by
        simp only [Measure.ofProps, same]
      have shows : ProgressBar.showsValue others = ProgressBar.showsValue props := by
        simp only [ProgressBar.showsValue, same]
      simp only [Kind.draw, ProgressBar.draw, ProgressBar.caption, ProgressBar.bar, ProgressBar.style,
        measured, shows, framed, placed, same]
  | table => simp only [Kind.draw, Table.draw, Table.content, framed, placed, same]
  | chart => simp only [Kind.draw, Chart.draw, framed, placed, same]

end Drawings

/-! ### Renderings -/

section Renderings

variable (kind : Kind) (id : String) (given others : Fields)
  (same : (resolve kind.defaults others).get = (resolve kind.defaults given).get)
include same

theorem Kind.component_congr :
    kind.renderer.component id others = kind.renderer.component id given := by
  rw [component_renderer, component_renderer, isHidden_congr _ _ (congrFun same "visible"),
    kind.entry_congr id _ _ fun name _ => congrFun same name]

theorem Kind.render_congr (now : Moment) :
    kind.renderer.render now id others = kind.renderer.render now id given := by
  rw [render_eq, render_eq, isHidden_congr _ _ (congrFun same "visible"),
    Kind.draw_congr _ _ same kind now id, kind.entry_congr id _ _ fun name _ => congrFun same name]

end Renderings

theorem resolve_congr (defaults given others : Fields) (alike : given.Alike others) :
    (resolve defaults others).get = (resolve defaults given).get := by
  rw [resolve, resolve, List.append_assoc, List.append_assoc, alike.withoutNulls_append]

end Widget

end ReportCompiler
