import ReportCompiler.Proofs.Attempt
import ReportCompiler.Proofs.Widget.Vocabulary

/-!
Every kind of widget keeps to its vocabulary, and what its settings say stays inside the texts and values
where it was put. The bar of a progress bar is the one place where a setting is not escaped.
-/

namespace ReportCompiler

namespace Widget

open Markup

theorem mem_optional (name : String) (content : Value) (a : Attribute)
    (member : a ∈ Markup.optional name content) : a.name = name ∧ '"' ∉ a.source.toList := by
  unfold Markup.optional at member
  split at member <;> simp only [List.mem_cons, List.not_mem_nil, or_false] at member
  rw [member]
  exact ⟨rfl, quote_not_mem_escapeValue content⟩

/-! ### Layout -/

theorem Divider.draw_isFrom (id : String) (props : Fields) :
    (Divider.draw id props).All (Token.IsFrom Kind.divider.vocabulary) := by
  apply frame_isFrom _ frameNames <;>
    simp [Kind.vocabulary, all_element, Token.IsFrom, escaped]

theorem Divider.draw_isEnclosed (id : String) (props : Fields) :
    (Divider.draw id props).All Token.IsEnclosed := by
  apply frame_isEnclosed <;> simp [all_element, Token.IsEnclosed, escaped]

theorem PageNumber.draw_isFrom (id : String) (props : Fields) :
    (PageNumber.draw id props).All (Token.IsFrom Kind.pageNumber.vocabulary) := by
  apply frame_isFrom _ ("data-format" :: "class" :: frameNames)
  · simp [Kind.vocabulary]
  · simp
  · intro a member
    rcases List.mem_append.mp member with format | named
    · simp [(mem_optional _ _ a format).1]
    · simp [List.mem_singleton.mp named, asWritten]
  · unfold body
    split <;> simp [counter, all_element, Token.IsFrom, Kind.vocabulary, asWritten]

theorem PageNumber.draw_isEnclosed (id : String) (props : Fields) :
    (PageNumber.draw id props).All Token.IsEnclosed := by
  apply frame_isEnclosed
  · intro a member
    rcases List.mem_append.mp member with format | named
    · exact (mem_optional _ _ a format).2
    · simp [List.mem_singleton.mp named, asWritten]
  · unfold body
    split <;> simp [counter, all_element, Token.IsEnclosed, asWritten]

theorem Image.draw_isFrom (id : String) (props : Fields) :
    (Image.draw id props).All (Token.IsFrom Kind.image.vocabulary) := by
  apply frame_isFrom _ frameNames <;>
    simp [Kind.vocabulary, all_single, Token.IsFrom, asWritten, escaped]

theorem Image.draw_isEnclosed (id : String) (props : Fields) :
    (Image.draw id props).All Token.IsEnclosed := by
  apply frame_isEnclosed <;> simp [all_single, Token.IsEnclosed, asWritten, escaped]

/-! ### Text -/

theorem FreeText.draw_isFrom (id : String) (props : Fields) :
    (FreeText.draw id props).All (Token.IsFrom Kind.text.vocabulary) := by
  apply frame_isFrom _ ("data-has-bindings" :: frameNames)
  · simp [Kind.vocabulary]
  · simp
  · split <;> simp [asWritten]
  · simp

theorem FreeText.draw_isEnclosed (id : String) (props : Fields) :
    (FreeText.draw id props).All Token.IsEnclosed := by
  apply frame_isEnclosed
  · split <;> simp [asWritten]
  · simp

theorem BulletList.draw_isFrom (id : String) (props : Fields) :
    (BulletList.draw id props).All (Token.IsFrom Kind.bulletList.vocabulary) := by
  apply frame_isFrom _ frameNames
  · simp [Kind.vocabulary]
  · simp
  · simp
  · unfold listMarkup
    split <;> simp [all_element, Token.IsFrom, Kind.vocabulary, asWritten]

theorem BulletList.draw_isEnclosed (id : String) (props : Fields) :
    (BulletList.draw id props).All Token.IsEnclosed := by
  apply frame_isEnclosed <;> simp [listMarkup, all_element, Token.IsEnclosed, asWritten]

theorem DateTime.draw_isFrom (now : Moment) (id : String) (props : Fields) (tree : Markup)
    (drawn : DateTime.draw now id props = .ok tree) :
    tree.All (Token.IsFrom Kind.dateTime.vocabulary) := by
  obtain ⟨shown, _, made⟩ := (Attempt.bind_eq_ok_iff _ _ _).mp drawn
  rw [← (Attempt.pure_eq_ok_iff _ _).mp made]
  apply frame_isFrom _ ("data-format" :: frameNames)
  · simp [Kind.vocabulary]
  · simp
  · intro a member
    simp [(mem_optional _ _ a member).1]
  · simp

theorem DateTime.draw_isEnclosed (now : Moment) (id : String) (props : Fields) (tree : Markup)
    (drawn : DateTime.draw now id props = .ok tree) : tree.All Token.IsEnclosed := by
  obtain ⟨shown, _, made⟩ := (Attempt.bind_eq_ok_iff _ _ _).mp drawn
  rw [← (Attempt.pure_eq_ok_iff _ _).mp made]
  apply frame_isEnclosed
  · exact fun a member => (mem_optional _ _ a member).2
  · simp

/-! ### States and measures -/

theorem quote_free_append (first second : String) :
    '"' ∉ (first ++ second).toList ↔ '"' ∉ first.toList ∧ '"' ∉ second.toList := by
  simp

theorem Indicator.draw_isFrom (id : String) (props : Fields) :
    (Indicator.draw id props).All (Token.IsFrom Kind.indicator.vocabulary) := by
  apply frame_isFrom _ ("data-status" :: frameNames) <;>
    simp [badge, Kind.vocabulary, all_element, Token.IsFrom, asWritten, escaped]

theorem Status.palette_inert (status : Status) :
    '"' ∉ status.palette.border.toList ∧ '"' ∉ status.palette.background.toList ∧
      '"' ∉ status.palette.text.toList ∧ '<' ∉ status.palette.icon.toList := by
  cases status <;> decide

theorem Indicator.draw_isEnclosed (id : String) (props : Fields) :
    (Indicator.draw id props).All Token.IsEnclosed := by
  apply frame_isEnclosed
  · simp [escaped]
  · generalize Status.ofValue (props.get "status") = status
    obtain ⟨border, background, text, icon⟩ := Status.palette_inert status
    intro child member
    rw [List.mem_singleton.mp member, badge]
    simp only [all_element, Token.IsEnclosed, asWritten, List.forall_mem_cons, quote_free_append]
    simp [border, background, text, icon]

theorem Gauge.drawing_isFrom (g : Gauge.Geometry) (props : Fields) :
    (Gauge.drawing g props).All (Token.IsFrom Kind.gauge.vocabulary) := by
  simp [Gauge.drawing, Gauge.circle, Kind.vocabulary, all_element, all_single, Token.IsFrom,
    asWritten]

theorem Gauge.drawing_isEnclosed (g : Gauge.Geometry) (props : Fields) :
    (Gauge.drawing g props).All Token.IsEnclosed := by
  have stroke : '"' ∉ (toString Gauge.strokeWidth).toList :=
    (areNumerals_toString _).inert '"' (by decide)
  simp only [Int.toString_eq_repr] at stroke
  simp [Gauge.drawing, Gauge.circle, all_element, all_single, Token.IsEnclosed, asWritten, stroke]

theorem Gauge.middle_isFrom (g : Gauge.Geometry) (value : Number) (props : Fields) (tree : Markup)
    (drawn : Gauge.middle g value props = .ok tree) :
    tree.All (Token.IsFrom Kind.gauge.vocabulary) := by
  obtain ⟨large, _, rest⟩ := (Attempt.bind_eq_ok_iff _ _ _).mp drawn
  obtain ⟨small, _, made⟩ := (Attempt.bind_eq_ok_iff _ _ _).mp rest
  rw [← (Attempt.pure_eq_ok_iff _ _).mp made]
  split <;> simp [Kind.vocabulary, all_element, Token.IsFrom, asWritten]

theorem Gauge.middle_isEnclosed (g : Gauge.Geometry) (value : Number) (props : Fields)
    (tree : Markup) (drawn : Gauge.middle g value props = .ok tree) :
    tree.All Token.IsEnclosed := by
  obtain ⟨large, _, rest⟩ := (Attempt.bind_eq_ok_iff _ _ _).mp drawn
  obtain ⟨small, _, made⟩ := (Attempt.bind_eq_ok_iff _ _ _).mp rest
  rw [← (Attempt.pure_eq_ok_iff _ _).mp made]
  split <;> simp [all_element, Token.IsEnclosed, asWritten]

theorem Gauge.draw_isFrom (id : String) (props : Fields) (tree : Markup)
    (drawn : Gauge.draw id props = .ok tree) :
    tree.All (Token.IsFrom Kind.gauge.vocabulary) := by
  obtain ⟨percentage, _, rest⟩ := (Attempt.bind_eq_ok_iff _ _ _).mp drawn
  obtain ⟨g, _, rest⟩ := (Attempt.bind_eq_ok_iff _ _ _).mp rest
  obtain ⟨middle, shown, made⟩ := (Attempt.bind_eq_ok_iff _ _ _).mp rest
  rw [← (Attempt.pure_eq_ok_iff _ _).mp made]
  have arc := Gauge.drawing_isFrom g props
  have center := Gauge.middle_isFrom g _ props middle shown
  apply frame_isFrom _
    ("data-value" :: "data-arc-length" :: "data-circumference" :: frameNames)
  · simp [Kind.vocabulary]
  · exact fun name member => by simp [member]
  · simp [escaped]
  · intro child member
    rw [List.mem_singleton.mp member, all_element]
    refine ⟨?_, by simpa using ⟨arc, center⟩, ?_⟩ <;>
      simp [Kind.vocabulary, Token.IsFrom, asWritten]

theorem Gauge.draw_isEnclosed (id : String) (props : Fields) (tree : Markup)
    (drawn : Gauge.draw id props = .ok tree) : tree.All Token.IsEnclosed := by
  obtain ⟨percentage, _, rest⟩ := (Attempt.bind_eq_ok_iff _ _ _).mp drawn
  obtain ⟨g, _, rest⟩ := (Attempt.bind_eq_ok_iff _ _ _).mp rest
  obtain ⟨middle, shown, made⟩ := (Attempt.bind_eq_ok_iff _ _ _).mp rest
  rw [← (Attempt.pure_eq_ok_iff _ _).mp made]
  have arc := Gauge.drawing_isEnclosed g props
  have center := Gauge.middle_isEnclosed g _ props middle shown
  apply frame_isEnclosed
  · simp [escaped]
  · intro child member
    rw [List.mem_singleton.mp member, all_element]
    refine ⟨?_, by simpa using ⟨arc, center⟩, trivial⟩
    simp [Token.IsEnclosed, asWritten]

theorem ProgressBar.caption_isFrom (percentage : Double) (props : Fields) :
    ∀ row ∈ ProgressBar.caption percentage props,
      row.All (Token.IsFrom Kind.progressBar.vocabulary) := by
  intro row member
  obtain ⟨_, only⟩ := List.mem_ite_nil_right.mp member
  rw [List.mem_singleton.mp only]
  split <;> simp [Kind.vocabulary, all_element, Token.IsFrom, asWritten]

theorem ProgressBar.caption_isEnclosed (percentage : Double) (props : Fields) :
    ∀ row ∈ ProgressBar.caption percentage props, row.All Token.IsEnclosed := by
  intro row member
  obtain ⟨_, only⟩ := List.mem_ite_nil_right.mp member
  rw [List.mem_singleton.mp only]
  split <;> simp [all_element, Token.IsEnclosed, asWritten]

theorem ProgressBar.bar_isFrom (percentage : Double) (props : Fields) :
    (ProgressBar.bar percentage props).All (Token.IsFrom Kind.progressBar.vocabulary) := by
  simp [ProgressBar.bar, Kind.vocabulary, all_element, Token.IsFrom, asWritten]

-- The corner is written into two values the way it is given.
theorem ProgressBar.bar_isEnclosed_iff (percentage : Double) (props : Fields) :
    (ProgressBar.bar percentage props).All Token.IsEnclosed ↔
      '"' ∉ (props.get "borderRadius").plain.toList := by
  simp [ProgressBar.bar, all_element, Token.IsEnclosed, asWritten]

theorem ProgressBar.draw_isFrom (id : String) (props : Fields) (tree : Markup)
    (drawn : ProgressBar.draw id props = .ok tree) :
    tree.All (Token.IsFrom Kind.progressBar.vocabulary) := by
  obtain ⟨percentage, _, made⟩ := (Attempt.bind_eq_ok_iff _ _ _).mp drawn
  rw [← (Attempt.pure_eq_ok_iff _ _).mp made]
  apply frame_isFrom _ ("data-value" :: frameNames)
  · simp [Kind.vocabulary]
  · simp
  · simp [escaped]
  · intro child member
    rcases List.mem_append.mp member with above | last
    · exact ProgressBar.caption_isFrom percentage props child above
    · rw [List.mem_singleton.mp last]
      exact ProgressBar.bar_isFrom percentage props

theorem ProgressBar.draw_isEnclosed_iff (id : String) (props : Fields) (tree : Markup)
    (drawn : ProgressBar.draw id props = .ok tree) :
    tree.All Token.IsEnclosed ↔ '"' ∉ (props.get "borderRadius").plain.toList := by
  obtain ⟨percentage, _, made⟩ := (Attempt.bind_eq_ok_iff _ _ _).mp drawn
  rw [← (Attempt.pure_eq_ok_iff _ _).mp made, ← ProgressBar.bar_isEnclosed_iff percentage props]
  constructor
  · intro all
    exact ((all_element _ _ _ _).mp all).2.1 _ (List.mem_append_right _ (List.mem_singleton_self _))
  · intro enclosed
    apply frame_isEnclosed
    · simp [escaped]
    · intro child member
      rcases List.mem_append.mp member with above | last
      · exact ProgressBar.caption_isEnclosed percentage props child above
      · rwa [List.mem_singleton.mp last]

/-! ### Tables and charts -/

theorem Table.bodyRows_isFrom (rows : List (List String)) (colors : Table.Colors) :
    ∀ row ∈ rows.mapIdx (Table.bodyRow colors),
      row.All (Token.IsFrom Kind.table.vocabulary) := by
  intro row member
  obtain ⟨index, bound, rfl⟩ := List.mem_mapIdx.mp member
  simp [Table.bodyRow, Table.bodyCell, Kind.vocabulary, all_element, Token.IsFrom, asWritten]

theorem Table.borderStyle_inert (colors : Table.Colors) :
    '"' ∉ (Table.borderStyle colors).toList := by
  unfold Table.borderStyle
  simp

theorem Table.bodyRows_isEnclosed (rows : List (List String)) (colors : Table.Colors) :
    ∀ row ∈ rows.mapIdx (Table.bodyRow colors), row.All Token.IsEnclosed := by
  intro row member
  obtain ⟨index, bound, rfl⟩ := List.mem_mapIdx.mp member
  have border := Table.borderStyle_inert colors
  by_cases even : index % 2 = 0 <;>
    simp [Table.bodyRow, Table.bodyCell, all_element, Token.IsEnclosed, asWritten, even, border]

theorem Table.markup_isFrom (columns : List Table.Column) (rows : List (List String)) (colors : Table.Colors) :
    (Table.markup columns rows colors).All (Token.IsFrom Kind.table.vocabulary) := by
  have body := Table.bodyRows_isFrom rows
  simpa [Table.markup, Table.headerCell, Kind.vocabulary, all_element, Token.IsFrom, asWritten] using body _

theorem Table.markup_isEnclosed (columns : List Table.Column) (rows : List (List String))
    (colors : Table.Colors) : (Table.markup columns rows colors).All Token.IsEnclosed := by
  have body := Table.bodyRows_isEnclosed rows
  simpa [Table.markup, Table.headerCell, all_element, Token.IsEnclosed, asWritten, Table.borderStyle_inert]
    using body _

theorem Table.draw_isFrom (id : String) (props : Fields) (tree : Markup)
    (drawn : Table.draw id props = .ok tree) :
    tree.All (Token.IsFrom Kind.table.vocabulary) := by
  obtain ⟨⟨columns, rows⟩, _, made⟩ := (Attempt.bind_eq_ok_iff _ _ _).mp drawn
  rw [← (Attempt.pure_eq_ok_iff _ _).mp made]
  apply frame_isFrom _ frameNames
  · simp [Kind.vocabulary]
  · simp
  · simp
  · intro child member
    rw [List.mem_singleton.mp member]
    exact Table.markup_isFrom columns rows _

theorem Table.draw_isEnclosed (id : String) (props : Fields) (tree : Markup)
    (drawn : Table.draw id props = .ok tree) : tree.All Token.IsEnclosed := by
  obtain ⟨⟨columns, rows⟩, _, made⟩ := (Attempt.bind_eq_ok_iff _ _ _).mp drawn
  rw [← (Attempt.pure_eq_ok_iff _ _).mp made]
  apply frame_isEnclosed
  · simp
  · intro child member
    rw [List.mem_singleton.mp member]
    exact Table.markup_isEnclosed columns rows _

theorem Chart.draw_isFrom (id : String) (props : Fields) :
    (Chart.draw id props).All (Token.IsFrom Kind.chart.vocabulary) := by
  apply frame_isFrom _ frameNames <;>
    simp [Chart.placeholder, Kind.vocabulary, all_element, Token.IsFrom, asWritten]

theorem Chart.draw_isEnclosed (id : String) (props : Fields) :
    (Chart.draw id props).All Token.IsEnclosed := by
  apply frame_isEnclosed
  · simp
  · simp only [Chart.placeholder, all_element, Token.IsEnclosed, asWritten, List.forall_mem_cons,
      quote_free_append]
    simp

/-! ### Every kind -/

-- An element without content is as good as what its kind adds to it.
theorem bare_isFrom (kind : Kind) (names : List String) (id : String) (props : Fields)
    (style : String) (more : List Attribute) (listed : ("div", names) ∈ kind.vocabulary)
    (usual : frameNames ⊆ names) (extra : ∀ a ∈ more, a.name ∈ names) :
    (frame kind id props style more []).All (Token.IsFrom kind.vocabulary) :=
  frame_isFrom kind.vocabulary names kind id props style more [] listed usual extra (by simp)

theorem bare_isEnclosed (kind : Kind) (id : String) (props : Fields) (style : String)
    (more : List Attribute) (extra : ∀ a ∈ more, '"' ∉ a.source.toList) :
    (frame kind id props style more []).All Token.IsEnclosed :=
  frame_isEnclosed kind id props style more [] extra (by simp)

theorem Kind.draw_isFrom (kind : Kind) (now : Moment) (id : String) (props : Fields)
    (tree : Markup) (drawn : kind.draw now id props = .ok tree) :
    tree.All (Token.IsFrom kind.vocabulary) := by
  cases kind with
  | page =>
      rw [← Except.ok.inj drawn]
      exact bare_isFrom _ frameNames _ _ _ _ (by simp [Kind.vocabulary]) (by simp) (by simp)
  | container =>
      rw [← Except.ok.inj drawn]
      exact bare_isFrom _ frameNames _ _ _ _ (by simp [Kind.vocabulary]) (by simp) (by simp)
  | spacer =>
      rw [← Except.ok.inj drawn]
      exact bare_isFrom _ frameNames _ _ _ _ (by simp [Kind.vocabulary]) (by simp) (by simp)
  | pageBreak =>
      rw [← Except.ok.inj drawn]
      exact bare_isFrom _ ("class" :: frameNames) _ _ _ _ (by simp [Kind.vocabulary]) (by simp)
        (by simp [asWritten])
  | divider => exact Except.ok.inj drawn ▸ Divider.draw_isFrom id props
  | pageNumber => exact Except.ok.inj drawn ▸ PageNumber.draw_isFrom id props
  | image => exact Except.ok.inj drawn ▸ Image.draw_isFrom id props
  | text => exact Except.ok.inj drawn ▸ FreeText.draw_isFrom id props
  | bulletList => exact Except.ok.inj drawn ▸ BulletList.draw_isFrom id props
  | indicator => exact Except.ok.inj drawn ▸ Indicator.draw_isFrom id props
  | chart => exact Except.ok.inj drawn ▸ Chart.draw_isFrom id props
  | dateTime => exact DateTime.draw_isFrom now id props tree drawn
  | gauge => exact Gauge.draw_isFrom id props tree drawn
  | progressBar => exact ProgressBar.draw_isFrom id props tree drawn
  | table => exact Table.draw_isFrom id props tree drawn

theorem Kind.draw_isEnclosed (kind : Kind) (now : Moment) (id : String) (props : Fields)
    (tree : Markup) (drawn : kind.draw now id props = .ok tree) (other : kind ≠ .progressBar) :
    tree.All Token.IsEnclosed := by
  cases kind with
  | page => exact Except.ok.inj drawn ▸ bare_isEnclosed _ _ _ _ _ (by simp)
  | container => exact Except.ok.inj drawn ▸ bare_isEnclosed _ _ _ _ _ (by simp)
  | spacer => exact Except.ok.inj drawn ▸ bare_isEnclosed _ _ _ _ _ (by simp)
  | pageBreak => exact Except.ok.inj drawn ▸ bare_isEnclosed _ _ _ _ _ (by simp [asWritten])
  | divider => exact Except.ok.inj drawn ▸ Divider.draw_isEnclosed id props
  | pageNumber => exact Except.ok.inj drawn ▸ PageNumber.draw_isEnclosed id props
  | image => exact Except.ok.inj drawn ▸ Image.draw_isEnclosed id props
  | text => exact Except.ok.inj drawn ▸ FreeText.draw_isEnclosed id props
  | bulletList => exact Except.ok.inj drawn ▸ BulletList.draw_isEnclosed id props
  | indicator => exact Except.ok.inj drawn ▸ Indicator.draw_isEnclosed id props
  | chart => exact Except.ok.inj drawn ▸ Chart.draw_isEnclosed id props
  | dateTime => exact DateTime.draw_isEnclosed now id props tree drawn
  | gauge => exact Gauge.draw_isEnclosed id props tree drawn
  | table => exact Table.draw_isEnclosed id props tree drawn
  | progressBar => exact absurd rfl other

/-! ### The element of a drawing -/

/-- What a kind may add to the attributes of its element: none of the usual ones, and no value that ends
before its time. -/
def IsOwn (a : Attribute) : Prop := a.name ∉ frameNames ∧ '"' ∉ a.source.toList

theorem isOwn_of_mem_optional (name : String) (content : Value) (own : name ∉ frameNames)
    (a : Attribute) (member : a ∈ Markup.optional name content) : IsOwn a := by
  obtain ⟨named, enclosed⟩ := mem_optional name content a member
  exact ⟨named ▸ own, enclosed⟩

/-- A drawing is one element, with the usual attributes and some that its kind adds. -/
theorem Kind.draw_eq_frame (kind : Kind) (now : Moment) (id : String) (props : Fields)
    (tree : Markup) (drawn : kind.draw now id props = .ok tree) :
    ∃ style more children, tree = frame kind id props style more children ∧ ∀ a ∈ more, IsOwn a := by
  cases kind with
  | dateTime =>
      obtain ⟨shown, _, made⟩ := (Attempt.bind_eq_ok_iff _ _ _).mp drawn
      exact ⟨_, _, _, ((Attempt.pure_eq_ok_iff _ _).mp made).symm,
        isOwn_of_mem_optional _ _ (by decide)⟩
  | gauge =>
      obtain ⟨percentage, _, rest⟩ := (Attempt.bind_eq_ok_iff _ _ _).mp drawn
      obtain ⟨g, _, rest⟩ := (Attempt.bind_eq_ok_iff _ _ _).mp rest
      obtain ⟨middle, _, made⟩ := (Attempt.bind_eq_ok_iff _ _ _).mp rest
      exact ⟨_, _, _, ((Attempt.pure_eq_ok_iff _ _).mp made).symm, by simp [IsOwn, frameNames, escaped]⟩
  | progressBar =>
      obtain ⟨percentage, _, made⟩ := (Attempt.bind_eq_ok_iff _ _ _).mp drawn
      exact ⟨_, _, _, ((Attempt.pure_eq_ok_iff _ _).mp made).symm, by simp [IsOwn, frameNames, escaped]⟩
  | table =>
      obtain ⟨⟨columns, rows⟩, _, made⟩ := (Attempt.bind_eq_ok_iff _ _ _).mp drawn
      exact ⟨_, _, _, ((Attempt.pure_eq_ok_iff _ _).mp made).symm, by simp⟩
  | text =>
      refine ⟨_, _, _, (Except.ok.inj drawn).symm, ?_⟩
      split <;> simp [IsOwn, frameNames, asWritten]
  | pageNumber =>
      refine ⟨_, _, _, (Except.ok.inj drawn).symm, List.forall_mem_append.mpr ⟨?_, ?_⟩⟩
      · exact isOwn_of_mem_optional _ _ (by decide)
      · simp [IsOwn, frameNames, asWritten]
  | _ =>
      exact ⟨_, _, _, (Except.ok.inj drawn).symm, by simp [IsOwn, frameNames, asWritten, escaped]⟩

/-! ### Values that may end before their time -/

/-- The one setting that is written into markup the way it is given: the corner of a bar. -/
def Kind.IsInert (kind : Kind) (props : Fields) : Prop :=
  kind = .progressBar → '"' ∉ (props.get "borderRadius").plain.toList

theorem Kind.draw_isEnclosed_iff (kind : Kind) (now : Moment) (id : String) (props : Fields)
    (tree : Markup) (drawn : kind.draw now id props = .ok tree) :
    tree.All Token.IsEnclosed ↔ kind.IsInert props := by
  by_cases bar : kind = .progressBar
  · subst bar
    rw [ProgressBar.draw_isEnclosed_iff id props tree drawn]
    exact ⟨fun inert _ => inert, fun inert => inert rfl⟩
  · exact ⟨fun _ same => absurd same bar,
      fun _ => kind.draw_isEnclosed now id props tree drawn bar⟩

end Widget

end ReportCompiler
