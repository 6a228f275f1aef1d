import ReportCompiler.Proofs.Widget.Drawing
import ReportCompiler.Proofs.Widget.Rendering

/-!
What a setting says stays where the widget put it: the markup reads back as the tokens of the drawing,
balanced, with the words of the kind's vocabulary only. One setting of progress bars gets out.
-/

namespace ReportCompiler

namespace Widget

/-- The text is read as the tokens of the drawing, and no token has a name of its own. -/
structure IsContained (vocabulary : Vocabulary) (tree : Markup) (html : String) : Prop where
  read : Markup.lex html = some tree.tokens
  balanced : Token.areBalanced tree.tokens = true
  known : ∀ token ∈ tree.tokens, token.IsFrom vocabulary

theorem isContained_write_iff (kind : Kind) (now : Moment) (id : String) (props : Fields)
    (tree : Markup) (drawn : kind.draw now id props = .ok tree) :
    IsContained kind.vocabulary tree tree.write ↔ kind.IsInert props := by
  have known := kind.draw_isFrom now id props tree drawn
  have named : tree.All Token.IsNamed :=
    fun token member => isNamed_of_isFrom kind token (known token member)
  rw [← kind.draw_isEnclosed_iff now id props tree drawn, ← Markup.lex_write_iff tree named]
  constructor
  · exact fun contained => contained.read
  · exact fun read => ⟨read, Markup.areBalanced_tokens tree, known⟩

theorem render_isContained_iff (kind : Kind) (now : Moment) (id : String) (given : Fields)
    (result : Rendered)
    (rendered : (Registry.standard.renderer kind).render now id given = .ok result)
    (shown : isHidden (resolve kind.defaults given) = false) :
    ∃ tree, kind.draw now id (resolve kind.defaults given) = .ok tree ∧
      (IsContained kind.vocabulary tree result.html ↔
        kind.IsInert (resolve kind.defaults given)) := by
  obtain ⟨tree, drawn, written, _⟩ :=
    (render_eq_ok_iff kind.renderer now id given result shown).mp rendered
  refine ⟨tree, drawn, ?_⟩
  rw [written]
  exact isContained_write_iff kind now id (resolve kind.defaults given) tree drawn

theorem progressBar_isContained :
    ∃ result tree,
      (Registry.standard.renderer .progressBar).render default "\"><script>"
        [("borderRadius", .int 8)] = .ok result ∧
      IsContained Kind.progressBar.vocabulary tree result.html := by
  obtain ⟨tree, _, exactly⟩ :=
    render_isContained_iff .progressBar default "\"><script>" [("borderRadius", .int 8)] _ rfl
      (by decide)
  exact ⟨_, tree, rfl, exactly.mpr fun _ => by decide +kernel⟩

/-! ### The corner of a bar -/

/-- A bar whose corner ends before the attribute that the setting goes on with. -/
def ProgressBar.forgedBar (percentage : Double) (props : Fields) (before name after : String) :
    Markup :=
  .element "div"
    [Markup.asWritten "class" "progress-track",
      Markup.asWritten "style"
        ("width: 100%; overflow: hidden; flex: 1; background: "
          ++ Markup.escapeValue (props.get "backgroundColor") ++ ("; border-radius: " ++ before)),
      Markup.asWritten name (after ++ "px; min-height: 6px")]
    [.element "div"
      [Markup.asWritten "class" "progress-fill",
        Markup.asWritten "style"
          ("width: " ++ lengthText (.double percentage) ++ "%; height: 100%; background: "
            ++ Markup.escapeValue (props.get "fillColor") ++ ("; border-radius: " ++ before)),
        Markup.asWritten name (after ++ "px; box-sizing: border-box")]
      []]

theorem ProgressBar.write_bar_forged (percentage : Double) (props : Fields)
    (before name after : String)
    (corner : (props.get "borderRadius").plain =
      before ++ "\"" ++ " " ++ name ++ "=\"" ++ after) :
    (ProgressBar.bar percentage props).write =
      (ProgressBar.forgedBar percentage props before name after).write := by
  have joined : ∀ rest : String, "\"" ++ (" " ++ rest) = "\" " ++ rest := by
    intro rest
    rw [← String.append_assoc]
    rfl
  simp [ProgressBar.bar, ProgressBar.forgedBar, Markup.write, Markup.writeAll, Markup.openTag,
    Markup.attributeText, Markup.asWritten, corner, String.append_assoc, joined]

theorem ProgressBar.forgedBar_isEnclosed (percentage : Double) (props : Fields)
    (before name after : String) (first : '"' ∉ before.toList) (last : '"' ∉ after.toList) :
    (ProgressBar.forgedBar percentage props before name after).All Token.IsEnclosed := by
  simp [ProgressBar.forgedBar, Markup.all_element, Token.IsEnclosed, Markup.asWritten, first, last]

theorem ProgressBar.forgedBar_isNamed (percentage : Double) (props : Fields)
    (before name after : String) (proper : Lexer.isName name = true) :
    (ProgressBar.forgedBar percentage props before name after).All Token.IsNamed := by
  have fixed : ∀ word ∈ ["div", "class", "style"], Lexer.isName word = true := by decide
  simp at fixed
  simp [ProgressBar.forgedBar, Markup.all_element, Token.IsNamed, Markup.asWritten, proper, fixed]

theorem ProgressBar.mem_tokens_forgedBar (percentage : Double) (props : Fields)
    (before name after : String) :
    ∃ attributes,
      .opening "div" attributes false ∈
        (ProgressBar.forgedBar percentage props before name after).tokens ∧
      ∃ a ∈ attributes, a.name = name := by
  refine ⟨_, by rw [ProgressBar.forgedBar, Markup.tokens]; exact List.mem_cons_self, ?_⟩
  exact ⟨Markup.asWritten name (after ++ "px; min-height: 6px"), by simp, rfl⟩

/-- The widget around a bar of any kind. -/
def ProgressBar.around (id : String) (props : Fields) (percentage : Double) (bar : Markup) :
    Markup :=
  frame .progressBar id props (ProgressBar.style props)
    [Markup.escaped "data-value" (Measure.ofProps props).value.text]
    (ProgressBar.caption percentage props ++ [bar])

theorem ProgressBar.draw_eq_around (id : String) (props : Fields) (tree : Markup)
    (drawn : ProgressBar.draw id props = .ok tree) :
    ∃ percentage, tree =
      ProgressBar.around id props percentage (ProgressBar.bar percentage props) := by
  obtain ⟨percentage, _, made⟩ := (Attempt.bind_eq_ok_iff _ _ _).mp drawn
  exact ⟨percentage, ((Attempt.pure_eq_ok_iff _ _).mp made).symm⟩

theorem ProgressBar.around_all (holds : Token → Prop) (id : String) (props : Fields)
    (percentage : Double) (bar other : Markup)
    (all : (ProgressBar.around id props percentage bar).All holds) (replaced : other.All holds) :
    (ProgressBar.around id props percentage other).All holds := by
  obtain ⟨opening, inner, closing⟩ := (Markup.all_element _ _ _ _).mp all
  refine (Markup.all_element _ _ _ _).mpr ⟨opening, ?_, closing⟩
  intro child member
  rcases List.mem_append.mp member with above | last
  · exact inner child (List.mem_append_left _ above)
  · rwa [List.mem_singleton.mp last]

theorem ProgressBar.write_around (id : String) (props : Fields) (percentage : Double)
    (bar other : Markup) (same : bar.write = other.write) :
    (ProgressBar.around id props percentage bar).write =
      (ProgressBar.around id props percentage other).write := by
  simp only [ProgressBar.around, frame, Markup.write, Markup.writeAll_append, Markup.writeAll, same]

theorem ProgressBar.mem_tokens_around (id : String) (props : Fields) (percentage : Double)
    (bar : Markup) (token : Token) (member : token ∈ bar.tokens) :
    token ∈ (ProgressBar.around id props percentage bar).tokens := by
  simp [ProgressBar.around, frame, Markup.tokens, Markup.tokensAll_eq_flatMap, member]

-- Whatever stands behind a quote in the corner of a bar is read as an attribute of that name.
theorem ProgressBar.lex_forged (id : String) (props : Fields) (tree : Markup)
    (before name after : String) (drawn : ProgressBar.draw id props = .ok tree)
    (corner : (props.get "borderRadius").plain =
      before ++ "\"" ++ " " ++ name ++ "=\"" ++ after)
    (first : '"' ∉ before.toList) (proper : Lexer.isName name = true)
    (last : '"' ∉ after.toList) :
    ∃ tokens attributes, Markup.lex tree.write = some tokens ∧
      .opening "div" attributes false ∈ tokens ∧ ∃ a ∈ attributes, a.name = name := by
  have drawnFrom := ProgressBar.draw_isFrom id props tree drawn
  have drawnNamed : tree.All Token.IsNamed :=
    fun token member => isNamed_of_isFrom .progressBar token (drawnFrom token member)
  obtain ⟨percentage, rfl⟩ := ProgressBar.draw_eq_around id props tree drawn
  have named := ProgressBar.around_all Token.IsNamed id props percentage _ _ drawnNamed
    (ProgressBar.forgedBar_isNamed percentage props before name after proper)
  have enclosed : (ProgressBar.around id props percentage
      (ProgressBar.forgedBar percentage props before name after)).All Token.IsEnclosed := by
    apply frame_isEnclosed
    · simp [Markup.escaped]
    · intro child member
      rcases List.mem_append.mp member with above | bar
      · exact ProgressBar.caption_isEnclosed percentage props child above
      · rw [List.mem_singleton.mp bar]
        exact ProgressBar.forgedBar_isEnclosed percentage props before name after first last
  have same := ProgressBar.write_bar_forged percentage props before name after corner
  rw [ProgressBar.write_around id props percentage _ _ same, Markup.lex_write _ named enclosed]
  obtain ⟨attributes, inside, forged⟩ :=
    ProgressBar.mem_tokens_forgedBar percentage props before name after
  exact ⟨_, attributes, rfl, ProgressBar.mem_tokens_around id props percentage _ _ inside, forged⟩

-- The markup of one such bar has an attribute that runs a program.
theorem progressBar_admits_attribute :
    ∃ result tokens attributes,
      (Registry.standard.renderer .progressBar).render default "p"
        [("borderRadius", .text "4\" onclick=\"alert(1)")] = .ok result ∧
      Markup.lex result.html = some tokens ∧ .opening "div" attributes false ∈ tokens ∧
      (∃ a ∈ attributes, a.name = "onclick") ∧
      ¬ Token.IsFrom Kind.progressBar.vocabulary (.opening "div" attributes false) := by
  have unknown : ∀ entry ∈ Kind.progressBar.vocabulary, "onclick" ∉ entry.2 := by decide
  obtain ⟨tokens, attributes, read, inside, a, member, named⟩ :=
    ProgressBar.lex_forged "p" (resolve ProgressBar.defaults
      [("borderRadius", .text "4\" onclick=\"alert(1)")]) _ "4" "onclick" "alert(1)" rfl
      (by decide +kernel) (by decide) (by decide) (by decide)
  refine ⟨_, tokens, attributes, rfl, read, inside, ⟨a, member, named⟩, ?_⟩
  rintro ⟨names, listed, known⟩
  exact unknown _ listed (named ▸ known a member)

end Widget

end ReportCompiler
