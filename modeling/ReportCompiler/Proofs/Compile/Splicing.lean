import ReportCompiler.Compile.Outline
import ReportCompiler.Proofs.Text.Trimming

/-!
Children put into the markup of their container. They go in front of its last closing tag when nothing but blanks
follows it, and those blanks are left out. A search for such a tag from the left comes to the same place: the tags
that stand further in front are passed over, whatever they are.
-/

namespace ReportCompiler

open ReportCompiler.Text

namespace Outline

/-! ### The closing tag at the end -/

/-- The characters that close a container. -/
def closingTag : List Char := "</div>".toList

theorem trimRight_close (chars : List Char) : trimRight (chars ++ closingTag) = chars ++ closingTag := by
  have solid : isBlank '>' = false := by decide
  simp [closingTag, trimRight, trimLeft, solid]

/-- The chars end with a closing tag and blanks behind it, and `before` is what stands in front of the tag. -/
def IsClosed (before chars : List Char) : Prop :=
  ∃ blanks, (∀ c ∈ blanks, isBlank c = true) ∧ chars = before ++ closingTag ++ blanks

theorem isClosed_iff_trimRight (before chars : List Char) :
    IsClosed before chars ↔ trimRight chars = before ++ closingTag := by
  constructor
  · rintro ⟨blanks, blank, rfl⟩
    rw [trimRight_append_of_blank _ _ blank, trimRight_close]
  · intro trimmed
    obtain ⟨blanks, blank, whole⟩ := exists_trimRight_append chars
    exact ⟨blanks, blank, by rw [← trimmed, whole]⟩

theorem isClosed_append (before blanks : String) (blank : isBlankText blanks = true) :
    IsClosed before.toList (before ++ "</div>" ++ blanks).toList :=
  ⟨blanks.toList, List.all_eq_true.mp blank, by rw [String.toList_append, String.toList_append, closingTag]⟩

theorem splice_of_isClosed (container children : String) (before : List Char)
    (closed : IsClosed before container.toList) :
    splice container children = String.ofList before ++ "\n" ++ children ++ "\n</div>" := by
  have trimmed := (isClosed_iff_trimRight _ _).mp closed
  have ends : "</div>".toList.isSuffixOf (before ++ closingTag) = true :=
    List.isSuffixOf_iff_suffix.mpr ⟨before, rfl⟩
  have kept : (before ++ closingTag).take ((before ++ closingTag).length - 6) = before := by
    simp [closingTag]
  unfold splice
  simp only [trimmed, ends, if_true, kept]

theorem splice_of_not_isClosed (container children : String)
    (unclosed : ∀ before, ¬ IsClosed before container.toList) : splice container children = container := by
  have other : "</div>".toList.isSuffixOf (trimRight container.toList) = false := by
    rw [Bool.eq_false_iff]
    intro ends
    obtain ⟨before, whole⟩ := List.isSuffixOf_iff_suffix.mp ends
    exact unclosed before ((isClosed_iff_trimRight _ _).mpr whole.symm)
  unfold splice
  simp only [other, Bool.false_eq_true, if_false]

theorem splice_close (before children : String) :
    splice (before ++ "</div>") children = before ++ "\n" ++ children ++ "\n</div>" := by
  have closed : IsClosed before.toList (before ++ "</div>").toList :=
    ⟨[], List.forall_mem_nil _, by rw [String.toList_append, List.append_nil, closingTag]⟩
  rw [splice_of_isClosed _ children before.toList closed, String.ofList_toList]

/-! ### The search from the left -/

/-- Whether a closing tag stands here and nothing but blanks behind it. -/
def closesHere (chars : List Char) : Bool :=
  closingTag.isPrefixOf chars && (chars.drop closingTag.length).all isBlank

/-- The text in front of the first place where the container closes. -/
def beforeClosing? : List Char → Option (List Char)
  | [] => none
  | c :: rest => if closesHere (c :: rest) then some [] else (beforeClosing? rest).map (c :: ·)

theorem closesHere_iff (chars : List Char) : closesHere chars = true ↔ IsClosed [] chars := by
  rw [closesHere, Bool.and_eq_true, List.isPrefixOf_iff_prefix, List.all_eq_true]
  constructor
  · rintro ⟨⟨blanks, rfl⟩, blank⟩
    rw [List.drop_left] at blank
    exact ⟨blanks, blank, rfl⟩
  · rintro ⟨blanks, blank, rfl⟩
    rw [List.nil_append, List.drop_left]
    exact ⟨List.prefix_append _ _, blank⟩

theorem IsClosed.unique {first second chars : List Char} (closed : IsClosed first chars)
    (again : IsClosed second chars) : first = second := by
  rw [isClosed_iff_trimRight] at closed again
  exact List.append_cancel_right (closed.symm.trans again)

-- The induction is on the text. Where characters are left in front of the last tag the search does not stop, since
-- the container closes at one place only.
theorem beforeClosing?_eq_some_iff (chars before : List Char) :
    beforeClosing? chars = some before ↔ IsClosed before chars := by
  induction chars generalizing before with
  | nil => simp [beforeClosing?, IsClosed, closingTag]
  | cons c rest ih =>
      cases here : closesHere (c :: rest) with
      | true =>
          have closed := (closesHere_iff _).mp here
          rw [beforeClosing?, if_pos here, Option.some.injEq]
          exact ⟨fun same => same ▸ closed, closed.unique⟩
      | false =>
          rw [beforeClosing?, here, if_neg Bool.false_ne_true, Option.map_eq_some_iff]
          constructor
          · rintro ⟨earlier, found, rfl⟩
            obtain ⟨blanks, blank, rfl⟩ := (ih earlier).mp found
            exact ⟨blanks, blank, rfl⟩
          · rintro ⟨blanks, blank, whole⟩
            cases before with
            | nil =>
                rw [(closesHere_iff _).mpr ⟨blanks, blank, whole⟩] at here
                cases here
            | cons d earlier =>
                obtain ⟨rfl, rfl⟩ := List.cons.inj whole
                exact ⟨earlier, (ih earlier).mpr ⟨blanks, blank, rfl⟩, rfl⟩

/-- Splicing replaces what the search finds. -/
theorem splice_eq_search (container children : String) :
    splice container children =
      match beforeClosing? container.toList with
      | some before => String.ofList before ++ "\n" ++ children ++ "\n</div>"
      | none => container := by
  cases found : beforeClosing? container.toList with
  | some before => exact splice_of_isClosed _ _ before ((beforeClosing?_eq_some_iff _ _).mp found)
  | none =>
      refine splice_of_not_isClosed _ _ fun before closed => ?_
      rw [(beforeClosing?_eq_some_iff _ _).mpr closed] at found
      cases found

/-! ### What splicing does -/

/-- Children are put just before the last closing tag, for which the blanks behind it are left out; the text in front
of that tag and the children are kept as they are. A container that does not end so is not changed. In both cases
what happens is that the first place where the container closes, searched from the left, is replaced. -/
theorem splice_spec (children : String) :
    (∀ before blanks : String, isBlankText blanks = true →
      splice (before ++ "</div>" ++ blanks) children = before ++ "\n" ++ children ++ "\n</div>") ∧
    (∀ container : String,
      (∀ before blanks : String, isBlankText blanks = true → container ≠ before ++ "</div>" ++ blanks) →
        splice container children = container) ∧
    ∀ container : String, splice container children =
      match beforeClosing? container.toList with
      | some before => String.ofList before ++ "\n" ++ children ++ "\n</div>"
      | none => container := by
  refine ⟨?closed, ?unclosed, fun container => splice_eq_search container children⟩
  case closed =>
    intro before blanks blank
    rw [splice_of_isClosed _ children before.toList (isClosed_append before blanks blank), String.ofList_toList]
  case unclosed =>
    intro container unlike
    refine splice_of_not_isClosed container children fun before closed => ?_
    obtain ⟨blanks, blank, whole⟩ := closed
    refine unlike (String.ofList before) (String.ofList blanks) ((isBlankText_ofList_iff blanks).mpr blank) ?_
    rw [← String.ofList_toList (s := container), whole, String.ofList_append, String.ofList_append, closingTag,
      String.ofList_toList]

/-- A container with another element in it and a line end behind its tag, and one with text behind its tag; what is
put in is a closing tag itself. -/
theorem splice_spec_nested :
    isBlankText " \n" = true ∧
      (∀ before blanks : String, isBlankText blanks = true → "<p></div>x" ≠ before ++ "</div>" ++ blanks) ∧
      splice ("<div><div></div>" ++ "</div>" ++ " \n") "</div>" = "<div><div></div>\n</div>\n</div>" ∧
      splice "<p></div>x" "</div>" = "<p></div>x" := by
  have blank : isBlankText " \n" = true := by decide
  have unclosed : ∀ before blanks : String, isBlankText blanks = true →
      "<p></div>x" ≠ before ++ "</div>" ++ blanks := by
    intro before blanks blank same
    have nowhere : beforeClosing? "<p></div>x".toList = none := by decide
    rw [same, (beforeClosing?_eq_some_iff _ _).mpr (isClosed_append before blanks blank)] at nowhere
    cases nowhere
  have closed := (splice_spec "</div>").1 "<div><div></div>" " \n" blank
  exact ⟨blank, unclosed, closed, (splice_spec "</div>").2.1 _ unclosed⟩

end Outline

end ReportCompiler
