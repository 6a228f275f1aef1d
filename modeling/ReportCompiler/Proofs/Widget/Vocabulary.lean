import ReportCompiler.Proofs.Markup.ReadBack
import ReportCompiler.Proofs.Number.Text
import ReportCompiler.Widget.Renderer

/-!
The words of a widget's markup. Each kind of widget has a closed list of elements, each with the names of
the attributes that it may have; whatever the settings, a widget is drawn with these words only, and what
the settings say is kept inside texts and values.
-/

namespace ReportCompiler

open ReportCompiler.Text

/-! ### Escaped text -/

namespace Markup

/-- Characters that begin or end a tag or a value. -/
def delimiters : List Char := ['<', '>', '"', '\'']

theorem escapeChar_inert (c delimiter : Char) (special : delimiter ∈ delimiters) :
    delimiter ∉ (escapeChar c).toList := by
  have entities : ∀ d ∈ delimiters,
      ∀ entity ∈ ["&amp;", "&lt;", "&gt;", "&quot;", "&#039;"], d ∉ entity.toList := by
    simp [delimiters]
  by_cases escaped : c = '&' ∨ c ∈ delimiters
  · apply entities delimiter special
    simp only [delimiters, List.mem_cons, List.not_mem_nil, or_false] at escaped
    rcases escaped with rfl | rfl | rfl | rfl | rfl <;> decide
  · have kept : escapeChar c = String.singleton c := by
      simp only [delimiters, List.mem_cons, List.not_mem_nil, or_false, not_or] at escaped
      simp [escapeChar, escaped]
    rw [kept, String.toList_singleton, List.mem_singleton]
    rintro rfl
    exact escaped (Or.inr special)

theorem escape_inert (text : String) (delimiter : Char) (special : delimiter ∈ delimiters) :
    delimiter ∉ (escape text).toList := by
  simp only [escape, expand, String.toList_join, List.mem_flatMap, List.mem_map]
  rintro ⟨_, ⟨c, _, rfl⟩, member⟩
  exact escapeChar_inert c delimiter special member

theorem escapeValue_inert (value : Value) (delimiter : Char) (special : delimiter ∈ delimiters) :
    delimiter ∉ (escapeValue value).toList := by
  unfold escapeValue
  split
  · simp
  · exact escape_inert _ _ special

end Markup

-- No text of a number holds a character that means something to markup.
theorem AreNumerals.inert {chars : List Char} (numerals : AreNumerals chars) (delimiter : Char)
    (special : delimiter ∈ Markup.delimiters) : delimiter ∉ chars := by
  intro member
  have numeral := numerals delimiter member
  simp only [Markup.delimiters, List.mem_cons, List.not_mem_nil, or_false] at special
  rcases special with rfl | rfl | rfl | rfl <;> exact absurd numeral (by decide)

namespace Markup

@[simp] theorem quote_not_mem_escape (text : String) : '"' ∉ (escape text).toList :=
  escape_inert text '"' (by decide)

@[simp] theorem less_not_mem_escape (text : String) : '<' ∉ (escape text).toList :=
  escape_inert text '<' (by decide)

@[simp] theorem quote_not_mem_escapeValue (value : Value) : '"' ∉ (escapeValue value).toList :=
  escapeValue_inert value '"' (by decide)

@[simp] theorem less_not_mem_escapeValue (value : Value) : '<' ∉ (escapeValue value).toList :=
  escapeValue_inert value '<' (by decide)

@[simp] theorem verbatim_isEnclosed (source : String) :
    (verbatim source).All Token.IsEnclosed ↔ '<' ∉ source.toList := by
  rw [all_verbatim]
  exact ⟨fun all member => all '<' member rfl, fun absent c member same => absent (same ▸ member)⟩

@[simp] theorem text_isEnclosed (content : String) : (text content).All Token.IsEnclosed := by
  simp [text]

@[simp] theorem value_isEnclosed (content : Value) :
    (Markup.value content).All Token.IsEnclosed := by
  simp [Markup.value]

end Markup

namespace Widget

@[simp] theorem quote_not_mem_lengthText (n : Number) : '"' ∉ (lengthText n).toList :=
  (areNumerals_lengthText n).inert '"' (by decide)

@[simp] theorem less_not_mem_fixed (places : Nat) (n : Number) : '<' ∉ (n.fixed places).toList :=
  (Number.areNumerals_fixed places n).inert '<' (by decide)

/-! ### Vocabularies -/

/-- Elements, each with the attributes that it may have. -/
abbrev Vocabulary := List (String × List String)

end Widget

/-- The names in the token are those of one element of the vocabulary. -/
def Token.IsFrom (vocabulary : Widget.Vocabulary) : Token → Prop
  | .text _ => True
  | .opening tag attributes _ =>
      ∃ names, (tag, names) ∈ vocabulary ∧ ∀ a ∈ attributes, a.name ∈ names
  | .closing tag => ∃ names, (tag, names) ∈ vocabulary

instance (vocabulary : Widget.Vocabulary) : (token : Token) → Decidable (token.IsFrom vocabulary)
  | .text _ => .isTrue trivial
  | .opening tag attributes _ =>
      decidable_of_iff
        (∃ entry ∈ vocabulary, entry.1 = tag ∧ ∀ a ∈ attributes, a.name ∈ entry.2)
        ⟨fun ⟨(_, names), member, same, known⟩ => ⟨names, same ▸ member, known⟩,
          fun ⟨names, member, known⟩ => ⟨(tag, names), member, rfl, known⟩⟩
  | .closing tag =>
      decidable_of_iff (∃ entry ∈ vocabulary, entry.1 = tag)
        ⟨fun ⟨(_, names), member, same⟩ => ⟨names, same ▸ member⟩,
          fun ⟨names, member⟩ => ⟨(tag, names), member, rfl⟩⟩

@[simp] theorem Markup.verbatim_isFrom (vocabulary : Widget.Vocabulary) (source : String) :
    (Markup.verbatim source).All (Token.IsFrom vocabulary) :=
  (Markup.all_verbatim _ source).mpr fun _ _ => trivial

@[simp] theorem Markup.text_isFrom (vocabulary : Widget.Vocabulary) (content : String) :
    (Markup.text content).All (Token.IsFrom vocabulary) :=
  Markup.verbatim_isFrom vocabulary _

@[simp] theorem Markup.value_isFrom (vocabulary : Widget.Vocabulary) (content : Value) :
    (Markup.value content).All (Token.IsFrom vocabulary) :=
  Markup.verbatim_isFrom vocabulary _

namespace Widget

/-- The attributes that the element around any widget may have. -/
def frameNames : List String :=
  ["id", "data-component", "style", "data-binding", "data-visibility-condition",
    "data-condition-hidden"]

/-- The element around a widget comes first, with what its kind adds to the usual attributes. -/
def Kind.vocabulary : Kind → Vocabulary
  | page => [("div", frameNames)]
  | container => [("div", frameNames)]
  | spacer => [("div", frameNames)]
  | divider => [("div", frameNames), ("div", ["style"])]
  | pageBreak => [("div", "class" :: frameNames)]
  | pageNumber => [("div", "data-format" :: "class" :: frameNames), ("span", ["class"])]
  | image => [("div", frameNames), ("img", ["src", "alt", "style"])]
  | text => [("div", "data-has-bindings" :: frameNames)]
  | bulletList =>
      [("div", frameNames), ("ol", ["class", "style"]), ("ul", ["class", "style"]),
        ("li", ["style"])]
  | dateTime => [("div", "data-format" :: frameNames)]
  | indicator =>
      [("div", "data-status" :: frameNames), ("div", ["class", "style"]),
        ("span", ["class", "style"])]
  | gauge =>
      [("div", "data-value" :: "data-arc-length" :: "data-circumference" :: frameNames),
        ("div", ["style"]), ("span", ["class", "style"]),
        ("svg", ["width", "height", "viewBox", "style"]),
        ("circle", ["class", "cx", "cy", "r", "fill", "stroke-width", "stroke-linecap", "stroke",
          "stroke-dasharray"])]
  | progressBar =>
      [("div", "data-value" :: frameNames), ("div", ["class", "style"]), ("span", ["class"])]
  | table =>
      [("div", frameNames), ("table", ["class", "style"]), ("thead", []), ("tbody", []),
        ("tr", ["style"]), ("th", ["style"]), ("td", ["style"])]
  | chart => [("div", frameNames), ("canvas", ["id", "style"]), ("div", ["style"])]

theorem Kind.vocabulary_proper (kind : Kind) :
    ∀ entry ∈ kind.vocabulary,
      Lexer.isName entry.1 = true ∧ ∀ name ∈ entry.2, Lexer.isName name = true := by
  cases kind <;> decide

theorem isNamed_of_isFrom (kind : Kind) (token : Token) (drawn : token.IsFrom kind.vocabulary) :
    token.IsNamed := by
  cases token with
  | text c => trivial
  | opening tag attributes isSingle =>
      obtain ⟨names, member, known⟩ := drawn
      have proper := kind.vocabulary_proper (tag, names) member
      exact ⟨proper.1, fun a inside => proper.2 a.name (known a inside)⟩
  | closing tag =>
      obtain ⟨names, member⟩ := drawn
      exact (kind.vocabulary_proper (tag, names) member).1

/-! ### The element around a widget -/

-- What a kind adds is left to the kind; the rest has usual names and escaped values.
theorem mem_attributes (kind : Kind) (id : String) (props : Fields) (style : String)
    (more : List Attribute) (a : Attribute) (member : a ∈ attributes kind id props style more) :
    a ∈ more ∨ (a.name ∈ frameNames ∧ '"' ∉ a.source.toList) := by
  have label : '"' ∉ kind.label.toList := by cases kind <;> decide
  simp only [attributes, List.mem_append, List.mem_cons, List.not_mem_nil, or_false] at member
  rcases member with ((((((rfl | rfl) | extra) | rfl) | bound) | conditional) | hidden)
  · exact Or.inr ⟨by simp [Markup.escaped, frameNames], by simp [Markup.escaped]⟩
  · exact Or.inr ⟨by simp [Markup.asWritten, frameNames], by simpa [Markup.asWritten] using label⟩
  · exact Or.inl extra
  · exact Or.inr ⟨by simp [Markup.escaped, frameNames], by simp [Markup.escaped]⟩
  · unfold bindingAttribute at bound
    split at bound <;> simp only [List.mem_cons, List.not_mem_nil, or_false] at bound
    rw [bound]
    exact Or.inr ⟨by simp [Markup.escaped, frameNames], by simp [Markup.escaped]⟩
  · unfold conditionAttribute at conditional
    split at conditional <;> simp only [List.mem_cons, List.not_mem_nil, or_false] at conditional
    rw [conditional]
    exact Or.inr ⟨by simp [Markup.escaped, frameNames], by simp [Markup.escaped]⟩
  · unfold hiddenAttribute at hidden
    split at hidden <;> simp only [List.mem_cons, List.not_mem_nil, or_false] at hidden
    rw [hidden]
    exact Or.inr ⟨by simp [Markup.escaped, frameNames], by simp [Markup.escaped]⟩

theorem frame_isFrom (vocabulary : Vocabulary) (names : List String) (kind : Kind) (id : String)
    (props : Fields) (style : String) (more : List Attribute) (children : List Markup)
    (listed : ("div", names) ∈ vocabulary) (usual : frameNames ⊆ names)
    (extra : ∀ a ∈ more, a.name ∈ names)
    (inner : ∀ child ∈ children, child.All (Token.IsFrom vocabulary)) :
    (frame kind id props style more children).All (Token.IsFrom vocabulary) := by
  refine (Markup.all_element _ _ _ _).mpr ⟨⟨names, listed, ?_⟩, inner, ⟨names, listed⟩⟩
  intro a member
  rcases mem_attributes kind id props style more a member with added | own
  · exact extra a added
  · exact usual own.1

theorem frame_isEnclosed (kind : Kind) (id : String) (props : Fields) (style : String)
    (more : List Attribute) (children : List Markup)
    (extra : ∀ a ∈ more, '"' ∉ a.source.toList)
    (inner : ∀ child ∈ children, child.All Token.IsEnclosed) :
    (frame kind id props style more children).All Token.IsEnclosed := by
  refine (Markup.all_element _ _ _ _).mpr ⟨?_, inner, trivial⟩
  intro a member
  rcases mem_attributes kind id props style more a member with added | own
  · exact extra a added
  · exact own.2

end Widget

end ReportCompiler
