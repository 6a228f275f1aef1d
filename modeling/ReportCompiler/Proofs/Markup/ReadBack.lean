import ReportCompiler.Proofs.Markup.Lexer

/-!
A tree of markup is read back from its text. The tokens of the tree are balanced whatever it holds; they
are what the reader finds exactly when no text and no value of the tree ends before its time.
-/

namespace ReportCompiler

namespace Lexer

/-! ### Runs of the reader -/

theorem readFrom_step (state next : State) (c : Char) (rest : List Char) (tokens : List Token)
    (moved : step state c = some (next, tokens)) :
    readFrom state (c :: rest) = (readFrom next rest).map (tokens ++ ·) := by
  cases state <;> simp only [readFrom, moved]

theorem readFrom_silent (state next : State) (c : Char) (rest : List Char)
    (moved : step state c = some (next, [])) :
    readFrom state (c :: rest) = readFrom next rest := by
  rw [readFrom_step state next c rest [] moved]
  simp

-- Names, values and texts grow by one character at a time until a character ends them.
theorem readFrom_absorbs (place : List Char → State) (accepted : Char → Prop)
    (grows : ∀ held c, accepted c → step (place held) c = some (place (held ++ [c]), []))
    (held more rest : List Char) (all : ∀ c ∈ more, accepted c) :
    readFrom (place held) (more ++ rest) = readFrom (place (held ++ more)) rest := by
  induction more generalizing held with
  | nil => simp
  | cons c more ih =>
      have first := grows held c (all c List.mem_cons_self)
      have later := ih (held ++ [c]) fun x member => all x (List.mem_cons_of_mem c member)
      rw [List.cons_append, readFrom_silent _ _ _ _ first, later]
      simp

theorem readFrom_text (chars rest : List Char) (enclosed : '<' ∉ chars) :
    readFrom .content (chars ++ rest) =
      (readFrom .content rest).map (chars.map Token.text ++ ·) := by
  induction chars with
  | nil => simp
  | cons c chars ih =>
      have different : c ≠ '<' := fun same => enclosed (by simp [same])
      have later := ih fun member => enclosed (List.mem_cons_of_mem c member)
      rw [List.cons_append, readFrom_step .content .content c _ [.text c] (by simp [step, different]),
        later, Option.map_map]
      rfl

/-! ### Names -/

/-- A letter, and then letters, digits and hyphens. -/
def isName (name : String) : Bool :=
  match name.toList with
  | [] => false
  | c :: more => c.isAlpha && more.all isNameChar

theorem isNameChar_of_isAlpha (c : Char) (letter : c.isAlpha = true) : isNameChar c = true := by
  simp [isNameChar, Char.isAlphanum, letter]

theorem exists_of_isName (name : String) (proper : isName name = true) :
    ∃ c more, name.toList = c :: more ∧ c.isAlpha = true ∧ ∀ x ∈ more, isNameChar x = true := by
  unfold isName at proper
  split at proper
  · exact absurd proper Bool.false_ne_true
  · next c more chars =>
      rw [Bool.and_eq_true, List.all_eq_true] at proper
      exact ⟨c, more, chars, proper.1, proper.2⟩

theorem readFrom_openingName (tag : String) (rest : List Char) (proper : isName tag = true) :
    readFrom .content ('<' :: (tag.toList ++ rest)) = readFrom (.openingName tag.toList) rest := by
  obtain ⟨c, more, chars, letter, others⟩ := exists_of_isName tag proper
  have notSlash : c ≠ '/' := by rintro rfl; exact absurd letter (by decide)
  rw [readFrom_silent .content .afterLess '<' _ rfl, chars, List.cons_append,
    readFrom_silent .afterLess (.openingName [c]) c _ (by simp [step, notSlash, letter])]
  exact readFrom_absorbs .openingName (isNameChar · = true)
    (fun held x accepted => by simp [step, accepted]) [c] more rest others

theorem readFrom_closingTag (tag : String) (rest : List Char) (proper : isName tag = true) :
    readFrom .content ('<' :: '/' :: (tag.toList ++ '>' :: rest)) =
      (readFrom .content rest).map (Token.closing tag :: ·) := by
  obtain ⟨c, more, chars, letter, others⟩ := exists_of_isName tag proper
  have named : String.ofList (c :: more) = tag := by rw [← chars, String.ofList_toList]
  rw [readFrom_silent .content .afterLess '<' _ rfl,
    readFrom_silent .afterLess .afterLessSlash '/' _ rfl, chars, List.cons_append,
    readFrom_silent .afterLessSlash (.closingName [c]) c _ (by simp [step, letter]),
    readFrom_absorbs .closingName (isNameChar · = true)
      (fun held x accepted => by simp [step, accepted]) [c] more _ others,
    readFrom_step (.closingName ([c] ++ more)) .content '>' rest [.closing tag]
      (by simp [step, named]; decide)]
  rfl

/-! ### Attributes -/

-- A tag's name and a finished value are left the same way.
theorem readFrom_afterName (tag : String) (c : Char) (rest : List Char)
    (ended : isNameChar c = false) :
    readFrom (.openingName tag.toList) (c :: rest) = readFrom (.afterValue tag []) (c :: rest) := by
  simp [readFrom, step, ended]

theorem readFrom_attribute (tag : String) (before : List Attribute) (a : Attribute)
    (rest : List Char) (proper : isName a.name = true) (enclosed : '"' ∉ a.source.toList) :
    readFrom (.afterValue tag before) ((Markup.attributeText a).toList ++ rest) =
      readFrom (.afterValue tag (before ++ [a])) rest := by
  obtain ⟨c, more, chars, letter, others⟩ := exists_of_isName a.name proper
  have named : String.ofList (c :: more) = a.name := by rw [← chars, String.ofList_toList]
  have spelled : (Markup.attributeText a).toList ++ rest =
      ' ' :: c :: (more ++ '=' :: '"' :: (a.source.toList ++ '"' :: rest)) := by
    simp [Markup.attributeText, chars]
  have inside : ∀ x ∈ a.source.toList, x ≠ '"' := fun x member same => enclosed (same ▸ member)
  rw [spelled, readFrom_silent (.afterValue tag before) (.betweenAttributes tag before) ' ' _ rfl,
    readFrom_silent (.betweenAttributes tag before) (.attributeName tag before [c]) c _
      (by simp [step, isNameChar_of_isAlpha c letter]),
    readFrom_absorbs (.attributeName tag before) (isNameChar · = true)
      (fun held x accepted => by simp [step, accepted]) [c] more _ others,
    readFrom_silent _ (.afterEquals tag before ([c] ++ more)) '=' _ (by simp [step]; decide),
    readFrom_silent _ (.attributeValue tag before ([c] ++ more) []) '"' _ (by simp [step]),
    readFrom_absorbs (.attributeValue tag before ([c] ++ more)) (· ≠ '"')
      (fun held x accepted => by simp [step, accepted]) [] a.source.toList _ inside,
    readFrom_silent _ (.afterValue tag (before ++ [a])) '"' _ (by simp [step, named])]

theorem readFrom_attributes (tag : String) (before attributes : List Attribute) (rest : List Char)
    (proper : ∀ a ∈ attributes, isName a.name = true)
    (enclosed : ∀ a ∈ attributes, '"' ∉ a.source.toList) :
    readFrom (.afterValue tag before)
        ((String.join (attributes.map Markup.attributeText)).toList ++ rest) =
      readFrom (.afterValue tag (before ++ attributes)) rest := by
  induction attributes generalizing before with
  | nil => simp
  | cons a attributes ih =>
      have first := readFrom_attribute tag before a
        ((String.join (attributes.map Markup.attributeText)).toList ++ rest)
        (proper a List.mem_cons_self) (enclosed a List.mem_cons_self)
      have later := ih (before ++ [a]) (fun b member => proper b (List.mem_cons_of_mem a member))
        (fun b member => enclosed b (List.mem_cons_of_mem a member))
      rw [List.append_assoc, List.singleton_append] at later
      rw [List.map_cons, String.join_cons, String.toList_append, List.append_assoc, first, later]

theorem readFrom_openTag (tag : String) (attributes : List Attribute) (c : Char)
    (rest : List Char) (proper : isName tag = true)
    (named : ∀ a ∈ attributes, isName a.name = true)
    (enclosed : ∀ a ∈ attributes, '"' ∉ a.source.toList) (ended : isNameChar c = false) :
    readFrom .content ((Markup.openTag tag attributes).toList ++ c :: rest) =
      readFrom (.afterValue tag attributes) (c :: rest) := by
  have spelled : (Markup.openTag tag attributes).toList ++ c :: rest =
      '<' :: (tag.toList ++
        ((String.join (attributes.map Markup.attributeText)).toList ++ c :: rest)) := by
    simp [Markup.openTag]
  rw [spelled, readFrom_openingName tag _ proper]
  cases attributes with
  | nil => simpa using readFrom_afterName tag c rest ended
  | cons a attributes =>
      -- The first attribute begins with the gap that ends the tag's name.
      have gap := readFrom_afterName tag ' '
        ((a.name ++ "=\"" ++ a.source ++ "\"").toList ++
          ((String.join (attributes.map Markup.attributeText)).toList ++ c :: rest)) (by decide)
      have whole := readFrom_attributes tag [] (a :: attributes) (c :: rest) named enclosed
      simp only [List.map_cons, String.join_cons, String.toList_append, Markup.attributeText,
        List.append_assoc, List.nil_append] at gap whole ⊢
      exact gap.trans whole

end Lexer

/-! ### Tokens of a tree -/

namespace Markup

mutual

/-- The tokens that a tree is built from, its texts and values as they stand in it. -/
def tokens : Markup → List Token
  | verbatim source => source.toList.map .text
  | element tag attributes children =>
      .opening tag attributes false :: (tokensAll children ++ [.closing tag])
  | single tag attributes => [.opening tag attributes true]

def tokensAll : List Markup → List Token
  | [] => []
  | node :: rest => tokens node ++ tokensAll rest

end

theorem tokensAll_eq_flatMap (nodes : List Markup) : tokensAll nodes = nodes.flatMap tokens := by
  induction nodes with
  | nil => rfl
  | cons node rest ih => simp [tokensAll, ih]

/-- Something that holds for every token of a tree. -/
def All (holds : Token → Prop) (node : Markup) : Prop := ∀ token ∈ node.tokens, holds token

theorem all_verbatim (holds : Token → Prop) (source : String) :
    (verbatim source).All holds ↔ ∀ c ∈ source.toList, holds (.text c) := by
  simp [All, tokens]

theorem all_single (holds : Token → Prop) (tag : String) (attributes : List Attribute) :
    (single tag attributes).All holds ↔ holds (.opening tag attributes true) := by
  simp [All, tokens]

theorem all_element (holds : Token → Prop) (tag : String) (attributes : List Attribute)
    (children : List Markup) :
    (element tag attributes children).All holds ↔
      holds (.opening tag attributes false) ∧ (∀ child ∈ children, child.All holds) ∧
        holds (.closing tag) := by
  constructor
  · intro all
    refine ⟨all _ (by simp [tokens]), ?_, all _ (by simp [tokens])⟩
    intro child member token inside
    have among : token ∈ tokensAll children := by
      rw [tokensAll_eq_flatMap]
      exact List.mem_flatMap.mpr ⟨child, member, inside⟩
    exact all token (by simp [tokens, among])
  · rintro ⟨first, inner, last⟩ token member
    simp only [tokens, tokensAll_eq_flatMap, List.mem_cons, List.mem_append, List.mem_flatMap,
      List.not_mem_nil, or_false] at member
    rcases member with rfl | ⟨child, inside, member⟩ | rfl
    · exact first
    · exact inner child inside token member
    · exact last

end Markup

/-! ### Balance -/

theorem Token.closes_text (pending : List String) (chars : List Char) (rest : List Token) :
    closes pending (chars.map .text ++ rest) = closes pending rest := by
  induction chars with
  | nil => rfl
  | cons c chars ih => cases pending <;> simpa [closes] using ih

namespace Markup

mutual

theorem closes_tokens (pending : List String) (rest : List Token) :
    (node : Markup) → Token.closes pending (node.tokens ++ rest) = Token.closes pending rest
  | verbatim source => by rw [tokens, Token.closes_text]
  | element tag attributes children => by
      have inner := closes_tokensAll (tag :: pending) (.closing tag :: rest) children
      cases pending <;> simp_all [tokens, Token.closes]
  | single tag attributes => by cases pending <;> simp [tokens, Token.closes]

theorem closes_tokensAll (pending : List String) (rest : List Token) :
    (nodes : List Markup) →
      Token.closes pending (tokensAll nodes ++ rest) = Token.closes pending rest
  | [] => rfl
  | node :: others => by
      rw [tokensAll, List.append_assoc, closes_tokens pending _ node,
        closes_tokensAll pending rest others]

end

/-- Every tree has balanced tokens. -/
theorem areBalanced_tokens (node : Markup) : Token.areBalanced node.tokens = true := by
  have balanced := closes_tokens [] [] node
  rw [List.append_nil] at balanced
  rw [Token.areBalanced, balanced, Token.closes]

end Markup

/-! ### What the reader can find -/

namespace Lexer

/-- No value that has been read holds the quote that ends it. -/
def State.IsSound : State → Prop
  | .betweenAttributes _ attributes => (Token.opening "" attributes false).IsEnclosed
  | .attributeName _ attributes _ => (Token.opening "" attributes false).IsEnclosed
  | .afterEquals _ attributes _ => (Token.opening "" attributes false).IsEnclosed
  | .attributeValue _ attributes _ value =>
      (Token.opening "" attributes false).IsEnclosed ∧ '"' ∉ value
  | .afterValue _ attributes => (Token.opening "" attributes false).IsEnclosed
  | .afterSlash _ attributes => (Token.opening "" attributes false).IsEnclosed
  | _ => True

theorem afterPart_sound (tag : String) (attributes : List Attribute) (c : Char) (next : State)
    (tokens : List Token) (sound : (Token.opening "" attributes false).IsEnclosed)
    (moved : afterPart tag attributes c = some (next, tokens)) :
    next.IsSound ∧ ∀ token ∈ tokens, token.IsEnclosed := by
  unfold afterPart at moved
  split at moved
  · cases moved
    simpa [State.IsSound, Token.IsEnclosed] using sound
  · split at moved
    · cases moved
      exact ⟨sound, by simp⟩
    · split at moved
      · cases moved
        exact ⟨sound, by simp⟩
      · cases moved

theorem step_sound (state next : State) (c : Char) (tokens : List Token) (sound : state.IsSound)
    (moved : step state c = some (next, tokens)) :
    next.IsSound ∧ ∀ token ∈ tokens, token.IsEnclosed := by
  cases state with
  | content =>
      simp only [step] at moved
      split at moved <;> cases moved <;> simp_all [State.IsSound, Token.IsEnclosed]
  | afterLess =>
      simp only [step] at moved
      split at moved
      · cases moved; simp [State.IsSound]
      · split at moved <;> cases moved
        simp [State.IsSound]
  | afterLessSlash =>
      simp only [step] at moved
      split at moved <;> cases moved
      simp [State.IsSound]
  | closingName name =>
      simp only [step] at moved
      split at moved
      · cases moved; simp [State.IsSound]
      · split at moved <;> cases moved
        simp [State.IsSound, Token.IsEnclosed]
  | openingName name =>
      simp only [step] at moved
      split at moved
      · cases moved; simp [State.IsSound]
      · exact afterPart_sound _ _ _ _ _ (by simp [Token.IsEnclosed]) moved
  | betweenAttributes tag attributes =>
      simp only [step] at moved
      split at moved
      · cases moved; exact ⟨sound, by simp⟩
      · exact afterPart_sound _ _ _ _ _ sound moved
  | attributeName tag attributes name =>
      simp only [step] at moved
      split at moved
      · cases moved; exact ⟨sound, by simp⟩
      · split at moved <;> cases moved
        exact ⟨sound, by simp⟩
  | afterEquals tag attributes name =>
      simp only [step] at moved
      split at moved <;> cases moved
      exact ⟨⟨sound, by simp⟩, by simp⟩
  | attributeValue tag attributes name value =>
      obtain ⟨before, fresh⟩ := sound
      simp only [step] at moved
      split at moved <;> cases moved
      · refine ⟨?_, by simp⟩
        intro a member
        rcases List.mem_append.mp member with old | new
        · exact before a old
        · rw [List.mem_singleton.mp new]
          simpa using fresh
      · next different =>
          exact ⟨⟨before, by simp [fresh, Ne.symm different]⟩, by simp⟩
  | afterValue tag attributes => exact afterPart_sound _ _ _ _ _ sound moved
  | afterSlash tag attributes =>
      simp only [step] at moved
      split at moved <;> cases moved
      simpa [State.IsSound, Token.IsEnclosed] using sound

theorem readFrom_enclosed (state : State) (chars : List Char) (tokens : List Token)
    (sound : state.IsSound) (read : readFrom state chars = some tokens) :
    ∀ token ∈ tokens, token.IsEnclosed := by
  induction chars generalizing state tokens with
  | nil =>
      cases state <;> simp only [readFrom, Option.some.injEq, reduceCtorEq] at read
      subst read
      simp
  | cons c chars ih =>
      rw [readFrom] at read
      split at read
      · next next first moved =>
          obtain ⟨later, others, rfl⟩ := Option.map_eq_some_iff.mp read
          have kept := step_sound state next c first sound moved
          intro token member
          rcases List.mem_append.mp member with here | after
          · exact kept.2 token here
          · exact ih next later kept.1 others token after
      · cases read

end Lexer

/-! ### Reading a tree -/

/-- The names in the token are names for the reader too. -/
def Token.IsNamed : Token → Prop
  | .text _ => True
  | .opening tag attributes _ =>
      Lexer.isName tag = true ∧ ∀ a ∈ attributes, Lexer.isName a.name = true
  | .closing tag => Lexer.isName tag = true

namespace Markup

open Lexer

mutual

-- On the tree and its children at once: an opening tag, what is inside it, and the closing tag are read
-- one after the other, each from where the last one ended.
theorem readFrom_write (rest : List Char) :
    (node : Markup) → node.All Token.IsNamed → node.All Token.IsEnclosed →
      readFrom .content (node.write.toList ++ rest) =
        (readFrom .content rest).map (node.tokens ++ ·)
  | verbatim source, _, enclosed => by
      have inside : '<' ∉ source.toList := fun member =>
        (all_verbatim Token.IsEnclosed source).mp enclosed '<' member rfl
      rw [write, readFrom_text source.toList rest inside, tokens]
  | element tag attributes children, named, enclosed => by
      obtain ⟨proper, innerNamed, _⟩ := (all_element _ _ _ _).mp named
      obtain ⟨values, innerEnclosed, _⟩ := (all_element _ _ _ _).mp enclosed
      have spelled : (element tag attributes children).write.toList ++ rest =
          (openTag tag attributes).toList ++ '>' ::
            ((writeAll children).toList ++ '<' :: '/' :: (tag.toList ++ '>' :: rest)) := by
        simp [write]
      rw [spelled, readFrom_openTag tag attributes '>' _ proper.1 proper.2 values (by decide),
        readFrom_step (.afterValue tag attributes) .content '>' _ [.opening tag attributes false] rfl,
        readFrom_writeAll _ children innerNamed innerEnclosed, readFrom_closingTag tag rest proper.1]
      simp [tokens, Option.map_map, Function.comp_def]
  | single tag attributes, named, enclosed => by
      have proper := (all_single _ _ _).mp named
      have values := (all_single _ _ _).mp enclosed
      have spelled : (single tag attributes).write.toList ++ rest =
          (openTag tag attributes).toList ++ ' ' :: '/' :: '>' :: rest := by
        simp [write]
      rw [spelled, readFrom_openTag tag attributes ' ' _ proper.1 proper.2 values (by decide),
        readFrom_silent (.afterValue tag attributes) (.betweenAttributes tag attributes) ' ' _ rfl,
        readFrom_silent _ (.afterSlash tag attributes) '/' _ rfl,
        readFrom_step (.afterSlash tag attributes) .content '>' _ [.opening tag attributes true] rfl,
        tokens]

theorem readFrom_writeAll (rest : List Char) :
    (nodes : List Markup) → (∀ node ∈ nodes, node.All Token.IsNamed) →
      (∀ node ∈ nodes, node.All Token.IsEnclosed) →
      readFrom .content ((writeAll nodes).toList ++ rest) =
        (readFrom .content rest).map (tokensAll nodes ++ ·)
  | [], _, _ => by simp [writeAll, tokensAll]
  | node :: others, named, enclosed => by
      have first := readFrom_write ((writeAll others).toList ++ rest) node
        (named node List.mem_cons_self) (enclosed node List.mem_cons_self)
      have later := readFrom_writeAll rest others
        (fun other member => named other (List.mem_cons_of_mem node member))
        (fun other member => enclosed other (List.mem_cons_of_mem node member))
      rw [writeAll, String.toList_append, List.append_assoc, first, later]
      simp [tokensAll, Option.map_map, Function.comp_def]

end

theorem lex_write (node : Markup) (named : node.All Token.IsNamed)
    (enclosed : node.All Token.IsEnclosed) : lex node.write = some node.tokens := by
  have read := readFrom_write [] node named enclosed
  rw [List.append_nil] at read
  simpa [lex, readFrom] using read

-- A token that ends too early is never found, so reading can only give the tree back when there is none.
theorem lex_write_iff (node : Markup) (named : node.All Token.IsNamed) :
    lex node.write = some node.tokens ↔ node.All Token.IsEnclosed := by
  constructor
  · intro read
    exact readFrom_enclosed .content node.write.toList node.tokens trivial read
  · exact lex_write node named

end Markup

end ReportCompiler
