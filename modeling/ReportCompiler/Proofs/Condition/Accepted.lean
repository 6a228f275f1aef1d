import ReportCompiler.Proofs.Condition.Grammar
import ReportCompiler.Proofs.Condition.Scanning

/-!
The texts that are conditions. Every scanner takes a token in its written form and leaves the rest alone, so
a text with a tree is made of written tokens with blanks around them, from which the grammar derives the tree.
-/

namespace ReportCompiler

open ReportCompiler.Text

namespace Condition

/-! ### What a scanner takes -/

theorem operator?_sound (chars source after : List Char) (found : operator? chars = some (source, after)) :
    chars = source ++ after ∧ ∃ o : Operator, o.spelling.toList = source := by
  have known : ∀ spelling ∈ operators,
      (Operator.ofSpelling? spelling).map Operator.spelling = some spelling := by decide
  obtain ⟨spelling, first, same⟩ := Option.map_eq_some_iff.mp found
  cases same
  have starts : spelling.toList.isPrefixOf chars = true := by
    simpa using List.find?_some first
  obtain ⟨rest, rfl⟩ := List.isPrefixOf_iff_prefix.mp starts
  obtain ⟨o, _, spelled⟩ := Option.map_eq_some_iff.mp (known spelling (List.mem_of_find?_eq_some first))
  constructor
  · rw [List.drop_left]
  · exact ⟨o, by rw [spelled]⟩

theorem quoted?_sound (mark : Char) (chars inside after : List Char)
    (found : quoted? mark chars = some (inside, after)) :
    chars = inside ++ after ∧ ∃ letters : List Letter, (∀ letter ∈ letters, letter.Fits mark) ∧
      letters.flatMap Letter.chars ++ [mark] = inside := by
  induction chars using quoted?.induct mark generalizing inside after with
  | case1 => cases found
  | case2 c rest lineEnd =>
      rw [quoted?, if_pos lineEnd] at found
      cases found
  | case3 c rest inLine ih =>
      rw [quoted?, if_neg inLine] at found
      obtain ⟨⟨later, remaining⟩, read, same⟩ := Option.map_eq_some_iff.mp found
      cases same
      obtain ⟨rfl, letters, fit, rfl⟩ := ih later after read
      have here : (Letter.escaped c).Fits mark := fun same => inLine (beq_iff_eq.mpr same)
      exact ⟨rfl, .escaped c :: letters, List.forall_mem_cons.mpr ⟨here, fit⟩, rfl⟩
  | case4 c rest single closes =>
      rw [quoted?.eq_3 _ _ _ single, if_pos closes] at found
      cases found
      obtain rfl := beq_iff_eq.mp closes
      exact ⟨rfl, [], List.forall_mem_nil _, rfl⟩
  | case5 c rest single other backslash =>
      rw [quoted?.eq_3 _ _ _ single, if_neg other, if_pos backslash] at found
      cases found
  | case6 c rest single other plain ih =>
      rw [quoted?.eq_3 _ _ _ single, if_neg other, if_neg plain] at found
      obtain ⟨⟨later, remaining⟩, read, same⟩ := Option.map_eq_some_iff.mp found
      cases same
      obtain ⟨rfl, letters, fit, rfl⟩ := ih later after read
      have here : (Letter.plain c).Fits mark :=
        ⟨fun same => other (beq_iff_eq.mpr same), fun same => plain (beq_iff_eq.mpr same)⟩
      exact ⟨rfl, .plain c :: letters, List.forall_mem_cons.mpr ⟨here, fit⟩, rfl⟩

theorem text?_sound (chars source after : List Char) (found : text? chars = some (source, after)) :
    chars = source ++ after ∧ ∃ t : QuotedText, t.chars = source := by
  cases chars with
  | nil => cases found
  | cons mark rest =>
      rw [text?] at found
      split at found
      · next quotes =>
          obtain ⟨⟨inside, remaining⟩, read, same⟩ := Option.map_eq_some_iff.mp found
          cases same
          obtain ⟨rfl, letters, fit, rfl⟩ := quoted?_sound mark rest inside after read
          have marks : mark = '\'' ∨ mark = '"' := by simpa using quotes
          exact ⟨rfl, ⟨mark, letters, marks, fit⟩, rfl⟩
      · cases found

theorem forall_mem_takeWhile (isPart : Char → Bool) (chars : List Char) :
    ∀ c ∈ chars.takeWhile isPart, isPart c = true :=
  fun _ member => List.mem_takeWhile_imp member

/-- The digits are those of a number with either sign. -/
theorem unsigned?_sound (chars source after : List Char) (found : unsigned? chars = some (source, after))
    (negative : Bool) :
    chars = source ++ after ∧ ∃ n : Figure, n.negative = negative ∧ n.unsigned = source := by
  have whole : chars.takeWhile isDecimalDigit ++ chars.dropWhile isDecimalDigit = chars :=
    List.takeWhile_append_dropWhile
  have whole_digits := forall_mem_takeWhile isDecimalDigit chars
  rw [unsigned?] at found
  split at found
  · next rest pointed =>
      have split_rest : rest.takeWhile isDecimalDigit ++ rest.dropWhile isDecimalDigit = rest :=
        List.takeWhile_append_dropWhile
      have fraction_digits := forall_mem_takeWhile isDecimalDigit rest
      simp only at found
      split at found
      · cases found
      · next given =>
          cases found
          constructor
          · rw [List.append_assoc, List.cons_append, split_rest, ← pointed, whole]
          · refine ⟨⟨negative, chars.takeWhile isDecimalDigit, some (rest.takeWhile isDecimalDigit),
              whole_digits, ?_, ?_⟩, rfl, rfl⟩
            · rintro digits ⟨⟩
              exact fraction_digits
            · intro none
              obtain ⟨first, second⟩ := List.append_eq_nil_iff.mp none
              rw [Option.getD_some] at second
              rw [first, second] at given
              exact given rfl
  · next unpointed =>
      split at found
      · cases found
      · next given =>
          cases found
          refine ⟨whole.symm, ⟨negative, chars.takeWhile isDecimalDigit, none, whole_digits, ?_, ?_⟩, rfl, ?_⟩
          · rintro digits ⟨⟩
          · rw [Option.getD_none, List.append_nil]
            intro none
            exact given (List.isEmpty_iff.mpr none)
          · exact List.append_nil _

theorem number?_sound (chars source after : List Char) (found : number? chars = some (source, after)) :
    chars = source ++ after ∧ ∃ n : Figure, n.chars = source := by
  rw [number?.eq_def] at found
  split at found
  · next rest =>
      obtain ⟨⟨digits, remaining⟩, read, same⟩ := Option.map_eq_some_iff.mp found
      cases same
      obtain ⟨rfl, n, sign, rfl⟩ := unsigned?_sound rest digits after read true
      exact ⟨rfl, n, by rw [Figure.chars, sign, if_pos rfl]⟩
  · obtain ⟨rfl, n, sign, rfl⟩ := unsigned?_sound chars source after found false
    exact ⟨rfl, n, by rw [Figure.chars, sign, if_neg Bool.false_ne_true]⟩

theorem divider?_sound (chars mark rest : List Char) (found : divider? chars = some (mark, rest)) :
    chars = mark ++ rest ∧ ∃ optional, Route.divider optional = mark := by
  rw [divider?.eq_def] at found
  split at found
  · cases found
    exact ⟨rfl, false, rfl⟩
  · cases found
    exact ⟨rfl, true, rfl⟩
  · cases found

theorem names_sound (fuel : Nat) (chars : List Char) :
    chars = (names fuel chars).1 ++ (names fuel chars).2 ∧ ∃ further : List (Bool × List Char),
      (∀ name ∈ further, name.2 ≠ [] ∧ ∀ c ∈ name.2, isNamePart c = true) ∧
        Route.divided further = (names fuel chars).1 := by
  induction fuel generalizing chars with
  | zero => exact ⟨rfl, [], List.forall_mem_nil _, rfl⟩
  | succ fuel ih =>
      rw [names]
      split
      · next mark rest divided =>
          obtain ⟨rfl, optional, rfl⟩ := divider?_sound chars mark rest divided
          simp only
          split
          · exact ⟨rfl, [], List.forall_mem_nil _, rfl⟩
          · next given =>
              obtain ⟨split_rest, further, parts, spelled⟩ := ih (rest.dropWhile isNamePart)
              have name : rest.takeWhile isNamePart ++ rest.dropWhile isNamePart = rest :=
                List.takeWhile_append_dropWhile
              have nonempty : rest.takeWhile isNamePart ≠ [] := fun none => given (List.isEmpty_iff.mpr none)
              have here := forall_mem_takeWhile isNamePart rest
              constructor
              · rw [List.append_assoc, List.append_assoc, ← split_rest, name]
              · refine ⟨(optional, rest.takeWhile isNamePart) :: further,
                  List.forall_mem_cons.mpr ⟨⟨nonempty, here⟩, parts⟩, ?_⟩
                rw [← spelled]
                rfl
      · exact ⟨rfl, [], List.forall_mem_nil _, rfl⟩

theorem path?_sound (chars source after : List Char) (found : path? chars = some (source, after)) :
    chars = source ++ after ∧ ∃ p : Route, p.chars = source := by
  cases chars with
  | nil => cases found
  | cons c rest =>
      rw [path?] at found
      split at found
      · next starts =>
          obtain ⟨split_rest, further, parts, spelled⟩ := names_sound rest.length (rest.dropWhile isNamePart)
          have more : rest.takeWhile isNamePart ++ rest.dropWhile isNamePart = rest :=
            List.takeWhile_append_dropWhile
          have more_parts := forall_mem_takeWhile isNamePart rest
          cases found
          constructor
          · rw [List.cons_append, List.cons_append, List.append_assoc, ← split_rest, more]
          · refine ⟨⟨c, rest.takeWhile isNamePart, further, starts, more_parts, parts⟩, ?_⟩
            rw [← spelled]
            rfl
      · cases found

-- Of the four scanners only the one that found the token matters, not that those before it found none.
/-- What is taken as a token is one in its written form. -/
theorem token?_sound (chars : List Char) (t : Token) (after : List Char)
    (found : token? chars = some (t, after)) : ∃ l : Lexeme, l.token = t ∧ chars = l.chars ++ after := by
  obtain ⟨⟨kind, scan⟩, listed, read⟩ := List.exists_of_findSome?_eq_some found
  obtain ⟨⟨source, remaining⟩, scanned, same⟩ := Option.map_eq_some_iff.mp read
  cases same
  simp only [scanners, List.mem_cons, List.not_mem_nil, or_false, Prod.mk.injEq] at listed
  rcases listed with ⟨rfl, rfl⟩ | ⟨rfl, rfl⟩ | ⟨rfl, rfl⟩ | ⟨rfl, rfl⟩
  · obtain ⟨rfl, o, rfl⟩ := operator?_sound chars source after scanned
    exact ⟨.operator o, rfl, rfl⟩
  · obtain ⟨rfl, t, rfl⟩ := text?_sound chars source after scanned
    exact ⟨.text t, rfl, rfl⟩
  · obtain ⟨rfl, n, rfl⟩ := number?_sound chars source after scanned
    exact ⟨.number n, rfl, rfl⟩
  · obtain ⟨rfl, p, rfl⟩ := path?_sound chars source after scanned
    exact ⟨.path p, rfl, rfl⟩

/-! ### Whole texts -/

/-- The text holds the tokens in their order, and blanks besides. -/
def Holds (chars : List Char) (found : List Token) : Prop :=
  ∃ gaps trailing, chars = spaced gaps trailing ∧ found = gaps.map (fun gap => gap.2.token) ∧
    (∀ gap ∈ gaps, ∀ c ∈ gap.1, isBlank c = true) ∧ ∀ c ∈ trailing, isBlank c = true

theorem holds_nil : Holds [] [] := ⟨[], [], rfl, rfl, List.forall_mem_nil _, List.forall_mem_nil _⟩

theorem Holds.blank {chars : List Char} {found : List Token} (holds : Holds chars found) (c : Char)
    (blank : isBlank c = true) : Holds (c :: chars) found := by
  obtain ⟨gaps, trailing, rfl, rfl, blanks, trailingBlanks⟩ := holds
  cases gaps with
  | nil =>
      exact ⟨[], c :: trailing, rfl, rfl, blanks, List.forall_mem_cons.mpr ⟨blank, trailingBlanks⟩⟩
  | cons gap gaps =>
      obtain ⟨here, later⟩ := List.forall_mem_cons.mp blanks
      refine ⟨(c :: gap.1, gap.2) :: gaps, trailing, rfl, rfl, ?_, trailingBlanks⟩
      exact List.forall_mem_cons.mpr ⟨List.forall_mem_cons.mpr ⟨blank, here⟩, later⟩

theorem Holds.lexeme {chars : List Char} {found : List Token} (holds : Holds chars found) (l : Lexeme) :
    Holds (l.chars ++ chars) (l.token :: found) := by
  obtain ⟨gaps, trailing, rfl, rfl, blanks, trailingBlanks⟩ := holds
  refine ⟨([], l) :: gaps, trailing, ?_, rfl, ?_, trailingBlanks⟩
  · rw [spaced_cons, List.nil_append]
  · exact List.forall_mem_cons.mpr ⟨List.forall_mem_nil _, blanks⟩

-- The fuel outlasts the text, since each token and each blank takes at least one character.
theorem tokensFrom_sound (position fuel : Nat) (chars : List Char) (enough : chars.length ≤ fuel)
    (found : List Token) (scanned : tokensFrom position fuel chars = .ok found) : Holds chars found := by
  induction fuel generalizing position chars found with
  | zero =>
      obtain rfl := List.eq_nil_of_length_eq_zero (Nat.le_zero.mp enough)
      cases scanned
      exact holds_nil
  | succ fuel ih =>
      cases chars with
      | nil =>
          cases scanned
          exact holds_nil
      | cons c rest =>
          rw [tokensFrom] at scanned
          split at scanned
          · next blank =>
              exact (ih (position + 1) rest (Nat.le_of_succ_le_succ enough) found scanned).blank c blank
          · split at scanned
            · next token after taken =>
                obtain ⟨l, rfl, whole⟩ := token?_sound (c :: rest) token after taken
                obtain ⟨others, read, same⟩ := (Attempt.bind_eq_ok_iff _ _ _).mp scanned
                cases same
                have visible := length_chars_pos l
                rw [whole, List.length_append] at enough
                rw [whole]
                exact (ih _ after (by omega) others read).lexeme l
            · cases scanned

theorem exists_lexemes (text : String) (found : List Token) (scanned : tokens text = .ok found) :
    ∃ lexemes : List Lexeme, found = lexemes.map Lexeme.token := by
  obtain ⟨gaps, trailing, _, rfl, _⟩ := tokensFrom_sound 0 _ text.toList (Nat.le_refl _) found scanned
  exact ⟨gaps.map Prod.snd, by rw [List.map_map]; rfl⟩

/-- A text is a condition exactly when it is made of tokens from which the grammar derives its tree. -/
theorem parse_eq_ok_iff (text : String) (tree : Condition) :
    parse text = .ok tree ↔
      ∃ lexemes, tokens text = .ok (lexemes.map Lexeme.token) ∧ Derives .any lexemes tree := by
  constructor
  · intro parsed
    obtain ⟨found, scanned, read⟩ := (Attempt.bind_eq_ok_iff _ _ _).mp parsed
    obtain ⟨lexemes, rfl⟩ := exists_lexemes text found scanned
    exact ⟨lexemes, scanned, derives_of_ofTokens lexemes tree read⟩
  · rintro ⟨lexemes, scanned, derived⟩
    rw [parse, scanned]
    exact ofTokens_of_derives lexemes tree derived

end Condition

end ReportCompiler
