import Mathlib.Computability.Language
import Mathlib.Data.Set.List
import ReportCompiler.Proofs.Condition.Accepted

/-!
The kinds of tokens as languages, put together from characters by union, concatenation and repetition and
without the scanners. The written tokens are the words of these languages; so tokens that stand apart are found
as they are, and a text in which tokens are found is made of such words.
-/

namespace ReportCompiler

open ReportCompiler.Text
open scoped Computability

namespace Condition

/-! ### Languages of characters -/

/-- One character of a class. -/
def oneOf (isPart : Char → Bool) : Language Char := {chars | ∃ c, isPart c = true ∧ [c] = chars}

/-- One particular character. -/
def exactly (mark : Char) : Language Char := {[mark]}

/-- A word, or nothing in its place. -/
def optionally (words : Language Char) : Language Char := 1 + words

/-- One word of the language after the other, at least one. -/
def repeatedly (words : Language Char) : Language Char := words * words∗

theorem mem_oneOf (isPart : Char → Bool) (chars : List Char) :
    chars ∈ oneOf isPart ↔ ∃ c, isPart c = true ∧ [c] = chars := Iff.rfl

theorem mem_exactly (mark : Char) (chars : List Char) : chars ∈ exactly mark ↔ chars = [mark] := Iff.rfl

theorem mem_optionally (words : Language Char) (chars : List Char) :
    chars ∈ optionally words ↔ chars = [] ∨ chars ∈ words := Iff.rfl

/-- When the words are the spellings of some things, repeated words are the spellings of lists of them. -/
theorem mem_kstar_iff_spelled {α : Type} (words : Language Char) (good : α → Prop) (spell : α → List Char)
    (spelled : ∀ word, word ∈ words ↔ ∃ a, good a ∧ spell a = word) (chars : List Char) :
    chars ∈ words∗ ↔ ∃ parts : List α, (∀ a ∈ parts, good a) ∧ parts.flatMap spell = chars := by
  rw [Language.mem_kstar]
  constructor
  · rintro ⟨pieces, rfl, each⟩
    induction pieces with
    | nil => exact ⟨[], List.forall_mem_nil _, rfl⟩
    | cons piece rest ih =>
        obtain ⟨here, later⟩ := List.forall_mem_cons.mp each
        obtain ⟨a, fine, rfl⟩ := (spelled piece).mp here
        obtain ⟨parts, others, same⟩ := ih later
        exact ⟨a :: parts, List.forall_mem_cons.mpr ⟨fine, others⟩, by rw [List.flatMap_cons, same]; rfl⟩
  · rintro ⟨parts, each, rfl⟩
    refine ⟨parts.map spell, rfl, fun piece member => ?_⟩
    obtain ⟨a, listed, rfl⟩ := List.mem_map.mp member
    exact (spelled _).mpr ⟨a, each a listed, rfl⟩

theorem mem_kstar_oneOf (isPart : Char → Bool) (chars : List Char) :
    chars ∈ (oneOf isPart)∗ ↔ ∀ c ∈ chars, isPart c = true := by
  rw [mem_kstar_iff_spelled (oneOf isPart) (isPart · = true) ([·]) (mem_oneOf isPart)]
  simp only [List.flatMap_singleton']
  exact ⟨fun ⟨_, each, same⟩ => same ▸ each, fun each => ⟨chars, each, rfl⟩⟩

theorem mem_repeatedly_oneOf (isPart : Char → Bool) (chars : List Char) :
    chars ∈ repeatedly (oneOf isPart) ↔ chars ≠ [] ∧ ∀ c ∈ chars, isPart c = true := by
  rw [repeatedly, Language.mem_mul]
  constructor
  · rintro ⟨_, ⟨c, first, rfl⟩, more, rest, rfl⟩
    rw [mem_kstar_oneOf] at rest
    exact ⟨List.cons_ne_nil c more, List.forall_mem_cons.mpr ⟨first, rest⟩⟩
  · rintro ⟨given, each⟩
    obtain ⟨c, more, rfl⟩ := List.exists_cons_of_ne_nil given
    obtain ⟨first, rest⟩ := List.forall_mem_cons.mp each
    exact ⟨[c], ⟨c, first, rfl⟩, more, (mem_kstar_oneOf isPart more).mpr rest, rfl⟩

/-! ### The kinds of tokens -/

/-- Between its marks a text has any character but the mark and a backslash, or a backslash and any character
but a line end. -/
def quotedLanguage (mark : Char) : Language Char :=
  exactly mark * (oneOf (fun c => c != mark && c != '\\') + exactly '\\' * oneOf (· != '\n'))∗ * exactly mark

/-- Digits with or without a point, which digits may follow; or a point and digits. -/
def unsignedLanguage : Language Char :=
  repeatedly (oneOf isDecimalDigit) * optionally (exactly '.') * (oneOf isDecimalDigit)∗ +
    exactly '.' * repeatedly (oneOf isDecimalDigit)

/-- A name, and further names after a point or after a question mark and a point. -/
def pathLanguage : Language Char :=
  oneOf startsName * (oneOf isNamePart)∗ *
    (optionally (exactly '?') * exactly '.' * repeatedly (oneOf isNamePart))∗

/-- What tokens of the kind may look like. -/
def TokenKind.language : TokenKind → Language Char
  | operator => {chars | String.ofList chars ∈ operators}
  | text => quotedLanguage '\'' + quotedLanguage '"'
  | number => optionally (exactly '-') * unsignedLanguage
  | path => pathLanguage

/-- The kind of the token accepts all of its text. -/
def Token.IsAccepted (t : Token) : Prop := t.source.toList ∈ t.kind.language

/-! ### Written tokens are the words -/

theorem mem_operators_iff (source : String) : source ∈ operators ↔ ∃ o : Operator, o.spelling = source := by
  constructor
  · have known : ∀ spelling ∈ operators,
        (Operator.ofSpelling? spelling).map Operator.spelling = some spelling := by decide
    intro listed
    obtain ⟨o, _, spelled⟩ := Option.map_eq_some_iff.mp (known source listed)
    exact ⟨o, spelled⟩
  · rintro ⟨o, rfl⟩
    cases o with
    | comparing relation => cases relation <;> decide
    | _ => decide

theorem mem_letter_iff (mark : Char) (chars : List Char) :
    chars ∈ oneOf (fun c => c != mark && c != '\\') + exactly '\\' * oneOf (· != '\n') ↔
      ∃ letter : Letter, letter.Fits mark ∧ letter.chars = chars := by
  rw [Language.mem_add, Language.mem_mul]
  constructor
  · rintro (⟨c, plain, rfl⟩ | ⟨_, rfl, _, ⟨c, inLine, rfl⟩, rfl⟩)
    · exact ⟨.plain c, by simpa [Letter.Fits] using plain, rfl⟩
    · exact ⟨.escaped c, by simpa [Letter.Fits] using inLine, rfl⟩
  · rintro ⟨letter, fits, rfl⟩
    cases letter with
    | plain c => exact .inl ⟨c, by simpa [Letter.Fits] using fits, rfl⟩
    | escaped c => exact .inr ⟨['\\'], rfl, [c], ⟨c, by simpa [Letter.Fits] using fits, rfl⟩, rfl⟩

theorem mem_quotedLanguage_iff (mark : Char) (quotes : mark = '\'' ∨ mark = '"') (chars : List Char) :
    chars ∈ quotedLanguage mark ↔ ∃ t : QuotedText, t.mark = mark ∧ t.chars = chars := by
  simp only [quotedLanguage, Language.mem_mul,
    mem_kstar_iff_spelled _ (Letter.Fits mark) Letter.chars (mem_letter_iff mark)]
  constructor
  · rintro ⟨_, ⟨_, rfl, _, ⟨letters, fit, rfl⟩, rfl⟩, _, rfl, rfl⟩
    exact ⟨⟨mark, letters, quotes, fit⟩, rfl, rfl⟩
  · rintro ⟨t, rfl, rfl⟩
    exact ⟨_, ⟨[t.mark], rfl, _, ⟨t.letters, t.letters_fit, rfl⟩, rfl⟩, [t.mark], rfl, rfl⟩

/-- The digits of a number do not depend on its sign. -/
theorem mem_unsignedLanguage_iff (negative : Bool) (chars : List Char) :
    chars ∈ unsignedLanguage ↔ ∃ n : Figure, n.negative = negative ∧ n.unsigned = chars := by
  simp only [unsignedLanguage, Language.mem_add, Language.mem_mul, mem_repeatedly_oneOf, mem_optionally,
    mem_exactly, mem_kstar_oneOf]
  constructor
  · rintro (⟨_, ⟨whole, ⟨given, digits⟩, _, rfl | rfl, rfl⟩, more, others, rfl⟩ |
      ⟨_, rfl, fraction, ⟨given, digits⟩, rfl⟩)
    · refine ⟨⟨negative, whole ++ more, none, List.forall_mem_append.mpr ⟨digits, others⟩, by simp, ?_⟩, rfl, ?_⟩
      · exact List.append_ne_nil_of_left_ne_nil (List.append_ne_nil_of_left_ne_nil given _) _
      · rw [Figure.unsigned, Figure.pointed, List.append_nil, List.append_nil]
    · refine ⟨⟨negative, whole, some more, digits, by simpa using others, ?_⟩, rfl, ?_⟩
      · exact List.append_ne_nil_of_left_ne_nil given _
      · rw [Figure.unsigned, Figure.pointed, List.append_assoc, List.singleton_append]
    · exact ⟨⟨negative, [], some fraction, List.forall_mem_nil _, by simpa using digits, given⟩, rfl, rfl⟩
  · rintro ⟨⟨_, whole, fraction, digits, others, given⟩, rfl, rfl⟩
    cases fraction with
    | none =>
        have given : whole ≠ [] := by simpa using given
        exact .inl ⟨whole, ⟨whole, ⟨given, digits⟩, [], .inl rfl, List.append_nil _⟩, [], List.forall_mem_nil _, rfl⟩
    | some fraction =>
        have others := others fraction rfl
        by_cases first : whole = []
        · subst first
          exact .inr ⟨['.'], rfl, fraction, ⟨given, others⟩, rfl⟩
        · refine .inl ⟨whole ++ ['.'], ⟨whole, ⟨first, digits⟩, ['.'], .inr rfl, rfl⟩, fraction, others, ?_⟩
          rw [Figure.unsigned, Figure.pointed, List.append_assoc, List.singleton_append]

theorem mem_numberLanguage_iff (chars : List Char) :
    chars ∈ optionally (exactly '-') * unsignedLanguage ↔ ∃ n : Figure, n.chars = chars := by
  simp only [Language.mem_mul, mem_optionally, mem_exactly]
  constructor
  · rintro ⟨_, rfl | rfl, digits, unsigned, rfl⟩
    · obtain ⟨n, sign, rfl⟩ := (mem_unsignedLanguage_iff false digits).mp unsigned
      exact ⟨n, by rw [Figure.chars, sign, if_neg Bool.false_ne_true, List.nil_append]⟩
    · obtain ⟨n, sign, rfl⟩ := (mem_unsignedLanguage_iff true digits).mp unsigned
      exact ⟨n, by rw [Figure.chars, sign, if_pos rfl, List.singleton_append]⟩
  · rintro ⟨n, rfl⟩
    have unsigned := (mem_unsignedLanguage_iff n.negative n.unsigned).mpr ⟨n, rfl, rfl⟩
    cases sign : n.negative with
    | false => exact ⟨[], .inl rfl, n.unsigned, unsigned, by rw [Figure.chars, sign]; rfl⟩
    | true => exact ⟨['-'], .inr rfl, n.unsigned, unsigned, by rw [Figure.chars, sign]; rfl⟩

/-- A further name of a path with its divider. -/
theorem mem_further_iff (chars : List Char) :
    chars ∈ optionally (exactly '?') * exactly '.' * repeatedly (oneOf isNamePart) ↔
      ∃ name : Bool × List Char, (name.2 ≠ [] ∧ ∀ c ∈ name.2, isNamePart c = true) ∧
        Route.divider name.1 ++ name.2 = chars := by
  simp only [Language.mem_mul, mem_optionally, mem_exactly, mem_repeatedly_oneOf]
  constructor
  · rintro ⟨_, ⟨_, rfl | rfl, _, rfl, rfl⟩, name, parts, rfl⟩
    · exact ⟨(false, name), parts, rfl⟩
    · exact ⟨(true, name), parts, rfl⟩
  · rintro ⟨⟨optional, name⟩, parts, rfl⟩
    cases optional with
    | false => exact ⟨['.'], ⟨[], .inl rfl, ['.'], rfl, rfl⟩, name, parts, rfl⟩
    | true => exact ⟨['?', '.'], ⟨['?'], .inr rfl, ['.'], rfl, rfl⟩, name, parts, rfl⟩

theorem mem_pathLanguage_iff (chars : List Char) : chars ∈ pathLanguage ↔ ∃ p : Route, p.chars = chars := by
  simp only [pathLanguage, Language.mem_mul, mem_oneOf, mem_kstar_oneOf,
    mem_kstar_iff_spelled _ _ _ mem_further_iff]
  constructor
  · rintro ⟨_, ⟨_, ⟨first, starts, rfl⟩, more, parts, rfl⟩, _, ⟨further, names, rfl⟩, rfl⟩
    exact ⟨⟨first, more, further, starts, parts, names⟩, rfl⟩
  · rintro ⟨p, rfl⟩
    exact ⟨p.first :: p.more, ⟨[p.first], ⟨p.first, p.first_starts, rfl⟩, p.more, p.more_parts, rfl⟩, _,
      ⟨p.further, p.further_parts, rfl⟩, rfl⟩

theorem Lexeme.isAccepted (l : Lexeme) : l.token.IsAccepted := by
  rw [Token.IsAccepted, Lexeme.token, Lexeme.source, String.toList_ofList]
  cases l with
  | operator o =>
      show String.ofList o.spelling.toList ∈ operators
      rw [String.ofList_toList]
      exact (mem_operators_iff _).mpr ⟨o, rfl⟩
  | text t =>
      rcases t.mark_quotes with mark | mark
      · exact .inl ((mem_quotedLanguage_iff _ (.inl rfl) _).mpr ⟨t, mark, rfl⟩)
      · exact .inr ((mem_quotedLanguage_iff _ (.inr rfl) _).mpr ⟨t, mark, rfl⟩)
  | number n => exact (mem_numberLanguage_iff _).mpr ⟨n, rfl⟩
  | path p => exact (mem_pathLanguage_iff _).mpr ⟨p, rfl⟩

theorem TokenKind.exists_lexeme (kind : TokenKind) (chars : List Char) (accepted : chars ∈ kind.language) :
    ∃ l : Lexeme, l.kind = kind ∧ l.chars = chars := by
  cases kind with
  | operator =>
      obtain ⟨o, spelled⟩ := (mem_operators_iff _).mp accepted
      exact ⟨.operator o, rfl, by rw [Lexeme.chars, spelled, String.toList_ofList]⟩
  | text =>
      rcases accepted with single | double
      · obtain ⟨t, _, spelled⟩ := (mem_quotedLanguage_iff _ (.inl rfl) _).mp single
        exact ⟨.text t, rfl, spelled⟩
      · obtain ⟨t, _, spelled⟩ := (mem_quotedLanguage_iff _ (.inr rfl) _).mp double
        exact ⟨.text t, rfl, spelled⟩
  | number =>
      obtain ⟨n, spelled⟩ := (mem_numberLanguage_iff _).mp accepted
      exact ⟨.number n, rfl, spelled⟩
  | path =>
      obtain ⟨p, spelled⟩ := (mem_pathLanguage_iff _).mp accepted
      exact ⟨.path p, rfl, spelled⟩

/-- A token is accepted by its kind exactly when it is a written token. -/
theorem Token.isAccepted_iff (t : Token) : t.IsAccepted ↔ ∃ l : Lexeme, l.token = t := by
  constructor
  · intro accepted
    obtain ⟨l, kind, spelled⟩ := t.kind.exists_lexeme t.source.toList accepted
    exact ⟨l, by rw [Lexeme.token, Lexeme.source, kind, spelled, String.ofList_toList]⟩
  · rintro ⟨l, rfl⟩
    exact l.isAccepted

/-! ### Texts made of tokens -/

/-- Tokens one after the other with a gap in front of each, and a gap behind them. -/
def spread (parts : List (String × Token)) (trailing : String) : String :=
  String.join (parts.map fun part => part.1 ++ part.2.source) ++ trailing

/-- The text is made of tokens that their kinds accept, and of blanks in front of them, between them and behind
them. -/
structure IsMadeOf (text : String) (parts : List (String × Token)) (trailing : String) : Prop where
  written : text = spread parts trailing
  accepted : ∀ part ∈ parts, part.2.IsAccepted
  blanks : ∀ part ∈ parts, isBlankText part.1 = true
  trailingBlanks : isBlankText trailing = true

/-- A written token behind its gap. -/
def partOf (gap : List Char × Lexeme) : String × Token := (String.ofList gap.1, gap.2.token)

theorem spread_map_partOf (gaps : List (List Char × Lexeme)) (trailing : String) :
    spread (gaps.map partOf) trailing = String.ofList (spaced gaps trailing.toList) := by
  apply String.toList_injective
  rw [spread, String.toList_append, String.toList_join, List.map_map, List.flatMap_map, String.toList_ofList, spaced]
  simp only [Function.comp_apply, partOf, Lexeme.token, Lexeme.source, String.toList_append, String.toList_ofList]

theorem exists_gaps (parts : List (String × Token)) (accepted : ∀ part ∈ parts, part.2.IsAccepted) :
    ∃ gaps : List (List Char × Lexeme), gaps.map partOf = parts := by
  have each : ∀ part ∈ parts, part ∈ Set.range partOf := by
    intro part member
    obtain ⟨l, token⟩ := (Token.isAccepted_iff part.2).mp (accepted part member)
    exact ⟨(part.1.toList, l), by rw [partOf, token, String.ofList_toList]⟩
  have whole : parts ∈ Set.range (List.map partOf) := by
    rw [Set.range_list_map]
    exact each
  exact whole

/-- Scanning is exact. Where a text is made of tokens and the gaps between them are not empty, they are the
tokens that are found; and a text in which tokens are found is made of them. -/
theorem tokens_exact :
    (∀ (text : String) (parts : List (String × Token)) (trailing : String), IsMadeOf text parts trailing →
      (∀ part ∈ parts.tail, part.1 ≠ "") → tokens text = .ok (parts.map Prod.snd)) ∧
    ∀ (text : String) (found : List Token), tokens text = .ok found →
      ∃ parts trailing, IsMadeOf text parts trailing ∧ parts.map Prod.snd = found := by
  constructor
  · intro text parts trailing made apart
    obtain ⟨gaps, rfl⟩ := exists_gaps parts made.accepted
    have blanks : ∀ gap ∈ gaps, ∀ c ∈ gap.1, isBlank c = true := fun gap member =>
      (isBlankText_ofList_iff gap.1).mp (made.blanks _ (List.mem_map_of_mem member))
    have given : ∀ gap ∈ gaps.tail, gap.1 ≠ [] := by
      intro gap member none
      rw [← List.map_tail] at apart
      exact apart _ (List.mem_map_of_mem member) (by rw [partOf, none, String.ofList_nil])
    rw [made.written, spread_map_partOf, List.map_map]
    exact tokens_spaced gaps trailing.toList blanks given (List.all_eq_true.mp made.trailingBlanks)
  · intro text found scanned
    obtain ⟨gaps, trailing, whole, rfl, blanks, trailingBlanks⟩ :=
      tokensFrom_sound 0 _ text.toList (Nat.le_refl _) found scanned
    refine ⟨gaps.map partOf, String.ofList trailing, ⟨?_, ?_, ?_, ?_⟩, List.map_map⟩
    · rw [spread_map_partOf, String.toList_ofList, ← whole, String.ofList_toList]
    · intro part member
      obtain ⟨gap, _, rfl⟩ := List.mem_map.mp member
      exact gap.2.isAccepted
    · intro part member
      obtain ⟨gap, listed, rfl⟩ := List.mem_map.mp member
      exact (isBlankText_ofList_iff gap.1).mpr (blanks gap listed)
    · exact (isBlankText_ofList_iff trailing).mpr trailingBlanks

/-- An optional point in a path, a number that begins with its point, and a mark and a line end within a text. -/
theorem tokens_exact_mixed :
    let parts : List (String × Token) :=
      [("\t", ⟨.path, "a?.b"⟩), (" ", ⟨.operator, ">="⟩), ("\n\n", ⟨.number, "-.5"⟩), (" ", ⟨.operator, "&&"⟩),
        (" ", ⟨.text, "'\\'\n'"⟩)]
    let text := "\ta?.b >=\n\n-.5 && '\\'\n' "
    IsMadeOf text parts " " ∧ (∀ part ∈ parts.tail, part.1 ≠ "") ∧ tokens text = .ok (parts.map Prod.snd) ∧
      ∃ others trailing, IsMadeOf text others trailing ∧ others.map Prod.snd = parts.map Prod.snd := by
  intro parts text
  have digit : isDecimalDigit '5' = true := by decide
  have part : isNamePart 'b' = true := by decide
  let lexemes : List Lexeme :=
    [.path ⟨'a', [], [(true, ['b'])], by decide, by simp, by simpa using part⟩, .operator (.comparing .atLeast),
      .number ⟨true, [], some ['5'], by simp, by simpa using digit, by simp⟩, .operator .both,
      .text ⟨'\'', [.escaped '\'', .plain '\n'], .inl rfl, by simp [Letter.Fits]⟩]
  have written : parts.map Prod.snd = lexemes.map Lexeme.token := rfl
  have accepted : ∀ part ∈ parts, part.2.IsAccepted := by
    intro part member
    have listed : part.2 ∈ lexemes.map Lexeme.token := written ▸ List.mem_map_of_mem member
    obtain ⟨l, _, token⟩ := List.mem_map.mp listed
    exact (Token.isAccepted_iff part.2).mpr ⟨l, token⟩
  have made : IsMadeOf text parts " " := ⟨by decide +kernel, accepted, by decide +kernel, by decide⟩
  have apart : ∀ part ∈ parts.tail, part.1 ≠ "" := by decide
  have found := tokens_exact.1 text parts " " made apart
  exact ⟨made, apart, found, tokens_exact.2 text _ found⟩

end Condition

end ReportCompiler
