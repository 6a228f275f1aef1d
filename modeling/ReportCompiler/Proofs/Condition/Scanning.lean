import ReportCompiler.Proofs.Condition.Lexeme

/-!
Written tokens, scanned. A token is taken whole wherever a blank or the end of the text follows it, so tokens
with blanks between them are found one after the other.
-/

namespace ReportCompiler

open ReportCompiler.Text

namespace Condition

/-- What follows a token sets it apart: a blank, or nothing. -/
def SetsApart (rest : List Char) : Prop := ∀ c ∈ rest.head?, isBlank c = true

theorem SetsApart.stops {rest : List Char} (apart : SetsApart rest) (isPart : Char → Bool)
    (never : ∀ c, isBlank c = true → isPart c = false) : ∀ c ∈ rest.head?, isPart c = false :=
  fun c first => never c (apart c first)

theorem SetsApart.ne {rest : List Char} (apart : SetsApart rest) (mark : Char)
    (shown : isBlank mark = false) : rest.head? ≠ some mark := by
  intro first
  rw [apart mark first] at shown
  cases shown

/-! ### Operators -/

/-- The characters with which operators begin. -/
def operatorMarks : List Char := ['=', '!', '>', '<', '&', '|', '(', ')']

theorem operator?_eq_none (c : Char) (rest : List Char) (other : c ∉ operatorMarks) :
    operator? (c :: rest) = none := by
  have begins : ∀ operator ∈ operators, operator.toList.head?.any operatorMarks.contains = true := by
    decide
  have unlike : ∀ operator ∈ operators, ¬ operator.toList.isPrefixOf (c :: rest) = true := by
    intro operator listed starts
    have begun := begins operator listed
    cases spelled : operator.toList with
    | nil =>
        rw [spelled] at begun
        cases begun
    | cons mark more =>
        rw [spelled, List.isPrefixOf, Bool.and_eq_true, beq_iff_eq] at starts
        rw [spelled, List.head?_cons, Option.any_some, List.contains_iff_mem, starts.1] at begun
        exact other begun
  rw [operator?, List.find?_eq_none.mpr unlike]
  rfl

-- Only an equality sign after it could make another operator of one that begins like it.
theorem operator?_spelling (o : Operator) (rest : List Char) (apart : SetsApart rest) :
    operator? (o.spelling.toList ++ rest) = some (o.spelling.toList, rest) := by
  cases rest with
  | nil =>
      cases o with
      | comparing relation => cases relation <;> rfl
      | _ => rfl
  | cons c more =>
      have other : '=' ≠ c := fun same => apart.ne '=' rfl (congrArg some same.symm)
      cases o with
      | comparing relation =>
          cases relation <;>
            simp [operator?, operators, Operator.spelling, Comparison.spelling, List.isPrefixOf, other]
      | _ => simp [operator?, operators, Operator.spelling, List.isPrefixOf, other]

/-! ### Quoted texts -/

theorem quoted?_plain (mark c : Char) (rest : List Char) (other : c ≠ mark) (plain : c ≠ '\\') :
    quoted? mark (c :: rest) = (quoted? mark rest).map fun found => (c :: found.1, found.2) := by
  rw [quoted?, if_neg (by simp [other]), if_neg (by simp [plain])]
  intro escaped more same
  exact absurd same plain

theorem quoted?_close (mark : Char) (rest : List Char) (quotes : mark ≠ '\\') :
    quoted? mark (mark :: rest) = some ([mark], rest) := by
  rw [quoted?, if_pos (beq_self_eq_true mark)]
  intro escaped more same
  exact absurd same quotes

theorem quoted?_escaped (mark c : Char) (rest : List Char) (inLine : c ≠ '\n') :
    quoted? mark ('\\' :: c :: rest) =
      (quoted? mark rest).map fun found => ('\\' :: c :: found.1, found.2) := by
  rw [quoted?, if_neg (by simp [inLine])]

theorem quoted?_letters (mark : Char) (quotes : mark ≠ '\\') (letters : List Letter)
    (fit : ∀ letter ∈ letters, letter.Fits mark) (rest : List Char) :
    quoted? mark (letters.flatMap Letter.chars ++ mark :: rest) =
      some (letters.flatMap Letter.chars ++ [mark], rest) := by
  induction letters with
  | nil => exact quoted?_close mark rest quotes
  | cons letter more ih =>
      obtain ⟨here, later⟩ := List.forall_mem_cons.mp fit
      rw [List.flatMap_cons, List.append_assoc, List.append_assoc]
      cases letter with
      | plain c =>
          rw [Letter.chars, List.singleton_append, quoted?_plain mark c _ here.1 here.2, ih later]
          rfl
      | escaped c =>
          rw [Letter.chars, List.cons_append, List.singleton_append, quoted?_escaped mark c _ here, ih later]
          rfl

theorem text?_chars (t : QuotedText) (rest : List Char) :
    text? (t.chars ++ rest) = some (t.chars, rest) := by
  have quotes : (t.mark == '\'' || t.mark == '"') = true := by
    simpa using t.mark_quotes
  have noEscape : t.mark ≠ '\\' := by
    rcases t.mark_quotes with mark | mark <;> rw [mark] <;> decide
  have inside := quoted?_letters t.mark noEscape t.letters t.letters_fit rest
  rw [QuotedText.chars, List.cons_append, List.cons_append, List.append_assoc, List.singleton_append, text?,
    if_pos quotes, inside]
  rfl

theorem text?_eq_none (c : Char) (rest : List Char) (single : c ≠ '\'') (double : c ≠ '"') :
    text? (c :: rest) = none := by
  rw [text?, if_neg (by simp [single, double])]

/-! ### Numbers -/

theorem unsigned?_unsigned (n : Figure) (rest : List Char) (apart : SetsApart rest) :
    unsigned? (n.unsigned ++ rest) = some (n.unsigned, rest) := by
  obtain ⟨negative, whole, fraction, whole_digits, fraction_digits, some_digit⟩ := n
  have blank_stops := apart.stops isDecimalDigit isDecimalDigit_of_isBlank
  cases fraction with
  | none =>
      have digits : whole.isEmpty = false := by simpa using some_digit
      have noPoint := apart.ne '.' rfl
      rw [Figure.unsigned, Figure.pointed, List.append_nil, unsigned?,
        takeWhile_run _ _ _ whole_digits blank_stops, dropWhile_run _ _ _ whole_digits blank_stops]
      split
      · exact absurd rfl noPoint
      · rw [digits, if_neg Bool.false_ne_true]
  | some fraction =>
      have digits : (whole.isEmpty && fraction.isEmpty) = false := by
        rw [Bool.and_eq_false_iff]
        simpa [Classical.or_iff_not_imp_left] using some_digit
      have point : ∀ c ∈ ('.' :: (fraction ++ rest)).head?, isDecimalDigit c = false :=
        Figure.pointed_ends (some (fraction ++ rest))
      have inFraction := fraction_digits fraction rfl
      rw [Figure.unsigned, Figure.pointed, List.append_assoc, List.cons_append, unsigned?,
        takeWhile_run _ _ _ whole_digits point, dropWhile_run _ _ _ whole_digits point]
      split
      · next after same =>
          cases same
          simp only [takeWhile_run _ _ _ inFraction blank_stops, dropWhile_run _ _ _ inFraction blank_stops,
            digits, Bool.false_eq_true, if_false]
      · next noPoint => exact absurd rfl (noPoint _)

theorem number?_unsigned (c : Char) (rest : List Char) (sign : c ≠ '-') :
    number? (c :: rest) = unsigned? (c :: rest) := by
  rw [number?]
  intro digits same
  exact sign (List.cons.inj same).1

theorem number?_chars (n : Figure) (rest : List Char) (apart : SetsApart rest) :
    number? (n.chars ++ rest) = some (n.chars, rest) := by
  have unsigned := unsigned?_unsigned n rest apart
  obtain ⟨c, more, spelled, open_⟩ := n.unsigned_opens
  have minus := Figure.ne_of_opens c '-' rfl open_
  cases sign : n.negative with
  | true =>
      rw [Figure.chars, sign, if_pos rfl, List.cons_append, number?, unsigned]
      rfl
  | false =>
      rw [Figure.chars, sign, if_neg Bool.false_ne_true, ← unsigned, spelled, List.cons_append]
      exact number?_unsigned c (more ++ rest) minus

theorem number?_eq_none (c : Char) (rest : List Char) (sign : c ≠ '-') (closed : Figure.opens c = false) :
    number? (c :: rest) = none := by
  rw [Figure.opens, Bool.or_eq_false_iff] at closed
  have point := beq_eq_false_iff_ne.mp closed.2
  rw [number?_unsigned c rest sign]
  simp [unsigned?, closed.1, point]

/-! ### Paths -/

theorem divider?_eq_none (rest : List Char) (apart : SetsApart rest) : divider? rest = none := by
  have point := apart.ne '.' rfl
  have mark := apart.ne '?' rfl
  rw [divider?]
  · intro more same
    exact point (by rw [same]; rfl)
  · intro more same
    exact mark (by rw [same]; rfl)

theorem divider?_divider (optional : Bool) (rest : List Char) :
    divider? (Route.divider optional ++ rest) = some (Route.divider optional, rest) := by
  cases optional <;> rfl

theorem isNamePart_of_isBlank (c : Char) (blank : isBlank c = true) : isNamePart c = false := by
  rw [isNamePart, isWord_of_isBlank c blank, Bool.false_or, beq_eq_false_iff_ne]
  rintro rfl
  cases blank

theorem divided_ends (further : List (Bool × List Char)) (rest : List Char) (apart : SetsApart rest) :
    ∀ c ∈ (Route.divided further ++ rest).head?, isNamePart c = false := by
  cases further with
  | nil => exact apart.stops isNamePart isNamePart_of_isBlank
  | cons name more =>
      intro c first
      obtain ⟨optional, name⟩ := name
      cases optional <;> cases first <;> rfl

theorem length_le_divided (further : List (Bool × List Char)) :
    further.length ≤ (Route.divided further).length := by
  induction further with
  | nil => exact Nat.le_refl 0
  | cons name more ih =>
      have divider : 1 ≤ (Route.divider name.1).length := by cases name.1 <;> decide
      rw [Route.divided_cons, List.length_cons, List.length_append, List.length_append]
      omega

theorem names_divided (further : List (Bool × List Char))
    (parts : ∀ name ∈ further, name.2 ≠ [] ∧ ∀ c ∈ name.2, isNamePart c = true) (rest : List Char)
    (apart : SetsApart rest) (fuel : Nat) (enough : further.length ≤ fuel) :
    names fuel (Route.divided further ++ rest) = (Route.divided further, rest) := by
  induction further generalizing fuel with
  | nil =>
      cases fuel with
      | zero => rfl
      | succ fuel =>
          rw [Route.divided, List.flatMap_nil, List.nil_append, names, divider?_eq_none rest apart]
  | cons name more ih =>
      obtain ⟨here, later⟩ := List.forall_mem_cons.mp parts
      obtain ⟨fuel, rfl⟩ : ∃ less, fuel = less + 1 := ⟨fuel - 1, by simp at enough; omega⟩
      have given : name.2.isEmpty = false := List.isEmpty_eq_false_iff.mpr here.1
      have ends := divided_ends more rest apart
      have others := ih later fuel (Nat.le_of_succ_le_succ enough)
      rw [Route.divided_cons, List.append_assoc, List.append_assoc, names, divider?_divider]
      simp only [takeWhile_run _ _ _ here.2 ends, dropWhile_run _ _ _ here.2 ends, given, others,
        Bool.false_eq_true, if_false, List.append_assoc]

theorem path?_chars (p : Route) (rest : List Char) (apart : SetsApart rest) :
    path? (p.chars ++ rest) = some (p.chars, rest) := by
  have ends := divided_ends p.further rest apart
  have enough : p.further.length ≤ (p.more ++ (Route.divided p.further ++ rest)).length := by
    have short := length_le_divided p.further
    rw [List.length_append, List.length_append]
    omega
  have further := names_divided p.further p.further_parts rest apart _ enough
  rw [Route.chars, List.cons_append, List.cons_append, List.append_assoc, path?,
    if_pos p.first_starts, takeWhile_run _ _ _ p.more_parts ends, dropWhile_run _ _ _ p.more_parts ends,
    further]
  rfl

/-! ### One token -/

/-- The characters with which tokens other than paths begin, digits apart. -/
def marks : List Char := operatorMarks ++ ['\'', '"', '-', '.']

theorem not_mem_marks_of_startsName (c : Char) (starts : startsName c = true) : c ∉ marks :=
  not_mem_of_all_not marks startsName (by decide) c starts

theorem isDecimalDigit_of_startsName (c : Char) (starts : startsName c = true) :
    isDecimalDigit c = false := by
  have none : ∀ n < 128, startsName (Char.ofNat n) = true → isDecimalDigit (Char.ofNat n) = false := by
    decide +kernel
  have ascii : c.toNat < 128 := by
    rw [startsName, Bool.or_eq_true, Bool.or_eq_true] at starts
    rcases starts with (letter | line) | dollar
    · simp only [isLatinLetter, Bool.or_eq_true, Bool.and_eq_true, decide_eq_true_eq] at letter
      omega
    · rw [beq_iff_eq.mp line]
      decide
    · rw [beq_iff_eq.mp dollar]
      decide
  have found := none c.toNat ascii
  rw [Char.ofNat_toNat] at found
  exact found starts

/-- No other kind of token begins like a name. -/
theorem others_eq_none_of_startsName (c : Char) (rest : List Char) (starts : startsName c = true) :
    operator? (c :: rest) = none ∧ text? (c :: rest) = none ∧ number? (c :: rest) = none := by
  have unmarked := not_mem_marks_of_startsName c starts
  simp only [marks, List.mem_append, not_or, List.mem_cons, List.not_mem_nil, not_false_eq_true,
    and_true] at unmarked
  obtain ⟨operator, single, double, minus, point⟩ := unmarked
  have closed : Figure.opens c = false := by
    rw [Figure.opens, isDecimalDigit_of_startsName c starts, Bool.false_or, beq_eq_false_iff_ne]
    exact point
  exact ⟨operator?_eq_none c rest operator, text?_eq_none c rest single double,
    number?_eq_none c rest minus closed⟩

/-- No operator and no quoted text begins like a number. -/
theorem others_eq_none_of_figure (n : Figure) (rest : List Char) :
    operator? (n.chars ++ rest) = none ∧ text? (n.chars ++ rest) = none := by
  obtain ⟨c, more, spelled, open_⟩ := n.unsigned_opens
  cases sign : n.negative with
  | true =>
      rw [Figure.chars, sign, if_pos rfl, List.cons_append]
      exact ⟨operator?_eq_none '-' _ (by decide), text?_eq_none '-' _ (by decide) (by decide)⟩
  | false =>
      rw [Figure.chars, sign, if_neg Bool.false_ne_true, spelled, List.cons_append]
      constructor
      · exact operator?_eq_none c _ (not_mem_of_all_not operatorMarks Figure.opens (by decide) c open_)
      · exact text?_eq_none c _ (Figure.ne_of_opens c '\'' rfl open_) (Figure.ne_of_opens c '"' rfl open_)

theorem operator?_quotedText (t : QuotedText) (rest : List Char) : operator? (t.chars ++ rest) = none := by
  apply operator?_eq_none
  rcases t.mark_quotes with mark | mark <;> rw [mark] <;> decide

/-- Set apart from what follows, a token is taken whole and as what it is. -/
theorem token?_lexeme (l : Lexeme) (rest : List Char) (apart : SetsApart rest) :
    token? (l.chars ++ rest) = some (l.token, rest) := by
  rw [token?, scanners, Lexeme.token, Lexeme.source]
  cases l with
  | operator o =>
      simp only [Lexeme.chars, List.findSome?, operator?_spelling o rest apart, Option.map_some, Lexeme.kind]
  | text t =>
      simp only [Lexeme.chars, List.findSome?, operator?_quotedText, text?_chars, Option.map_none,
        Option.map_some, Lexeme.kind]
  | number n =>
      obtain ⟨noOperator, noText⟩ := others_eq_none_of_figure n rest
      simp only [Lexeme.chars, List.findSome?, noOperator, noText, number?_chars n rest apart,
        Option.map_none, Option.map_some, Lexeme.kind]
  | path p =>
      have others : operator? (p.chars ++ rest) = none ∧ text? (p.chars ++ rest) = none ∧
          number? (p.chars ++ rest) = none :=
        others_eq_none_of_startsName p.first _ p.first_starts
      simp only [Lexeme.chars, List.findSome?, others, path?_chars p rest apart, Option.map_none,
        Option.map_some, Lexeme.kind]

/-! ### All tokens -/

/-- Blanks, and tokens with blanks before each of them. -/
def spaced (gaps : List (List Char × Lexeme)) (trailing : List Char) : List Char :=
  gaps.flatMap (fun gap => gap.1 ++ gap.2.chars) ++ trailing

theorem spaced_cons (gap : List Char × Lexeme) (rest : List (List Char × Lexeme)) (trailing : List Char) :
    spaced (gap :: rest) trailing = gap.1 ++ (gap.2.chars ++ spaced rest trailing) := by
  rw [spaced, List.flatMap_cons, List.append_assoc, List.append_assoc, spaced]

theorem exists_chars (l : Lexeme) : ∃ c rest, l.chars = c :: rest ∧ isBlank c = false := by
  cases l with
  | operator o =>
      cases o with
      | comparing relation => cases relation <;> exact ⟨_, _, rfl, rfl⟩
      | _ => exact ⟨_, _, rfl, rfl⟩
  | text t =>
      refine ⟨t.mark, _, rfl, ?_⟩
      rcases t.mark_quotes with mark | mark <;> rw [mark] <;> rfl
  | number n =>
      obtain ⟨c, more, spelled, open_⟩ := n.unsigned_opens
      rw [Lexeme.chars, Figure.chars, spelled]
      cases n.negative with
      | true => exact ⟨'-', c :: more, rfl, rfl⟩
      | false => exact ⟨c, more, rfl, Figure.isBlank_of_opens c open_⟩
  | path p =>
      refine ⟨p.first, _, rfl, ?_⟩
      rw [Bool.eq_false_iff]
      intro blank
      have part := isNamePart_of_startsName p.first p.first_starts
      rw [isNamePart_of_isBlank p.first blank] at part
      cases part

theorem length_chars_pos (l : Lexeme) : 0 < l.chars.length := by
  obtain ⟨c, rest, spelled, _⟩ := exists_chars l
  rw [spelled]
  exact Nat.succ_pos rest.length

theorem tokensFrom_blanks (blanks : List Char) (blank : ∀ c ∈ blanks, isBlank c = true) (rest : List Char)
    (position fuel : Nat) :
    tokensFrom position (blanks.length + fuel) (blanks ++ rest) =
      tokensFrom (position + blanks.length) fuel rest := by
  induction blanks generalizing position with
  | nil => rw [List.length_nil, Nat.zero_add, List.nil_append, Nat.add_zero]
  | cons c more ih =>
      obtain ⟨here, later⟩ := List.forall_mem_cons.mp blank
      rw [List.cons_append, List.length_cons, Nat.add_right_comm, tokensFrom, if_pos here, ih later]
      congr 1
      omega

theorem tokensFrom_lexeme (l : Lexeme) (rest : List Char) (apart : SetsApart rest) (position fuel : Nat) :
    tokensFrom position (fuel + 1) (l.chars ++ rest) =
      (tokensFrom (position + l.chars.length) fuel rest).map (l.token :: ·) := by
  obtain ⟨c, more, spelled, visible⟩ := exists_chars l
  have found := token?_lexeme l rest apart
  have length : l.token.source.length = l.chars.length := by
    rw [Lexeme.token, Lexeme.source, String.length_ofList]
  rw [spelled, List.cons_append] at found ⊢
  rw [tokensFrom, visible, if_neg Bool.false_ne_true, found, ← spelled]
  dsimp only
  rw [length]
  cases tokensFrom (position + l.chars.length) fuel rest <;> rfl

theorem spaced_setsApart (gaps : List (List Char × Lexeme)) (trailing : List Char)
    (blanks : ∀ gap ∈ gaps, ∀ c ∈ gap.1, isBlank c = true) (given : ∀ gap ∈ gaps, gap.1 ≠ [])
    (trailingBlanks : ∀ c ∈ trailing, isBlank c = true) : SetsApart (spaced gaps trailing) := by
  intro c first
  cases gaps with
  | nil => exact trailingBlanks c (List.mem_of_mem_head? first)
  | cons gap rest =>
      obtain ⟨chars, lexeme⟩ := gap
      rw [spaced_cons] at first
      cases chars with
      | nil => exact absurd rfl (given _ List.mem_cons_self)
      | cons blank more =>
          cases first
          exact blanks _ List.mem_cons_self c List.mem_cons_self

theorem tokensFrom_spaced (gaps : List (List Char × Lexeme)) (trailing : List Char)
    (blanks : ∀ gap ∈ gaps, ∀ c ∈ gap.1, isBlank c = true) (given : ∀ gap ∈ gaps.tail, gap.1 ≠ [])
    (trailingBlanks : ∀ c ∈ trailing, isBlank c = true) (position fuel : Nat)
    (enough : (spaced gaps trailing).length ≤ fuel) :
    tokensFrom position fuel (spaced gaps trailing) = .ok (gaps.map fun gap => gap.2.token) := by
  induction gaps generalizing position fuel with
  | nil =>
      rw [spaced, List.flatMap_nil, List.nil_append] at enough ⊢
      obtain ⟨fuel, rfl⟩ := Nat.exists_eq_add_of_le enough
      have skipped := tokensFrom_blanks trailing trailingBlanks [] position fuel
      rw [List.append_nil] at skipped
      rw [skipped]
      cases fuel <;> rfl
  | cons gap rest ih =>
      obtain ⟨here, later⟩ := List.forall_mem_cons.mp blanks
      have apart := spaced_setsApart rest trailing later given trailingBlanks
      have visible := length_chars_pos gap.2
      rw [spaced_cons, List.length_append, List.length_append] at enough
      obtain ⟨fuel, rfl⟩ : ∃ less, fuel = gap.1.length + (less + 1) := ⟨fuel - gap.1.length - 1, by omega⟩
      have others := ih later (fun gap member => given gap (List.mem_of_mem_tail member))
        (position + gap.1.length + gap.2.chars.length) fuel (by omega)
      rw [spaced_cons, tokensFrom_blanks gap.1 here, tokensFrom_lexeme gap.2 _ apart, others]
      rfl

/-- Tokens with blanks between them are found one after the other, whatever blanks stand around them. -/
theorem tokens_spaced (gaps : List (List Char × Lexeme)) (trailing : List Char)
    (blanks : ∀ gap ∈ gaps, ∀ c ∈ gap.1, isBlank c = true) (given : ∀ gap ∈ gaps.tail, gap.1 ≠ [])
    (trailingBlanks : ∀ c ∈ trailing, isBlank c = true) :
    tokens (String.ofList (spaced gaps trailing)) = .ok (gaps.map fun gap => gap.2.token) := by
  rw [tokens, String.toList_ofList]
  exact tokensFrom_spaced gaps trailing blanks given trailingBlanks 0 _ (Nat.le_refl _)

theorem intercalate_space (first : List Char) (others : List (List Char)) :
    [' '].intercalate (first :: others) = first ++ others.flatMap fun chars => ' ' :: chars := by
  induction others generalizing first with
  | nil => rw [List.intercalate_singleton, List.flatMap_nil, List.append_nil]
  | cons second more ih =>
      rw [List.intercalate_cons_cons, ih, List.flatMap_cons, List.append_assoc, List.singleton_append,
        List.cons_append]

/-- Tokens joined by single spaces are found again. -/
theorem tokens_join (lexemes : List Lexeme) :
    tokens (join " " (lexemes.map Lexeme.source)) = .ok (lexemes.map Lexeme.token) := by
  cases lexemes with
  | nil => rfl
  | cons first others =>
      have found := tokens_spaced (([], first) :: others.map fun l => ([' '], l)) []
        (by simp [show isBlank ' ' = true from rfl]) (by simp) (by simp)
      have text : join " " ((first :: others).map Lexeme.source) =
          String.ofList (spaced (([], first) :: others.map fun l => ([' '], l)) []) := by
        apply String.toList_injective
        rw [join, String.toList_intercalate, List.map_map, List.map_cons, String.toList_ofList, spaced_cons,
          spaced, List.append_nil, List.flatMap_map, List.nil_append]
        refine (intercalate_space _ _).trans ?_
        rw [List.flatMap_map]
        simp only [Function.comp_apply, Lexeme.source, String.toList_ofList, List.singleton_append]
      rw [text, found, List.map_cons, List.map_map, List.map_cons]
      rfl

end Condition

end ReportCompiler
