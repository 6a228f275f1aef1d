import Mathlib.Data.List.Find
import ReportCompiler.Proofs.Condition.Accepted

/-!
Texts scanned one after the other. No token goes on over a blank or a closing parenthesis, so before one of
them a text keeps its tokens, whatever comes after it.
-/

namespace ReportCompiler

open ReportCompiler.Text

namespace Condition

/-- No token goes on into this text: it begins with a blank or a closing parenthesis, or is empty. -/
def Divides (rest : List Char) : Prop := ∀ c ∈ rest.head?, isBlank c = true ∨ c = ')'

theorem Divides.stops {rest : List Char} (divides : Divides rest) (isPart : Char → Bool)
    (never : ∀ c, isBlank c = true → isPart c = false) (closing : isPart ')' = false) :
    ∀ c ∈ rest.head?, isPart c = false := by
  intro c first
  rcases divides c first with blank | rfl
  · exact never c blank
  · exact closing

theorem Divides.ne {rest : List Char} (divides : Divides rest) (mark : Char) (shown : isBlank mark = false)
    (other : mark ≠ ')') : rest.head? ≠ some mark := by
  intro first
  rcases divides mark first with blank | closing
  · rw [blank] at shown
    cases shown
  · exact other closing

theorem divides_of_blank {rest : List Char} (blanks : ∀ c ∈ rest, isBlank c = true) : Divides rest :=
  fun c first => .inl (blanks c (List.mem_of_mem_head? first))

/-- What was found at the front of a text, now that `rest` stands behind it. -/
def lengthen {α : Type} (rest : List Char) : α × List Char → α × List Char := Prod.map id (· ++ rest)

/-! ### Runs of characters -/

section Runs

variable (isPart : Char → Bool) (chars rest : List Char) (ends : ∀ c ∈ rest.head?, isPart c = false)

include ends

theorem takeWhile_append_of_ends : (chars ++ rest).takeWhile isPart = chars.takeWhile isPart := by
  induction chars with
  | nil => exact takeWhile_run isPart [] rest (List.forall_mem_nil _) ends
  | cons c more ih => rw [List.cons_append, List.takeWhile_cons, List.takeWhile_cons, ih]

theorem dropWhile_append_of_ends : (chars ++ rest).dropWhile isPart = chars.dropWhile isPart ++ rest := by
  induction chars with
  | nil => exact dropWhile_run isPart [] rest (List.forall_mem_nil _) ends
  | cons c more ih =>
      rw [List.cons_append, List.dropWhile_cons, List.dropWhile_cons, ih]
      split <;> rfl

end Runs

/-! ### Operators -/

theorem isPrefixOf_append (operator chars rest : List Char) (stops : ∀ c ∈ rest.head?, c ∉ operator) :
    operator.isPrefixOf (chars ++ rest) = operator.isPrefixOf chars := by
  induction operator generalizing chars with
  | nil => rw [List.isPrefixOf_nil_left, List.isPrefixOf_nil_left]
  | cons mark more ih =>
      cases chars with
      | cons c others =>
          have later := ih others fun c first listed => stops c first (List.mem_cons_of_mem mark listed)
          rw [List.cons_append, List.isPrefixOf, List.isPrefixOf, later]
      | nil =>
          cases rest with
          | nil => rfl
          | cons c others =>
              have other : mark ≠ c := fun same => stops c rfl (same ▸ List.mem_cons_self)
              show (mark == c && more.isPrefixOf others) = false
              rw [beq_false_of_ne other, Bool.false_and]

theorem operator?_append (c : Char) (more rest : List Char) (divides : Divides rest) :
    operator? (c :: more ++ rest) = (operator? (c :: more)).map (lengthen rest) := by
  have tails : ∀ operator ∈ operators,
      (operator.toList.tail.all fun mark => !isBlank mark && mark != ')') = true := by
    decide
  have same : ∀ operator ∈ operators,
      operator.toList.isPrefixOf (c :: more ++ rest) = operator.toList.isPrefixOf (c :: more) := by
    intro operator listed
    have tail := List.all_eq_true.mp (tails operator listed)
    cases spelled : operator.toList with
    | nil => rfl
    | cons mark others =>
        rw [spelled, List.tail_cons] at tail
        have stops : ∀ d ∈ rest.head?, d ∉ others := by
          intro d first member
          obtain ⟨shown, other⟩ := Bool.and_eq_true_iff.mp (tail d member)
          exact divides.ne d (Bool.not_eq_true' _ ▸ shown) (bne_iff_ne.mp other) first
        rw [List.cons_append, List.isPrefixOf, List.isPrefixOf, isPrefixOf_append others more rest stops]
  rw [operator?, operator?, List.find?_congr same]
  cases found : operators.find? fun operator => operator.toList.isPrefixOf (c :: more) with
  | none => rfl
  | some operator =>
      have starts : operator.toList.isPrefixOf (c :: more) = true := by
        simpa using List.find?_some found
      obtain ⟨after, whole⟩ := List.isPrefixOf_iff_prefix.mp starts
      rw [Option.map_some, Option.map_some, Option.map_some, ← whole, List.append_assoc, List.drop_left,
        List.drop_left]
      rfl

/-! ### Quoted texts -/

theorem text?_append (chars rest source after : List Char) (found : text? chars = some (source, after)) :
    text? (chars ++ rest) = some (source, after ++ rest) := by
  obtain ⟨rfl, t, rfl⟩ := text?_sound chars source after found
  rw [List.append_assoc, text?_chars]

theorem quoted?_blanks (mark : Char) (shown : isBlank mark = false) (blanks : List Char)
    (blank : ∀ c ∈ blanks, isBlank c = true) : quoted? mark blanks = none := by
  induction blanks with
  | nil => rfl
  | cons c more ih =>
      obtain ⟨here, later⟩ := List.forall_mem_cons.mp blank
      have other : c ≠ mark := by
        rintro rfl
        rw [here] at shown
        cases shown
      have plain : c ≠ '\\' := by
        rintro rfl
        cases here
      rw [quoted?_plain mark c more other plain, ih later]
      rfl

theorem quoted?_append_blanks (mark : Char) (shown : isBlank mark = false) (quotes : mark ≠ '\\')
    (chars blanks : List Char) (blank : ∀ c ∈ blanks, isBlank c = true) :
    quoted? mark (chars ++ blanks) = (quoted? mark chars).map (lengthen blanks) := by
  induction chars using quoted?.induct mark with
  | case1 => exact quoted?_blanks mark shown blanks blank
  | case2 c rest lineEnd =>
      rw [List.cons_append, List.cons_append, quoted?, quoted?, if_pos lineEnd, if_pos lineEnd]
      rfl
  | case3 c rest inLine ih =>
      have inLine : c ≠ '\n' := by simpa using inLine
      rw [List.cons_append, List.cons_append, quoted?_escaped _ _ _ inLine, quoted?_escaped _ _ _ inLine, ih]
      cases quoted? mark rest <;> rfl
  | case4 c rest single closes =>
      obtain rfl := beq_iff_eq.mp closes
      rw [List.cons_append, quoted?_close _ _ quotes, quoted?_close _ _ quotes]
      rfl
  | case5 c rest single other backslash =>
      obtain rfl := beq_iff_eq.mp backslash
      cases rest with
      | cons d more => exact absurd rfl (single d more rfl)
      | nil =>
          rw [quoted?.eq_3 _ _ _ single, if_neg other, if_pos backslash]
          cases blanks with
          | nil => rw [List.append_nil, quoted?.eq_3 _ _ _ single, if_neg other, if_pos backslash]; rfl
          | cons d more =>
              have later := quoted?_blanks mark shown more fun c member => blank c (List.mem_cons_of_mem d member)
              rw [List.cons_append, List.nil_append, quoted?, later]
              split <;> rfl
  | case6 c rest single other plain ih =>
      have other : c ≠ mark := by simpa using other
      have plain : c ≠ '\\' := by simpa using plain
      rw [List.cons_append, quoted?_plain _ _ _ other plain, quoted?_plain _ _ _ other plain, ih]
      cases quoted? mark rest <;> rfl

theorem text?_append_blanks (chars blanks : List Char) (given : chars ≠ [])
    (blank : ∀ c ∈ blanks, isBlank c = true) :
    text? (chars ++ blanks) = (text? chars).map (lengthen blanks) := by
  cases chars with
  | nil => exact absurd rfl given
  | cons c more =>
      rw [List.cons_append, text?, text?]
      split
      · next mark =>
          have quotes : c = '\'' ∨ c = '"' := by simpa using mark
          have inside : quoted? c (more ++ blanks) = (quoted? c more).map (lengthen blanks) := by
            rcases quotes with rfl | rfl
            · exact quoted?_append_blanks _ rfl (by decide) more blanks blank
            · exact quoted?_append_blanks _ rfl (by decide) more blanks blank
          rw [inside]
          cases quoted? c more <;> rfl
      · rfl

/-! ### Numbers -/

theorem unsigned?_of_point (chars rest : List Char) (point : chars.dropWhile isDecimalDigit = '.' :: rest) :
    unsigned? chars =
      if (chars.takeWhile isDecimalDigit).isEmpty && (rest.takeWhile isDecimalDigit).isEmpty then none
      else some (chars.takeWhile isDecimalDigit ++ '.' :: rest.takeWhile isDecimalDigit,
        rest.dropWhile isDecimalDigit) := by
  rw [unsigned?, point]
  rfl

theorem unsigned?_of_no_point (chars : List Char) (other : (chars.dropWhile isDecimalDigit).head? ≠ some '.') :
    unsigned? chars =
      if (chars.takeWhile isDecimalDigit).isEmpty then none
      else some (chars.takeWhile isDecimalDigit, chars.dropWhile isDecimalDigit) := by
  rw [unsigned?]
  split
  · next rest point =>
      rw [point] at other
      exact absurd rfl other
  · rfl

theorem unsigned?_append (chars rest : List Char) (divides : Divides rest) :
    unsigned? (chars ++ rest) = (unsigned? chars).map (lengthen rest) := by
  have ends := divides.stops isDecimalDigit isDecimalDigit_of_isBlank (by decide)
  have taken := takeWhile_append_of_ends isDecimalDigit chars rest ends
  have dropped := dropWhile_append_of_ends isDecimalDigit chars rest ends
  by_cases first : (chars.dropWhile isDecimalDigit).head? = some '.'
  · obtain ⟨more, point⟩ := List.head?_eq_some_iff.mp first
    have longer : (chars ++ rest).dropWhile isDecimalDigit = '.' :: (more ++ rest) := by
      rw [dropped, point, List.cons_append]
    rw [unsigned?_of_point _ _ longer, unsigned?_of_point _ _ point, taken,
      takeWhile_append_of_ends _ _ _ ends, dropWhile_append_of_ends _ _ _ ends]
    split <;> rfl
  · have other : ((chars ++ rest).dropWhile isDecimalDigit).head? ≠ some '.' := by
      rw [dropped]
      cases remaining : chars.dropWhile isDecimalDigit with
      | nil => exact divides.ne '.' rfl (by decide)
      | cons c more =>
          rw [remaining] at first
          exact first
    rw [unsigned?_of_no_point _ other, unsigned?_of_no_point _ first, taken, dropped]
    split <;> rfl

theorem number?_append (c : Char) (more rest : List Char) (divides : Divides rest) :
    number? (c :: more ++ rest) = (number? (c :: more)).map (lengthen rest) := by
  by_cases sign : c = '-'
  · subst sign
    rw [List.cons_append, number?, number?, unsigned?_append more rest divides]
    cases unsigned? more <;> rfl
  · rw [List.cons_append, number?_unsigned c _ sign, number?_unsigned c _ sign, ← List.cons_append,
      unsigned?_append (c :: more) rest divides]

/-! ### Paths -/

theorem divider?_append (chars rest : List Char) (divides : Divides rest) :
    divider? (chars ++ rest) = (divider? chars).map (lengthen rest) := by
  have noPoint := divides.ne '.' rfl (by decide)
  have noMark := divides.ne '?' rfl (by decide)
  rw [divider?.eq_def chars]
  split
  · rfl
  · rfl
  · next unpointed unmarked =>
      rw [Option.map_none, divider?]
      · intro more same
        cases chars with
        | nil => exact noPoint (by rw [show rest = _ from same]; rfl)
        | cons c others =>
            cases same
            exact unpointed others rfl
      · intro more same
        cases chars with
        | nil => exact noMark (by rw [show rest = _ from same]; rfl)
        | cons c others =>
            cases others with
            | nil =>
                obtain ⟨rfl, after⟩ := List.cons.inj same
                exact noPoint (by rw [show rest = _ from after]; rfl)
            | cons d others =>
                cases same
                exact unmarked others rfl

theorem names_of_undivided (fuel : Nat) (chars : List Char) (undivided : divider? chars = none) :
    names fuel chars = ([], chars) := by
  cases fuel with
  | zero => rfl
  | succ fuel => rw [names, undivided]

theorem names_of_divider (fuel : Nat) (chars mark rest : List Char) (divided : divider? chars = some (mark, rest)) :
    names (fuel + 1) chars =
      if (rest.takeWhile isNamePart).isEmpty then ([], chars)
      else (mark ++ rest.takeWhile isNamePart ++ (names fuel (rest.dropWhile isNamePart)).1,
        (names fuel (rest.dropWhile isNamePart)).2) := by
  rw [names, divided]

-- The fuels may differ: each outlasts the text that its own call scans.
theorem names_append (chars rest : List Char) (divides : Divides rest) (fuel more : Nat)
    (enough : chars.length ≤ fuel) (less : fuel ≤ more) :
    names more (chars ++ rest) = lengthen rest (names fuel chars) := by
  have ends := divides.stops isNamePart isNamePart_of_isBlank (by decide)
  induction fuel generalizing chars more with
  | zero =>
      obtain rfl := List.eq_nil_of_length_eq_zero (Nat.le_zero.mp enough)
      rw [List.nil_append, names_of_undivided more rest (divider?_append [] rest divides)]
      rfl
  | succ fuel ih =>
      obtain ⟨more, rfl⟩ : ∃ others, more = others + 1 := ⟨more - 1, by omega⟩
      have longer := divider?_append chars rest divides
      cases divided : divider? chars with
      | none =>
          rw [divided] at longer
          rw [names_of_undivided _ _ longer, names_of_undivided _ _ divided]
          rfl
      | some found =>
          obtain ⟨mark, after⟩ := found
          obtain ⟨whole, optional, spelled⟩ := divider?_sound chars mark after divided
          have shorter : (after.dropWhile isNamePart).length ≤ fuel := by
            have part := (List.dropWhile_suffix (l := after) isNamePart).length_le
            have divider : 1 ≤ mark.length := by
              rw [← spelled]
              cases optional <;> decide
            rw [whole, List.length_append] at enough
            omega
          have others := ih (after.dropWhile isNamePart) more shorter (Nat.le_of_succ_le_succ less)
          rw [divided] at longer
          rw [names_of_divider _ _ _ _ longer, names_of_divider _ _ _ _ divided,
            takeWhile_append_of_ends _ _ _ ends, dropWhile_append_of_ends _ _ _ ends, others]
          split <;> rfl

theorem path?_append (c : Char) (more rest : List Char) (divides : Divides rest) :
    path? (c :: more ++ rest) = (path? (c :: more)).map (lengthen rest) := by
  have ends := divides.stops isNamePart isNamePart_of_isBlank (by decide)
  have part := (List.dropWhile_suffix (l := more) isNamePart).length_le
  have longer : more.length ≤ (more ++ rest).length := by
    rw [List.length_append]
    exact Nat.le_add_right _ _
  have further := names_append (more.dropWhile isNamePart) rest divides _ _ part longer
  rw [List.cons_append, path?, path?, takeWhile_append_of_ends _ _ _ ends, dropWhile_append_of_ends _ _ _ ends,
    further]
  split <;> rfl

/-! ### One token -/

theorem findSome?_eq_map {α β : Type} (xs : List α) (f g : α → Option β) (h : β → β)
    (each : ∀ x ∈ xs, f x = (g x).map h) : xs.findSome? f = (xs.findSome? g).map h := by
  induction xs with
  | nil => rfl
  | cons x more ih =>
      obtain ⟨here, later⟩ := List.forall_mem_cons.mp each
      rw [List.findSome?_cons, List.findSome?_cons, here, ih later]
      cases g x <;> rfl

-- Of the four scanners only that of quoted texts may pass over the place where `rest` begins.
theorem token?_append_of_text (c : Char) (more rest : List Char) (divides : Divides rest)
    (text : text? (c :: more ++ rest) = (text? (c :: more)).map (lengthen rest)) :
    token? (c :: more ++ rest) = (token? (c :: more)).map (lengthen rest) := by
  have each : ∀ scanner ∈ scanners,
      scanner.2 (c :: more ++ rest) = (scanner.2 (c :: more)).map (lengthen rest) := by
    simp only [scanners, List.forall_mem_cons]
    exact ⟨operator?_append c more rest divides, text, number?_append c more rest divides,
      path?_append c more rest divides, List.forall_mem_nil _⟩
  apply findSome?_eq_map
  intro scanner listed
  simp only [each scanner listed]
  cases scanner.2 (c :: more) <;> rfl

theorem token?_quote (mark : Char) (rest : List Char) (quotes : mark = '\'' ∨ mark = '"')
    (unclosed : text? (mark :: rest) = none) : token? (mark :: rest) = none := by
  have others : mark ∉ operatorMarks ∧ mark ≠ '-' ∧ Figure.opens mark = false ∧ startsName mark = false := by
    rcases quotes with rfl | rfl <;> decide
  obtain ⟨noMark, noSign, noFigure, noName⟩ := others
  have noPath : path? (mark :: rest) = none := by rw [path?, noName, if_neg Bool.false_ne_true]
  simp only [token?, scanners, List.findSome?, operator?_eq_none mark rest noMark, unclosed,
    number?_eq_none mark rest noSign noFigure, noPath, Option.map_none]

/-- A token stays what it is before a text into which none goes on. -/
theorem token?_append (chars rest : List Char) (t : Token) (after : List Char) (divides : Divides rest)
    (taken : token? chars = some (t, after)) : token? (chars ++ rest) = some (t, after ++ rest) := by
  cases chars with
  | nil => cases taken
  | cons c more =>
      have text : text? (c :: more ++ rest) = (text? (c :: more)).map (lengthen rest) := by
        cases found : text? (c :: more) with
        | some pair => exact text?_append _ rest pair.1 pair.2 found
        | none =>
            by_cases quotes : c = '\'' ∨ c = '"'
            · rw [token?_quote c more quotes found] at taken
              cases taken
            · obtain ⟨single, double⟩ := not_or.mp quotes
              exact text?_eq_none c (more ++ rest) single double
      rw [token?_append_of_text c more rest divides text, taken]
      rfl

/-- Blanks at the end of a text change no token. -/
theorem token?_append_blanks (chars blanks : List Char) (given : chars ≠ [])
    (blank : ∀ c ∈ blanks, isBlank c = true) :
    token? (chars ++ blanks) = (token? chars).map (lengthen blanks) := by
  have text := text?_append_blanks chars blanks given blank
  cases chars with
  | nil => exact absurd rfl given
  | cons c more => exact token?_append_of_text c more blanks (divides_of_blank blank) text

/-! ### All tokens -/

/-- The tokens of a text, without the fuel and the positions of the scanner. -/
inductive Scans : List Char → List Token → Prop
  | done : Scans [] []
  | blank {c : Char} {rest : List Char} {found : List Token} (blank : isBlank c = true)
      (later : Scans rest found) : Scans (c :: rest) found
  | token {chars after : List Char} {t : Token} {found : List Token}
      (taken : token? chars = some (t, after)) (later : Scans after found) : Scans chars (t :: found)

-- What is taken as a token begins with a character that is no blank, and is at least one character long.
theorem exists_of_token? (chars : List Char) (t : Token) (after : List Char)
    (taken : token? chars = some (t, after)) :
    ∃ c rest, chars = c :: rest ∧ isBlank c = false ∧ after.length ≤ rest.length := by
  obtain ⟨l, _, whole⟩ := token?_sound chars t after taken
  obtain ⟨c, more, spelled, visible⟩ := exists_chars l
  refine ⟨c, more ++ after, ?_, visible, ?_⟩
  · rw [whole, spelled, List.cons_append]
  · rw [List.length_append]
    exact Nat.le_add_left _ _

theorem tokensFrom_eq_ok_iff (position fuel : Nat) (chars : List Char) (found : List Token)
    (enough : chars.length ≤ fuel) : tokensFrom position fuel chars = .ok found ↔ Scans chars found := by
  constructor
  · intro scanned
    induction fuel generalizing position chars found with
    | zero =>
        obtain rfl := List.eq_nil_of_length_eq_zero (Nat.le_zero.mp enough)
        cases scanned
        exact .done
    | succ fuel ih =>
        cases chars with
        | nil =>
            cases scanned
            exact .done
        | cons c rest =>
            rw [tokensFrom] at scanned
            split at scanned
            · next blank => exact .blank blank (ih _ rest found (Nat.le_of_succ_le_succ enough) scanned)
            · split at scanned
              · next t after taken =>
                  obtain ⟨others, read, same⟩ := (Attempt.bind_eq_ok_iff _ _ _).mp scanned
                  cases same
                  obtain ⟨_, _, same, _, shorter⟩ := exists_of_token? _ t after taken
                  cases same
                  have left := Nat.le_of_succ_le_succ enough
                  exact .token taken (ih _ after others (shorter.trans left) read)
              · cases scanned
  · intro scans
    induction scans generalizing position fuel with
    | done => cases fuel <;> rfl
    | @blank c rest found blank later ih =>
        obtain ⟨fuel, rfl⟩ : ∃ less, fuel = less + 1 := ⟨fuel - 1, by simp at enough; omega⟩
        rw [tokensFrom, if_pos blank]
        exact ih _ fuel (Nat.le_of_succ_le_succ enough)
    | @token chars after t found taken later ih =>
        obtain ⟨c, rest, rfl, visible, shorter⟩ := exists_of_token? chars t after taken
        obtain ⟨fuel, rfl⟩ : ∃ less, fuel = less + 1 := ⟨fuel - 1, by simp at enough; omega⟩
        have left := Nat.le_of_succ_le_succ enough
        rw [tokensFrom, visible, if_neg Bool.false_ne_true, taken]
        dsimp only
        rw [ih _ fuel (shorter.trans left)]
        rfl

theorem tokens_eq_ok_iff (text : String) (found : List Token) :
    tokens text = .ok found ↔ Scans text.toList found :=
  tokensFrom_eq_ok_iff 0 _ text.toList found (Nat.le_refl _)

/-- The tokens of two texts, one after the other. -/
theorem Scans.append {chars rest : List Char} {found more : List Token} (first : Scans chars found)
    (divides : Divides rest) (second : Scans rest more) : Scans (chars ++ rest) (found ++ more) := by
  induction first with
  | done => exact second
  | blank blank _ ih => exact .blank blank ih
  | token taken _ ih => exact .token (token?_append _ rest _ _ divides taken) ih

theorem Scans.leadingTrimmed {chars : List Char} {found : List Token} (scans : Scans chars found) :
    Scans (trimLeft chars) found := by
  induction scans with
  | done => exact .done
  | @blank c rest found blank later ih => rwa [trimLeft_cons_blank blank]
  | @token chars after t found taken later ih =>
      obtain ⟨c, rest, rfl, visible, _⟩ := exists_of_token? chars t after taken
      rw [trimLeft_cons_of_not_blank visible]
      exact .token taken later

theorem Scans.of_append_blanks {chars : List Char} {found : List Token} (scans : Scans chars found)
    (body blanks : List Char) (whole : chars = body ++ blanks) (blank : ∀ c ∈ blanks, isBlank c = true) :
    Scans body found := by
  induction scans generalizing body blanks with
  | done =>
      obtain ⟨rfl, _⟩ := List.append_eq_nil_iff.mp whole.symm
      exact .done
  | @blank c rest found here later ih =>
      cases body with
      | nil =>
          cases blanks with
          | nil => cases whole
          | cons d more =>
              cases whole
              exact ih [] rest rfl fun c member => blank c (List.mem_cons_of_mem _ member)
      | cons d more =>
          cases whole
          exact .blank here (ih more blanks rfl blank)
  | @token chars after t found taken later ih =>
      obtain ⟨c, rest, first, visible, _⟩ := exists_of_token? chars t after taken
      have given : body ≠ [] := by
        rintro rfl
        rw [List.nil_append, first] at whole
        rw [blank c (whole ▸ List.mem_cons_self)] at visible
        cases visible
      rw [whole, token?_append_blanks body blanks given blank] at taken
      obtain ⟨⟨t', after'⟩, taken', same⟩ := Option.map_eq_some_iff.mp taken
      cases same
      exact .token taken' (ih after' blanks rfl blank)

theorem exists_trimRight (chars : List Char) :
    ∃ blanks, chars = trimRight chars ++ blanks ∧ ∀ c ∈ blanks, isBlank c = true := by
  have whole : chars.reverse.takeWhile isBlank ++ chars.reverse.dropWhile isBlank = chars.reverse :=
    List.takeWhile_append_dropWhile
  refine ⟨(chars.reverse.takeWhile isBlank).reverse, ?_, ?_⟩
  · rw [trimRight, trimLeft, ← List.reverse_append, whole, List.reverse_reverse]
  · intro c member
    exact List.mem_takeWhile_imp (List.mem_reverse.mp member)

theorem Scans.trimmed {chars : List Char} {found : List Token} (scans : Scans chars found) :
    Scans (trimChars chars) found := by
  obtain ⟨blanks, whole, blank⟩ := exists_trimRight (trimLeft chars)
  exact scans.leadingTrimmed.of_append_blanks _ blanks whole blank

end Condition

end ReportCompiler
