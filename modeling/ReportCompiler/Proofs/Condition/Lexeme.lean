import ReportCompiler.Condition.Parser
import ReportCompiler.Proofs.Number.Digits
import ReportCompiler.Proofs.Text.Trimming

/-!
Tokens of a condition as they are written, kind by kind. A form carries what makes it well formed, has one
spelling, and stands for a value; the values are those that the reader takes from the spellings.
-/

namespace ReportCompiler

open ReportCompiler.Text

namespace Condition

/-! ### Operators -/

inductive Operator where
  | either
  | both
  | negation
  | opening
  | closing
  | comparing (relation : Comparison)
deriving DecidableEq

namespace Operator

def spelling : Operator → String
  | either => "||"
  | both => "&&"
  | negation => "!"
  | opening => "("
  | closing => ")"
  | comparing relation => relation.spelling

def ofSpelling? (source : String) : Option Operator :=
  match Comparison.ofSpelling? source with
  | some relation => some (comparing relation)
  | none => [either, both, negation, opening, closing].find? fun operator => operator.spelling == source

theorem ofSpelling?_spelling (operator : Operator) : ofSpelling? operator.spelling = some operator := by
  cases operator with
  | comparing relation => cases relation <;> rfl
  | _ => rfl

theorem spelling_injective : Function.Injective spelling := by
  intro first second same
  have found := ofSpelling?_spelling first
  rw [same, ofSpelling?_spelling] at found
  exact (Option.some.inj found).symm

end Operator

/-! ### Quoted texts -/

/-- A character of a quoted text, as it is written. -/
inductive Letter where
  | plain (c : Char)
  | escaped (c : Char)

namespace Letter

def chars : Letter → List Char
  | plain c => [c]
  | escaped c => ['\\', c]

/-- The character meant. -/
def char : Letter → Char
  | plain c => c
  | escaped c => c

/-- Whether the letter may stand between two of these marks. -/
def Fits (mark : Char) : Letter → Prop
  | plain c => c ≠ mark ∧ c ≠ '\\'
  | escaped c => c ≠ '\n'

end Letter

structure QuotedText where
  mark : Char
  letters : List Letter
  mark_quotes : mark = '\'' ∨ mark = '"'
  letters_fit : ∀ letter ∈ letters, letter.Fits mark

namespace QuotedText

def chars (t : QuotedText) : List Char := t.mark :: t.letters.flatMap Letter.chars ++ [t.mark]

def value (t : QuotedText) : String := String.ofList (t.letters.map Letter.char)

end QuotedText

theorem unescape_plain (c : Char) (rest : List Char) (plain : c ≠ '\\') :
    unescape (c :: rest) = c :: unescape rest := by
  rw [unescape]
  intro other more same
  exact absurd same plain

theorem unescape_letters (mark : Char) (letters : List Letter)
    (fit : ∀ letter ∈ letters, letter.Fits mark) :
    unescape (letters.flatMap Letter.chars) = letters.map Letter.char := by
  induction letters with
  | nil => rfl
  | cons letter rest ih =>
      obtain ⟨here, later⟩ := List.forall_mem_cons.mp fit
      rw [List.flatMap_cons, List.map_cons, ← ih later]
      cases letter with
      | plain c => exact unescape_plain c _ here.2
      | escaped c => rfl

theorem textLiteral_chars (t : QuotedText) :
    textLiteral (String.ofList t.chars) = .text t.value := by
  rw [textLiteral, String.toList_ofList, QuotedText.chars, List.cons_append, List.drop_one,
    List.tail_cons, List.dropLast_concat, unescape_letters t.mark t.letters t.letters_fit]
  rfl

/-! ### Numbers -/

/-- A decimal number: digits, and a point with the digits after it where one is written. -/
structure Figure where
  negative : Bool
  whole : List Char
  fraction : Option (List Char)
  whole_digits : ∀ c ∈ whole, isDecimalDigit c = true
  fraction_digits : ∀ digits ∈ fraction, ∀ c ∈ digits, isDecimalDigit c = true
  some_digit : whole ++ fraction.getD [] ≠ []

namespace Figure

def pointed : Option (List Char) → List Char
  | none => []
  | some digits => '.' :: digits

def unsigned (n : Figure) : List Char := n.whole ++ pointed n.fraction

def chars (n : Figure) : List Char := if n.negative then '-' :: n.unsigned else n.unsigned

/-- The nearest double to what the digits spell. -/
def double (n : Figure) : Double :=
  Double.ofDecimal n.negative (digitsValue (n.whole ++ n.fraction.getD []))
    (-((n.fraction.getD []).length : Int))

/-- A whole number without a point is an integer. -/
def value (n : Figure) : Number :=
  match n.fraction, n.double.toInt? with
  | none, some i => .int i
  | _, _ => .double n.double

end Figure

namespace Figure

theorem isDecimalDigit_point : isDecimalDigit '.' = false := by decide

/-- Where the digits before the point end. -/
theorem pointed_ends (fraction : Option (List Char)) :
    ∀ c ∈ (pointed fraction).head?, isDecimalDigit c = false := by
  intro c first
  cases fraction with
  | none => cases first
  | some digits =>
      cases first
      exact isDecimalDigit_point

theorem takeDecimal?_unsigned (n : Figure) :
    Reader.takeDecimal? n.unsigned =
      some { whole := n.whole, fraction := n.fraction.getD [], exponent := 0,
             pointed := n.fraction.isSome, rest := [] } := by
  obtain ⟨negative, whole, fraction, whole_digits, fraction_digits, some_digit⟩ := n
  have first := Reader.takeDigits_run whole (pointed fraction) whole_digits (pointed_ends fraction)
  rw [Reader.takeDecimal?, Figure.unsigned, first]
  cases fraction with
  | none =>
      have digits : whole.isEmpty = false := by simpa using some_digit
      simp [pointed, digits, Reader.takeExponent]
  | some fraction =>
      have second := Reader.takeDigits_run fraction [] (fraction_digits fraction rfl) (fun c none => by cases none)
      rw [List.append_nil] at second
      have digits : (whole.isEmpty && fraction.isEmpty) = false := by
        rw [Bool.and_eq_false_iff]
        simpa [Classical.or_iff_not_imp_left] using some_digit
      simp [pointed, second, digits, Reader.takeExponent]

/-- How a number may begin, after its sign. -/
def opens (c : Char) : Bool := isDecimalDigit c || c == '.'

theorem unsigned_opens (n : Figure) : ∃ c rest, n.unsigned = c :: rest ∧ opens c = true := by
  obtain ⟨negative, whole, fraction, whole_digits, fraction_digits, some_digit⟩ := n
  cases whole with
  | cons c rest =>
      have digit := whole_digits c List.mem_cons_self
      exact ⟨c, rest ++ pointed fraction, rfl, by rw [opens, digit, Bool.true_or]⟩
  | nil =>
      cases fraction with
      | none => exact absurd rfl some_digit
      | some digits => exact ⟨'.', digits, rfl, rfl⟩

theorem ne_of_opens (c mark : Char) (closed : opens mark = false) (open_ : opens c = true) : c ≠ mark := by
  rintro rfl
  rw [open_] at closed
  cases closed

theorem isBlank_of_opens (c : Char) (open_ : opens c = true) : isBlank c = false := by
  rw [Bool.eq_false_iff]
  intro blank
  rw [opens, isDecimalDigit_of_isBlank c blank, Bool.false_or, beq_iff_eq] at open_
  rw [open_] at blank
  cases blank

theorem trimLeft_chars (n : Figure) : trimLeft n.chars = n.chars := by
  obtain ⟨c, rest, unsigned, open_⟩ := n.unsigned_opens
  cases sign : n.negative with
  | true =>
      rw [chars, sign, if_pos rfl]
      exact trimLeft_cons_of_not_blank rfl _
  | false =>
      rw [chars, sign, if_neg Bool.false_ne_true, unsigned]
      exact trimLeft_cons_of_not_blank (isBlank_of_opens c open_) rest

theorem takeSign_chars (n : Figure) : Reader.takeSign n.chars = (n.negative, n.unsigned) := by
  obtain ⟨c, rest, unsigned, open_⟩ := n.unsigned_opens
  have minus := ne_of_opens c '-' rfl open_
  have plus := ne_of_opens c '+' rfl open_
  cases sign : n.negative with
  | true => rw [chars, sign, if_pos rfl, Reader.takeSign]
  | false =>
      rw [chars, sign, if_neg Bool.false_ne_true, unsigned]
      simp [Reader.takeSign, minus, plus]

end Figure

theorem numberLiteral_chars (n : Figure) :
    numberLiteral (String.ofList n.chars) = .number n.value := by
  rw [numberLiteral, Number.ofLeading?, String.toList_ofList, n.trimLeft_chars, n.takeSign_chars]
  simp only [n.takeDecimal?_unsigned, Option.map_some]
  have double : Reader.Parts.toDouble
      { whole := n.whole, fraction := n.fraction.getD [], exponent := 0,
        pointed := n.fraction.isSome, rest := [] } n.negative = n.double := by
    rw [Reader.Parts.toDouble, Figure.double, Int.zero_sub]
  rw [double, Figure.value]
  cases n.fraction <;> cases n.double.toInt? <;> rfl

/-! ### Paths -/

/-- Names with points between them; true stands for a question mark before the point. -/
structure Route where
  first : Char
  more : List Char
  further : List (Bool × List Char)
  first_starts : startsName first = true
  more_parts : ∀ c ∈ more, isNamePart c = true
  further_parts : ∀ name ∈ further, name.2 ≠ [] ∧ ∀ c ∈ name.2, isNamePart c = true

namespace Route

def divider (optional : Bool) : List Char := if optional then ['?', '.'] else ['.']

/-- Further names, each with its divider before it. -/
def divided (further : List (Bool × List Char)) : List Char :=
  further.flatMap fun name => divider name.1 ++ name.2

theorem divided_cons (name : Bool × List Char) (further : List (Bool × List Char)) :
    divided (name :: further) = divider name.1 ++ (name.2 ++ divided further) := by
  rw [divided, List.flatMap_cons, List.append_assoc, divided]

def chars (p : Route) : List Char := p.first :: p.more ++ divided p.further

/-- The path meant, in which all points are plain. -/
def path (p : Route) : String :=
  String.ofList (p.first :: p.more ++ p.further.flatMap fun name => '.' :: name.2)

end Route

theorem isNamePart_of_startsName (c : Char) (starts : startsName c = true) : isNamePart c = true := by
  rw [startsName, Bool.or_eq_true, Bool.or_eq_true] at starts
  rcases starts with (letter | line) | dollar
  · have ascii : c.toNat < 128 := by
      simp only [isLatinLetter, Bool.or_eq_true, Bool.and_eq_true, decide_eq_true_eq] at letter
      omega
    rw [isNamePart, isWord, if_pos ascii, letter, Bool.true_or, Bool.true_or, Bool.true_or]
  · rw [beq_iff_eq.mp line]
    rfl
  · rw [isNamePart, dollar, Bool.or_true]

-- Question marks stand in front of points only, so leaving them out makes every point a plain one.
theorem filter_name (name : List Char) (parts : ∀ c ∈ name, isNamePart c = true) :
    name.filter (· != '?') = name := by
  have mark : isNamePart '?' = false := by decide
  apply List.filter_eq_self.mpr
  intro c member
  rw [bne_iff_ne]
  rintro rfl
  rw [parts _ member] at mark
  cases mark

theorem filter_divided (further : List (Bool × List Char))
    (parts : ∀ name ∈ further, name.2 ≠ [] ∧ ∀ c ∈ name.2, isNamePart c = true) :
    (Route.divided further).filter (· != '?') = further.flatMap fun name => '.' :: name.2 := by
  induction further with
  | nil => rfl
  | cons name rest ih =>
      obtain ⟨here, later⟩ := List.forall_mem_cons.mp parts
      have divider : (Route.divider name.1).filter (· != '?') = ['.'] := by
        cases name.1 <;> rfl
      rw [Route.divided_cons, List.flatMap_cons, List.filter_append, List.filter_append, divider,
        filter_name name.2 here.2, ih later]
      rfl

theorem filter_route (p : Route) : String.ofList (p.chars.filter (· != '?')) = p.path := by
  have first : ∀ c ∈ p.first :: p.more, isNamePart c = true :=
    List.forall_mem_cons.mpr ⟨isNamePart_of_startsName p.first p.first_starts, p.more_parts⟩
  rw [Route.chars, Route.path, List.filter_append, filter_name _ first,
    filter_divided p.further p.further_parts]

/-- The names that stand for values. -/
inductive Keyword : String → Value → Prop
  | yes : Keyword "true" (.bool true)
  | no : Keyword "false" (.bool false)
  | null : Keyword "null" .null
  | undefined : Keyword "undefined" .null

theorem lookup_keywords_iff (source : String) (value : Value) :
    keywords.lookup source = some value ↔ Keyword source value := by
  constructor
  · intro found
    obtain ⟨before, after, whole, _⟩ := List.lookup_eq_some_iff.mp found
    have listed : (source, value) ∈ keywords := by
      rw [whole]
      exact List.mem_append_right before List.mem_cons_self
    simp only [keywords, List.mem_cons, List.not_mem_nil, or_false, Prod.mk.injEq] at listed
    rcases listed with ⟨rfl, rfl⟩ | ⟨rfl, rfl⟩ | ⟨rfl, rfl⟩ | ⟨rfl, rfl⟩
    · exact .yes
    · exact .no
    · exact .null
    · exact .undefined
  · intro known
    cases known <;> rfl

theorem named_of_keyword (source : String) (value : Value) (known : Keyword source value) :
    named source = .literal value := by
  rw [named, (lookup_keywords_iff source value).mpr known]

theorem lookup_keywords_eq_none_iff (source : String) :
    keywords.lookup source = none ↔ ∀ value, ¬ Keyword source value := by
  rw [Option.eq_none_iff_forall_ne_some]
  exact forall_congr' fun value => not_congr (lookup_keywords_iff source value)

theorem named_chars (p : Route) (free : ∀ value, ¬ Keyword (String.ofList p.chars) value) :
    named (String.ofList p.chars) = .path p.path := by
  rw [named, (lookup_keywords_eq_none_iff _).mpr free, String.toList_ofList, filter_route p]

/-! ### Tokens -/

/-- A token in its written form; the tokens of every text are such. -/
inductive Lexeme where
  | operator (operator : Operator)
  | text (text : QuotedText)
  | number (number : Figure)
  | path (path : Route)

namespace Lexeme

def kind : Lexeme → TokenKind
  | operator _ => .operator
  | text _ => .text
  | number _ => .number
  | path _ => .path

def chars : Lexeme → List Char
  | operator o => o.spelling.toList
  | text t => t.chars
  | number n => n.chars
  | path p => p.chars

def source (l : Lexeme) : String := String.ofList l.chars

def token (l : Lexeme) : Token := { kind := l.kind, source := l.source }

theorem source_operator (o : Operator) : (operator o).source = o.spelling := String.ofList_toList

end Lexeme

end Condition

end ReportCompiler
