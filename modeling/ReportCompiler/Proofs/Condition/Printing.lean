import ReportCompiler.Proofs.Condition.Grammar
import ReportCompiler.Proofs.Condition.Scanning
import ReportCompiler.Proofs.Number.Numeral
import ReportCompiler.Proofs.Number.Shortest

/-!
Conditions written out and read again. Every compound condition is printed in parentheses with a space
between any two tokens; the printed text is scanned into tokens from which the grammar derives the same tree.
-/

namespace ReportCompiler

open ReportCompiler.Text

namespace Condition

/-! ### Printing -/

/-- A character between single quotes. -/
def quotedChar (c : Char) : List Char := if c = '\'' ∨ c = '\\' then ['\\', c] else [c]

/-- A literal as one word; those that are not texts are written as in JSON. -/
def literalWord : Value → String
  | .text s => String.ofList ('\'' :: s.toList.flatMap quotedChar ++ ['\''])
  | value => value.json .embedded

mutual

/-- The tokens of a condition, with parentheses around everything that has parts. -/
def words : Condition → List String
  | literal value => [literalWord value]
  | path p => [p]
  | negation operand => "(" :: "!" :: (words operand ++ [")"])
  | comparison relation left right => "(" :: (words left ++ relation.spelling :: (words right ++ [")"]))
  | all operands => "(" :: (chainWords "&&" operands ++ [")"])
  | any operands => "(" :: (chainWords "||" operands ++ [")"])

def chainWords (operator : String) : List Condition → List String
  | [] => []
  | first :: others => words first ++ furtherWords operator others

def furtherWords (operator : String) : List Condition → List String
  | [] => []
  | operand :: others => operator :: (words operand ++ furtherWords operator others)

end

def print (condition : Condition) : String := join " " (words condition)

/-- The conditions that have a text: literals are texts, integers that are exact as doubles, truth values
and null, and chains have several operands. -/
inductive Printable : Condition → Prop
  | text (s : String) : Printable (.literal (.text s))
  | whole (n : Int) (small : n.natAbs ≤ 2 ^ 53) : Printable (.literal (.number (.int n)))
  | bool (b : Bool) : Printable (.literal (.bool b))
  | null : Printable (.literal .null)
  | path (p : Route) (plain : '?' ∉ p.chars) (free : ∀ value, ¬ Keyword (String.ofList p.chars) value) :
      Printable (.path (String.ofList p.chars))
  | negation (operand : Condition) (part : Printable operand) : Printable (.negation operand)
  | comparison (relation : Comparison) (left right : Condition) (first : Printable left)
      (second : Printable right) : Printable (.comparison relation left right)
  | all (operands : List Condition) (several : 2 ≤ operands.length)
      (each : ∀ operand ∈ operands, Printable operand) : Printable (.all operands)
  | any (operands : List Condition) (several : 2 ≤ operands.length)
      (each : ∀ operand ∈ operands, Printable operand) : Printable (.any operands)

/-! ### Words that are tokens -/

/-- A character of a text between single quotes, escaped where it must be. -/
def Letter.ofChar (c : Char) : Letter := if c = '\'' ∨ c = '\\' then .escaped c else .plain c

theorem Letter.ofChar_fits (c : Char) : (Letter.ofChar c).Fits '\'' := by
  rw [Letter.ofChar]
  split
  · next special =>
      show c ≠ '\n'
      rcases special with rfl | rfl <;> decide
  · next plain => exact not_or.mp plain

theorem Letter.chars_ofChar (c : Char) : (Letter.ofChar c).chars = quotedChar c := by
  rw [Letter.ofChar, quotedChar]
  split <;> rfl

theorem Letter.char_ofChar (c : Char) : (Letter.ofChar c).char = c := by
  rw [Letter.ofChar]
  split <;> rfl

def QuotedText.ofString (s : String) : QuotedText where
  mark := '\''
  letters := s.toList.map Letter.ofChar
  mark_quotes := .inl rfl
  letters_fit := List.forall_mem_map.mpr fun c _ => Letter.ofChar_fits c

theorem QuotedText.chars_ofString (s : String) :
    (QuotedText.ofString s).chars = '\'' :: s.toList.flatMap quotedChar ++ ['\''] := by
  rw [QuotedText.chars, QuotedText.ofString, List.flatMap_map]
  simp only [Letter.chars_ofChar]

theorem QuotedText.value_ofString (s : String) : (QuotedText.ofString s).value = s := by
  have letters : Letter.char ∘ Letter.ofChar = id := funext Letter.char_ofChar
  rw [QuotedText.value, QuotedText.ofString, List.map_map, letters, List.map_id, String.ofList_toList]

def Figure.ofInt (n : Int) : Figure where
  negative := n < 0
  whole := Nat.toDigits 10 n.natAbs
  fraction := none
  whole_digits := by
    intro c member
    rw [isDecimalDigit, digitValue?_of_isDigit c (areDigits_toDigits n.natAbs c member)]
    rfl
  fraction_digits := fun _ none => by cases none
  some_digit := by
    rw [Option.getD_none, List.append_nil]
    exact Nat.toDigits_ne_nil

theorem Figure.chars_ofInt (n : Int) : (Figure.ofInt n).chars = (toString n).toList :=
  Numeral.chars_ofInt n

theorem Figure.value_ofInt (n : Int) (small : n.natAbs ≤ 2 ^ 53) : (Figure.ofInt n).value = .int n := by
  have double : (Figure.ofInt n).double = Double.ofDecimal (n < 0) n.natAbs 0 := by
    have digits := digitsValue_toDigits n.natAbs
    rw [Figure.double, Figure.ofInt, Option.getD_none, List.append_nil, digits]
    rfl
  have signed : (if decide (n < 0) then -(n.natAbs : Int) else n.natAbs) = n := by
    simp only [decide_eq_true_eq]
    split <;> omega
  rw [Figure.value, double, Double.toInt?_ofDecimal _ _ small, signed]
  rfl

/-- A path of a single name. -/
def Route.name (first : Char) (more : List Char) (starts : startsName first = true)
    (parts : more.all isNamePart = true) : Route where
  first := first
  more := more
  further := []
  first_starts := starts
  more_parts := List.all_eq_true.mp parts
  further_parts := List.forall_mem_nil _

theorem exists_route_of_keyword (source : String) (value : Value) (known : Keyword source value) :
    ∃ p : Route, String.ofList p.chars = source := by
  cases known with
  | yes => exact ⟨.name 't' "rue".toList rfl rfl, rfl⟩
  | no => exact ⟨.name 'f' "alse".toList rfl rfl, rfl⟩
  | null => exact ⟨.name 'n' "ull".toList rfl rfl, rfl⟩
  | undefined => exact ⟨.name 'u' "ndefined".toList rfl rfl, rfl⟩

/-! ### Printed conditions are derived -/

/-- The words are tokens that the grammar derives as an operand with this tree. -/
def Spells (printed : List String) (tree : Condition) : Prop :=
  ∃ lexemes, printed = lexemes.map Lexeme.source ∧ Derives .operand lexemes tree

theorem spells_text (s : String) : Spells (words (.literal (.text s))) (.literal (.text s)) := by
  have derived := Derives.text (QuotedText.ofString s)
  rw [QuotedText.value_ofString] at derived
  refine ⟨[.text (QuotedText.ofString s)], ?_, derived⟩
  rw [words, literalWord, ← QuotedText.chars_ofString]
  rfl

theorem spells_whole (n : Int) (small : n.natAbs ≤ 2 ^ 53) :
    Spells (words (.literal (.number (.int n)))) (.literal (.number (.int n))) := by
  have derived := Derives.number (Figure.ofInt n)
  rw [Figure.value_ofInt n small] at derived
  refine ⟨[.number (Figure.ofInt n)], ?_, derived⟩
  rw [List.map_singleton, Lexeme.source, Lexeme.chars, Figure.chars_ofInt, String.ofList_toList]
  rfl

theorem spells_keyword (name : String) (value : Value) (known : Keyword name value)
    (printed : words (.literal value) = [name]) : Spells (words (.literal value)) (.literal value) := by
  obtain ⟨p, rfl⟩ := exists_route_of_keyword name value known
  exact ⟨[.path p], printed, .keyword known⟩

theorem spells_path (p : Route) (plain : '?' ∉ p.chars)
    (free : ∀ value, ¬ Keyword (String.ofList p.chars) value) :
    Spells (words (.path (String.ofList p.chars))) (.path (String.ofList p.chars)) := by
  have unmarked : p.chars.filter (· != '?') = p.chars := by
    apply List.filter_eq_self.mpr
    intro c member
    rw [bne_iff_ne]
    rintro rfl
    exact plain member
  have derived := Derives.path free
  rw [← filter_route p, unmarked] at derived
  exact ⟨[.path p], rfl, derived⟩

theorem spells_grouped (printed : List String) (lexemes : List Lexeme) (tree : Condition)
    (same : printed = lexemes.map Lexeme.source) (derived : Derives .any lexemes tree) :
    Spells ("(" :: (printed ++ [")"])) tree := by
  refine ⟨.operator .opening :: (lexemes ++ [.operator .closing]), ?_, .group derived⟩
  rw [List.map_cons, List.map_append, List.map_singleton, Lexeme.source_operator, Lexeme.source_operator, same]
  rfl

theorem spells_negation (operand : Condition) (part : Spells (words operand) operand) :
    Spells (words (.negation operand)) (.negation operand) := by
  obtain ⟨lexemes, same, derived⟩ := part
  have negated := Derives.negated derived.negation_of_operand
  refine spells_grouped ("!" :: words operand) _ _ ?_ negated.any_of_negation
  rw [List.map_cons, Lexeme.source_operator, same]
  rfl

theorem spells_comparison (relation : Comparison) (left right : Condition) (first : Spells (words left) left)
    (second : Spells (words right) right) :
    Spells (words (.comparison relation left right)) (.comparison relation left right) := by
  obtain ⟨before, same, derived⟩ := first
  obtain ⟨after, same', derived'⟩ := second
  have compared := Derives.affirmed (Derives.compared relation derived derived')
  have shape : words (.comparison relation left right) =
      "(" :: ((words left ++ relation.spelling :: words right) ++ [")"]) := by
    rw [words, List.append_assoc, List.cons_append]
  rw [shape]
  refine spells_grouped _ _ _ ?_ compared.any_of_negation
  rw [List.map_append, List.map_cons, Lexeme.source_operator, same, same']
  rfl

theorem exists_parts (operator : Operator) (operands : List Condition)
    (each : ∀ operand ∈ operands, Spells (words operand) operand) :
    ∃ parts, furtherWords operator.spelling operands = (following operator parts).map Lexeme.source ∧
      parts.map Prod.snd = operands ∧ ∀ part ∈ parts, Derives .operand part.1 part.2 := by
  induction operands with
  | nil => exact ⟨[], rfl, rfl, fun _ member => by cases member⟩
  | cons operand others ih =>
      obtain ⟨⟨lexemes, same, derived⟩, later⟩ := List.forall_mem_cons.mp each
      obtain ⟨parts, same', trees, derived'⟩ := ih later
      refine ⟨(lexemes, operand) :: parts, ?_, ?_, List.forall_mem_cons.mpr ⟨derived, derived'⟩⟩
      · rw [furtherWords, following_cons, List.map_cons, List.map_append, Lexeme.source_operator, same, same']
      · rw [List.map_cons, trees]

/-- The words of a chain of several operands, and what they are made of. -/
theorem exists_chain (operator : Operator) (join : List Condition → Condition) (operands : List Condition)
    (several : 2 ≤ operands.length) (each : ∀ operand ∈ operands, Spells (words operand) operand) :
    ∃ lexemes first parts,
      chainWords operator.spelling operands = (lexemes ++ following operator parts).map Lexeme.source ∧
        chained join first (parts.map Prod.snd) = join operands ∧ Derives .operand lexemes first ∧
        ∀ part ∈ parts, Derives .operand part.1 part.2 := by
  match operands with
  | first :: second :: others =>
      obtain ⟨⟨lexemes, same, derived⟩, later⟩ := List.forall_mem_cons.mp each
      obtain ⟨parts, same', trees, derived'⟩ := exists_parts operator (second :: others) later
      refine ⟨lexemes, first, parts, ?_, ?_, derived, derived'⟩
      · rw [chainWords, List.map_append, same, same']
      · rw [trees, chained]

theorem spells_all (operands : List Condition) (several : 2 ≤ operands.length)
    (each : ∀ operand ∈ operands, Spells (words operand) operand) :
    Spells (words (.all operands)) (.all operands) := by
  obtain ⟨lexemes, first, parts, same, tree, derived, derived'⟩ :=
    exists_chain .both .all operands several each
  have chain := Derives.all derived.negation_of_operand fun part member =>
    (derived' part member).negation_of_operand
  rw [tree] at chain
  exact spells_grouped _ _ _ same chain.any_of_all

theorem spells_any (operands : List Condition) (several : 2 ≤ operands.length)
    (each : ∀ operand ∈ operands, Spells (words operand) operand) :
    Spells (words (.any operands)) (.any operands) := by
  obtain ⟨lexemes, first, parts, same, tree, derived, derived'⟩ :=
    exists_chain .either .any operands several each
  have chain := Derives.any derived.negation_of_operand.all_of_negation fun part member =>
    (derived' part member).negation_of_operand.all_of_negation
  rw [tree] at chain
  exact spells_grouped _ _ _ same chain

-- Parentheses make an operand of every part, so a part's derivation serves wherever the part may stand.
theorem Printable.spells {condition : Condition} (printable : Printable condition) :
    Spells (words condition) condition := by
  induction printable with
  | text s => exact spells_text s
  | whole n small => exact spells_whole n small
  | bool b =>
      cases b with
      | true => exact spells_keyword "true" _ .yes rfl
      | false => exact spells_keyword "false" _ .no rfl
  | null => exact spells_keyword "null" _ .null rfl
  | path p plain free => exact spells_path p plain free
  | negation operand _ part => exact spells_negation operand part
  | comparison relation left right _ _ first second =>
      exact spells_comparison relation left right first second
  | all operands several _ each => exact spells_all operands several each
  | any operands several _ each => exact spells_any operands several each

/-- Every printable condition is read back from its text. -/
theorem parse_print (condition : Condition) (printable : Printable condition) :
    parse (print condition) = .ok condition := by
  obtain ⟨lexemes, same, derived⟩ := printable.spells
  have scanned : tokens (print condition) = .ok (lexemes.map Lexeme.token) := by
    rw [print, same]
    exact tokens_join lexemes
  rw [parse, scanned]
  exact ofTokens_of_derives lexemes condition derived.negation_of_operand.any_of_negation

/-- Chains in each other, and a text that holds marks, a backslash, a line end and an operator. -/
def nestedChains : Condition :=
  .any [.negation (.comparison .same (.path "data.$x") (.literal (.text "it's \\\n&& 'so'"))),
    .all [.literal (.bool true), .comparison .below (.literal (.number (.int (-7)))) (.literal .null)]]

theorem parse_print_nestedChains :
    print nestedChains = "( ( ! ( data.$x === 'it\\'s \\\\\n&& \\'so\\'' ) ) || ( true && ( -7 < null ) ) )" ∧
      parse (print nestedChains) = .ok nestedChains := by
  have free : ∀ value, ¬ Keyword "data.$x" value := (lookup_keywords_eq_none_iff _).mp rfl
  have path : Printable (.path "data.$x") :=
    .path ⟨'d', ['a', 't', 'a'], [(false, ['$', 'x'])], rfl, List.all_eq_true.mp rfl,
      List.forall_mem_singleton.mpr ⟨by decide, List.all_eq_true.mp rfl⟩⟩ (by decide) free
  have comparison := Printable.comparison .same _ _ path (.text "it's \\\n&& 'so'")
  have chain : Printable (.all [.literal (.bool true),
      .comparison .below (.literal (.number (.int (-7)))) (.literal .null)]) := by
    apply Printable.all _ (by decide)
    rintro operand (_ | ⟨_, _ | ⟨_, ⟨⟩⟩⟩)
    · exact .bool true
    · exact .comparison .below _ _ (.whole (-7) (by decide)) .null
  have printable : Printable nestedChains := by
    apply Printable.any _ (by decide)
    rintro operand (_ | ⟨_, _ | ⟨_, ⟨⟩⟩⟩)
    · exact .negation _ comparison
    · exact chain
  exact ⟨by decide, parse_print nestedChains printable⟩

end Condition

end ReportCompiler
