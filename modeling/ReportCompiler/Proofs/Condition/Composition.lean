import Mathlib.Data.List.Forall2
import ReportCompiler.Condition.Evaluation
import ReportCompiler.Proofs.Condition.Concatenation

/-!
Conditions put together as texts. A condition in parentheses is an operand wherever one may stand, so texts
joined by operators are read as their trees joined, and what decides the parts decides the whole.
-/

namespace ReportCompiler

open ReportCompiler.Text

namespace Condition

/-! ### Tokens -/

/-- The tokens of a condition in parentheses. -/
def grouped (lexemes : List Lexeme) : List Lexeme := .operator .opening :: (lexemes ++ [.operator .closing])

-- No other operator begins with a parenthesis, so each is a token before any text.
theorem Scans.grouped {chars rest : List Char} {lexemes others : List Lexeme}
    (inside : Scans chars (lexemes.map Lexeme.token)) (after : Scans rest (others.map Lexeme.token)) :
    Scans ('(' :: (chars ++ ')' :: rest)) ((grouped lexemes ++ others).map Lexeme.token) := by
  have opening : token? ('(' :: (chars ++ ')' :: rest)) =
      some ((Lexeme.operator .opening).token, chars ++ ')' :: rest) := rfl
  have closing : token? (')' :: rest) = some ((Lexeme.operator .closing).token, rest) := rfl
  have divides : Divides (')' :: rest) := by
    rintro c ⟨⟩
    exact .inr rfl
  have whole := inside.append divides (.token closing after)
  rw [Condition.grouped, List.cons_append, List.append_assoc, List.map_cons, List.map_append]
  exact .token opening whole

theorem Scans.grouped_last {chars : List Char} {lexemes : List Lexeme}
    (inside : Scans chars (lexemes.map Lexeme.token)) :
    Scans ('(' :: (chars ++ [')'])) ((Condition.grouped lexemes).map Lexeme.token) := by
  have nothing : Scans [] (List.map Lexeme.token []) := .done
  have whole := inside.grouped nothing
  rw [List.append_nil] at whole
  exact whole

theorem Scans.spaced {rest : List Char} {lexemes : List Lexeme} (o : Operator)
    (after : Scans rest (lexemes.map Lexeme.token)) :
    Scans (' ' :: (o.spelling.toList ++ ' ' :: rest)) ((Lexeme.operator o :: lexemes).map Lexeme.token) := by
  have apart : SetsApart (' ' :: rest) := by
    rintro c ⟨⟩
    rfl
  have taken := token?_lexeme (.operator o) (' ' :: rest) apart
  exact .blank rfl (.token taken (.blank rfl after))

/-- Two conditions in parentheses with an operator between them. -/
theorem Scans.joined {first second : List Char} {lexemes others : List Lexeme} (o : Operator)
    (before : Scans first (lexemes.map Lexeme.token)) (after : Scans second (others.map Lexeme.token)) :
    Scans ('(' :: (first ++ ')' :: ' ' :: (o.spelling.toList ++ ' ' :: '(' :: (second ++ [')']))))
      ((Condition.grouped lexemes ++ .operator o :: Condition.grouped others).map Lexeme.token) :=
  before.grouped (after.grouped_last.spaced o)

theorem Scans.negated {chars : List Char} {lexemes : List Lexeme}
    (inside : Scans chars (lexemes.map Lexeme.token)) :
    Scans ('!' :: '(' :: (chars ++ [')']))
      ((.operator .negation :: Condition.grouped lexemes).map Lexeme.token) := by
  have mark : token? ('!' :: '(' :: (chars ++ [')'])) =
      some ((Lexeme.operator .negation).token, '(' :: (chars ++ [')'])) := rfl
  exact .token mark inside.grouped_last

/-! ### Trees -/

theorem parse_iff_scans (text : String) (tree : Condition) :
    parse text = .ok tree ↔
      ∃ lexemes, Scans text.toList (lexemes.map Lexeme.token) ∧ Derives .any lexemes tree := by
  rw [parse_eq_ok_iff]
  exact exists_congr fun lexemes => and_congr_left' (tokens_eq_ok_iff text _)

theorem Derives.grouped {lexemes : List Lexeme} {tree : Condition} (inside : Derives .any lexemes tree) :
    Derives .negation (Condition.grouped lexemes) tree :=
  (Derives.group inside).negation_of_operand

theorem parse_trim (text : String) (tree : Condition) (parsed : parse text = .ok tree) :
    parse (trim text) = .ok tree := by
  obtain ⟨lexemes, scans, derived⟩ := (parse_iff_scans text tree).mp parsed
  refine (parse_iff_scans _ _).mpr ⟨lexemes, ?_, derived⟩
  rw [trim, String.toList_ofList]
  exact scans.trimmed

section Joined

variable (first second : String) (left right : Condition)
  (parsed : parse first = .ok left) (parsedToo : parse second = .ok right)

include parsed parsedToo

end Joined

/-! ### Values -/

/-- The condition has a value on the data, and it counts as this truth value. -/
def Decides (data : Value) (tree : Condition) (verdict : Bool) : Prop :=
  ∃ found, evaluate data tree = .ok found ∧ found.value.isTruthy = verdict

section Verdicts

variable {data : Value} {first : Condition} {rest : List Condition} {a : Bool} {verdicts : List Bool}

theorem Decides.negation (decides : Decides data first a) : Decides data (.negation first) !a := by
  obtain ⟨found, value, rfl⟩ := decides
  refine ⟨{ value := .bool !found.value.isTruthy, place := none }, ?_, rfl⟩
  rw [evaluate, value]
  rfl

-- An operand after the one that decides the chain is not evaluated; here all of them have values.
theorem evaluateAll_decides (each : List.Forall₂ (Decides data) rest verdicts) (last : Path.Found)
    (soFar : last.value.isTruthy = true) :
    ∃ found, evaluateAll data rest last = .ok found ∧ found.value.isTruthy = verdicts.all id := by
  induction each generalizing last with
  | nil => exact ⟨last, rfl, soFar⟩
  | cons here later ih =>
      obtain ⟨found, value, rfl⟩ := here
      rw [evaluateAll, value, Attempt.ok_bind, List.all_cons]
      cases truth : found.value.isTruthy with
      | true => exact ih found truth
      | false => exact ⟨found, rfl, truth⟩

theorem evaluateAny_decides (each : List.Forall₂ (Decides data) rest verdicts) (last : Path.Found)
    (soFar : last.value.isTruthy = false) :
    ∃ found, evaluateAny data rest last = .ok found ∧ found.value.isTruthy = verdicts.any id := by
  induction each generalizing last with
  | nil => exact ⟨last, rfl, soFar⟩
  | cons here later ih =>
      obtain ⟨found, value, rfl⟩ := here
      rw [evaluateAny, value, Attempt.ok_bind, List.any_cons]
      cases truth : found.value.isTruthy with
      | true => exact ⟨found, rfl, truth⟩
      | false => exact ih found truth

/-- A chain of `&&` counts as true exactly when all its operands do. -/
theorem Decides.all (decides : Decides data first a) (others : List.Forall₂ (Decides data) rest verdicts) :
    Decides data (.all (first :: rest)) (a && verdicts.all id) := by
  obtain ⟨found, value, rfl⟩ := decides
  rw [Decides, evaluate, evaluateAll, value, Attempt.ok_bind]
  cases truth : found.value.isTruthy with
  | true => exact evaluateAll_decides others found truth
  | false => exact ⟨found, rfl, truth⟩

/-- A chain of `||` counts as true exactly when one of its operands does. -/
theorem Decides.any (decides : Decides data first a) (others : List.Forall₂ (Decides data) rest verdicts) :
    Decides data (.any (first :: rest)) (a || verdicts.any id) := by
  obtain ⟨found, value, rfl⟩ := decides
  rw [Decides, evaluate, evaluateAny, value, Attempt.ok_bind]
  cases truth : found.value.isTruthy with
  | true => exact ⟨found, rfl, truth⟩
  | false => exact evaluateAny_decides others found truth

end Verdicts

/-! ### Conditions of a widget -/

theorem not_isBlankText_of_parse (text : String) (tree : Condition) (parsed : parse text = .ok tree) :
    isBlankText text = false := by
  rw [Bool.eq_false_iff]
  intro blank
  obtain ⟨lexemes, scans, derived⟩ := (parse_iff_scans text tree).mp parsed
  have nothing := scans.of_append_blanks [] text.toList rfl (List.all_eq_true.mp blank)
  cases lexemes with
  | nil => cases ofTokens_of_derives [] tree derived
  | cons lexeme more =>
      cases nothing with
      | token taken later => cases taken

/-- A text that is a condition is met as its tree decides, blanks around it or not. -/
theorem isMet_eq_ok_iff (text : String) (tree : Condition) (parsed : parse text = .ok tree) (data : Value)
    (given : data.isNull = false) (verdict : Bool) :
    isMet (.text text) data = .ok verdict ↔ Decides data tree verdict := by
  rw [isMet, not_isBlankText_of_parse text tree parsed, given, Bool.or_self, if_neg Bool.false_ne_true,
    parse_trim text tree parsed]
  exact Attempt.map_eq_ok_iff _ _ _

end Condition

end ReportCompiler
