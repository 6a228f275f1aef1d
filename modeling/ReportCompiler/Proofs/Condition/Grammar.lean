import ReportCompiler.Proofs.Attempt
import ReportCompiler.Proofs.Condition.Lexeme

/-!
The grammar of conditions as a relation between tokens and trees, beside the reader that follows it. The
reader gives a tree for exactly the tokens that the grammar derives, and the tree is the one derived.
-/

namespace ReportCompiler

namespace Condition

/-! ### The grammar -/

inductive Rule where
  | any
  | all
  | negation
  | comparison
  | operand
deriving DecidableEq

/-- Operands joined in one flat chain; a single one stands for itself. -/
def chained (join : List Condition → Condition) (first : Condition) : List Condition → Condition
  | [] => first
  | second :: others => join (first :: second :: others)

/-- The tokens of further operands, each with the operator before it. -/
def following (operator : Operator) (parts : List (List Lexeme × Condition)) : List Lexeme :=
  parts.flatMap fun part => .operator operator :: part.1

theorem following_cons (operator : Operator) (part : List Lexeme × Condition)
    (rest : List (List Lexeme × Condition)) :
    following operator (part :: rest) = .operator operator :: (part.1 ++ following operator rest) := rfl

/-- The rules of the grammar, each with the tree that it makes of the trees of its parts. -/
inductive Derives : Rule → List Lexeme → Condition → Prop
  | any {tokens : List Lexeme} {first : Condition} {parts : List (List Lexeme × Condition)}
      (operand : Derives .all tokens first) (operands : ∀ part ∈ parts, Derives .all part.1 part.2) :
      Derives .any (tokens ++ following .either parts) (chained .any first (parts.map Prod.snd))
  | all {tokens : List Lexeme} {first : Condition} {parts : List (List Lexeme × Condition)}
      (operand : Derives .negation tokens first)
      (operands : ∀ part ∈ parts, Derives .negation part.1 part.2) :
      Derives .all (tokens ++ following .both parts) (chained .all first (parts.map Prod.snd))
  | negated {tokens : List Lexeme} {tree : Condition} (operand : Derives .negation tokens tree) :
      Derives .negation (.operator .negation :: tokens) (.negation tree)
  | affirmed {tokens : List Lexeme} {tree : Condition} (operand : Derives .comparison tokens tree) :
      Derives .negation tokens tree
  | compared {before after : List Lexeme} {left right : Condition} (relation : Comparison)
      (first : Derives .operand before left) (second : Derives .operand after right) :
      Derives .comparison (before ++ .operator (.comparing relation) :: after)
        (.comparison relation left right)
  | alone {tokens : List Lexeme} {tree : Condition} (operand : Derives .operand tokens tree) :
      Derives .comparison tokens tree
  | text (text : QuotedText) : Derives .operand [.text text] (.literal (.text text.value))
  | number (number : Figure) : Derives .operand [.number number] (.literal (.number number.value))
  | keyword {path : Route} {value : Value} (known : Keyword (String.ofList path.chars) value) :
      Derives .operand [.path path] (.literal value)
  | path {path : Route} (free : ∀ value, ¬ Keyword (String.ofList path.chars) value) :
      Derives .operand [.path path] (.path path.path)
  | group {tokens : List Lexeme} {tree : Condition} (inside : Derives .any tokens tree) :
      Derives .operand (.operator .opening :: (tokens ++ [.operator .closing])) tree

/-! A rule with a single part derives what the part does. -/

theorem Derives.negation_of_operand {tokens : List Lexeme} {tree : Condition}
    (derived : Derives .operand tokens tree) : Derives .negation tokens tree :=
  .affirmed (.alone derived)

theorem Derives.all_of_negation {tokens : List Lexeme} {tree : Condition}
    (derived : Derives .negation tokens tree) : Derives .all tokens tree := by
  have single : Derives .all (tokens ++ following .both []) tree :=
    .all derived fun _ member => by cases member
  rw [following, List.flatMap_nil, List.append_nil] at single
  exact single

theorem Derives.any_of_all {tokens : List Lexeme} {tree : Condition} (derived : Derives .all tokens tree) :
    Derives .any tokens tree := by
  have single : Derives .any (tokens ++ following .either []) tree :=
    .any derived fun _ member => by cases member
  rw [following, List.flatMap_nil, List.append_nil] at single
  exact single

theorem Derives.any_of_negation {tokens : List Lexeme} {tree : Condition}
    (derived : Derives .negation tokens tree) : Derives .any tokens tree :=
  derived.all_of_negation.any_of_all

/-! ### One token -/

theorem isOperator_token_iff (o : Operator) (l : Lexeme) :
    isOperator o.spelling l.token = true ↔ l = .operator o := by
  cases l with
  | operator other =>
      have spelled : isOperator o.spelling (Lexeme.operator other).token =
          (other.spelling == o.spelling) := by
        rw [isOperator, Lexeme.token, Lexeme.source_operator]
        rfl
      rw [spelled, beq_iff_eq, Operator.spelling_injective.eq_iff, Lexeme.operator.injEq]
  | text t => simp [isOperator, Lexeme.token, Lexeme.kind]
  | number n => simp [isOperator, Lexeme.token, Lexeme.kind]
  | path p => simp [isOperator, Lexeme.token, Lexeme.kind]

theorem ofSpelling?_operator (o : Operator) : Comparison.ofSpelling? o.spelling =
    match o with
    | .comparing relation => some relation
    | _ => none := by
  cases o with
  | comparing relation => cases relation <;> rfl
  | _ => rfl

theorem comparisonOf?_token_iff (relation : Comparison) (l : Lexeme) :
    comparisonOf? l.token = some relation ↔ l = .operator (.comparing relation) := by
  cases l with
  | operator o =>
      have spelled : comparisonOf? (Lexeme.operator o).token = Comparison.ofSpelling? o.spelling := by
        rw [comparisonOf?, Lexeme.token, Lexeme.source_operator]
        rfl
      rw [spelled, ofSpelling?_operator, Lexeme.operator.injEq]
      cases o <;> simp
  | text t => simp [comparisonOf?, Lexeme.token, Lexeme.kind]
  | number n => simp [comparisonOf?, Lexeme.token, Lexeme.kind]
  | path p => simp [comparisonOf?, Lexeme.token, Lexeme.kind]

section Reading

variable (inner : TokenReader Condition)

theorem operand_text (t : QuotedText) (rest : List Token) :
    operand inner ((Lexeme.text t).token :: rest) = .ok (.literal (.text t.value), rest) := by
  rw [← textLiteral_chars t]
  rfl

theorem operand_number (n : Figure) (rest : List Token) :
    operand inner ((Lexeme.number n).token :: rest) = .ok (.literal (.number n.value), rest) := by
  rw [← numberLiteral_chars n]
  rfl

theorem operand_path (p : Route) (rest : List Token) :
    operand inner ((Lexeme.path p).token :: rest) = .ok (named (String.ofList p.chars), rest) := rfl

theorem operand_operator (o : Operator) (other : o ≠ .opening) (rest : List Token) :
    operand inner ((Lexeme.operator o).token :: rest) = .error (.unexpectedToken o.spelling) := by
  have spelled : (o.spelling == "(") = false :=
    beq_false_of_ne fun same => other (Operator.spelling_injective same)
  simp [operand, Lexeme.token, Lexeme.kind, Lexeme.source_operator, spelled]

/-! ### What is read is derived -/

/-- What the reader takes from the front of some tokens is derived by the rule, tree and all. -/
def Follows (rule : Rule) (read : TokenReader Condition) : Prop :=
  ∀ lexemes tree rest, read (lexemes.map Lexeme.token) = .ok (tree, rest) →
    ∃ used left, lexemes = used ++ left ∧ rest = left.map Lexeme.token ∧ Derives rule used tree

variable (inside : Follows .any inner)

include inside in
theorem operand_group (lexemes : List Lexeme) (tree : Condition) (rest : List Token)
    (read : operand inner ((Lexeme.operator .opening).token :: lexemes.map Lexeme.token) = .ok (tree, rest)) :
    ∃ used left, lexemes = used ++ .operator .closing :: left ∧ rest = left.map Lexeme.token ∧
      Derives .any used tree := by
  obtain ⟨⟨found, remaining⟩, first, second⟩ := (Attempt.bind_eq_ok_iff _ _ _).mp read
  obtain ⟨used, left, whole, same, derived⟩ := inside lexemes found remaining first
  subst same
  cases left with
  | nil => cases second
  | cons closing left =>
      simp only [List.map_cons] at second
      split at second
      · next closes =>
          obtain rfl := (isOperator_token_iff .closing closing).mp closes
          cases second
          exact ⟨used, left, whole, rfl, derived⟩
      · cases second

include inside in
theorem operand_follows : Follows .operand (operand inner) := by
  intro lexemes tree rest read
  cases lexemes with
  | nil => cases read
  | cons lexeme more =>
      rw [List.map_cons] at read
      cases lexeme with
      | text t =>
          rw [operand_text] at read
          cases read
          exact ⟨[.text t], more, rfl, rfl, .text t⟩
      | number n =>
          rw [operand_number] at read
          cases read
          exact ⟨[.number n], more, rfl, rfl, .number n⟩
      | path p =>
          rw [operand_path] at read
          cases read
          refine ⟨[.path p], more, rfl, rfl, ?_⟩
          by_cases keyword : ∃ value, Keyword (String.ofList p.chars) value
          · obtain ⟨value, known⟩ := keyword
            rw [named_of_keyword _ value known]
            exact .keyword known
          · have free := not_exists.mp keyword
            rw [named_chars p free]
            exact .path free
      | operator o =>
          by_cases opens : o = .opening
          · subst opens
            obtain ⟨used, left, rfl, same, derived⟩ := operand_group inner inside more tree rest read
            exact ⟨.operator .opening :: (used ++ [.operator .closing]), left, by simp, same, .group derived⟩
          · rw [operand_operator inner o opens] at read
            cases read

include inside in
theorem compared_follows : Follows .comparison (compared inner) := by
  intro lexemes tree rest read
  obtain ⟨⟨left, remaining⟩, first, second⟩ := (Attempt.bind_eq_ok_iff _ _ _).mp read
  obtain ⟨before, others, rfl, rfl, derived⟩ := operand_follows inner inside lexemes left remaining first
  cases others with
  | nil =>
      cases second
      exact ⟨before, [], rfl, rfl, .alone derived⟩
  | cons lexeme more =>
      simp only [List.map_cons] at second
      split at second
      · next relation compares =>
          obtain rfl := (comparisonOf?_token_iff relation lexeme).mp compares
          obtain ⟨⟨right, remaining⟩, third, last⟩ := (Attempt.bind_eq_ok_iff _ _ _).mp second
          obtain ⟨after, others, rfl, rfl, derived'⟩ :=
            operand_follows inner inside more right remaining third
          cases last
          refine ⟨before ++ .operator (.comparing relation) :: after, others, ?_, rfl,
            .compared relation derived derived'⟩
          rw [List.append_assoc, List.cons_append]
      · cases second
        exact ⟨before, lexeme :: more, rfl, rfl, .alone derived⟩

include inside in
theorem negated_follows : Follows .negation (negated inner) := by
  intro lexemes
  induction lexemes with
  | nil =>
      intro tree rest read
      obtain ⟨used, left, whole, same, derived⟩ := compared_follows inner inside [] tree rest read
      exact ⟨used, left, whole, same, .affirmed derived⟩
  | cons lexeme more ih =>
      intro tree rest read
      rw [List.map_cons, negated] at read
      split at read
      · next negates =>
          obtain rfl := (isOperator_token_iff .negation lexeme).mp negates
          obtain ⟨⟨operand, remaining⟩, first, second⟩ := (Attempt.bind_eq_ok_iff _ _ _).mp read
          obtain ⟨used, left, rfl, rfl, derived⟩ := ih operand remaining first
          cases second
          exact ⟨.operator .negation :: used, left, rfl, rfl, .negated derived⟩
      · obtain ⟨used, left, whole, same, derived⟩ :=
          compared_follows inner inside (lexeme :: more) tree rest read
        exact ⟨used, left, whole, same, .affirmed derived⟩

theorem further_follows (operator : Operator) (rule : Rule) (read : TokenReader Condition)
    (follows : Follows rule read) (fuel : Nat) (lexemes : List Lexeme) (trees : List Condition)
    (rest : List Token)
    (found : further operator.spelling read fuel (lexemes.map Lexeme.token) = .ok (trees, rest)) :
    ∃ parts left, lexemes = following operator parts ++ left ∧ rest = left.map Lexeme.token ∧
      trees = parts.map Prod.snd ∧ ∀ part ∈ parts, Derives rule part.1 part.2 := by
  induction fuel generalizing lexemes trees rest with
  | zero =>
      cases found
      exact ⟨[], lexemes, rfl, rfl, rfl, fun _ member => by cases member⟩
  | succ fuel ih =>
      cases lexemes with
      | nil =>
          cases found
          exact ⟨[], [], rfl, rfl, rfl, fun _ member => by cases member⟩
      | cons lexeme more =>
          rw [List.map_cons, further] at found
          split at found
          · next joins =>
              obtain rfl := (isOperator_token_iff operator lexeme).mp joins
              obtain ⟨⟨tree, remaining⟩, first, second⟩ := (Attempt.bind_eq_ok_iff _ _ _).mp found
              obtain ⟨used, left, rfl, rfl, derived⟩ := follows more tree remaining first
              obtain ⟨⟨others, remaining⟩, third, last⟩ := (Attempt.bind_eq_ok_iff _ _ _).mp second
              obtain ⟨parts, left, rfl, rfl, rfl, each⟩ := ih left others remaining third
              cases last
              refine ⟨(used, tree) :: parts, left, ?_, rfl, rfl, List.forall_mem_cons.mpr ⟨derived, each⟩⟩
              rw [following_cons, List.cons_append, List.append_assoc]
          · cases found
            exact ⟨[], lexeme :: more, rfl, rfl, rfl, fun _ member => by cases member⟩

theorem chained_eq (join : List Condition → Condition) (first : Condition) (others : List Condition) :
    (if others.isEmpty then first else join (first :: others)) = chained join first others := by
  cases others <;> rfl

theorem chain_follows (operator : Operator) (join : List Condition → Condition) (rule : Rule)
    (read : TokenReader Condition) (follows : Follows rule read) (lexemes : List Lexeme)
    (tree : Condition) (rest : List Token)
    (found : chain operator.spelling join read (lexemes.map Lexeme.token) = .ok (tree, rest)) :
    ∃ used first parts left, lexemes = (used ++ following operator parts) ++ left ∧
      rest = left.map Lexeme.token ∧ tree = chained join first (parts.map Prod.snd) ∧
      Derives rule used first ∧ ∀ part ∈ parts, Derives rule part.1 part.2 := by
  obtain ⟨⟨first, remaining⟩, one, more⟩ := (Attempt.bind_eq_ok_iff _ _ _).mp found
  obtain ⟨used, left, rfl, rfl, derived⟩ := follows lexemes first remaining one
  obtain ⟨⟨others, remaining⟩, two, last⟩ := (Attempt.bind_eq_ok_iff _ _ _).mp more
  obtain ⟨parts, left, rfl, rfl, rfl, each⟩ :=
    further_follows operator rule read follows _ left others remaining two
  simp only [chained_eq] at last
  cases last
  exact ⟨used, first, parts, left, (List.append_assoc _ _ _).symm, rfl, rfl, derived, each⟩

include inside in
theorem all_follows : Follows .all (chain "&&" .all (negated inner)) := by
  intro lexemes tree rest found
  obtain ⟨used, first, parts, left, whole, same, rfl, derived, each⟩ :=
    chain_follows .both .all .negation _ (negated_follows inner inside) lexemes tree rest found
  exact ⟨used ++ following .both parts, left, whole, same, .all derived each⟩

include inside in
theorem anyOf_follows : Follows .any (anyOf inner) := by
  intro lexemes tree rest found
  obtain ⟨used, first, parts, left, whole, same, rfl, derived, each⟩ :=
    chain_follows .either .any .all _ (all_follows inner inside) lexemes tree rest found
  exact ⟨used ++ following .either parts, left, whole, same, .any derived each⟩

end Reading

theorem expression_follows (depth : Nat) : Follows .any (expression depth) := by
  induction depth with
  | zero => exact anyOf_follows _ fun _ _ _ read => by cases read
  | succ depth ih => exact anyOf_follows _ ih

/-! ### What is derived is read -/

/-- The reader of what stands in parentheses, when this many may still be opened. -/
def nested : Nat → TokenReader Condition
  | 0 => fun _ => .error .unexpectedEnd
  | depth + 1 => expression depth

theorem expression_eq (depth : Nat) : expression depth = anyOf (nested depth) := by
  cases depth <;> rfl

def reader (inner : TokenReader Condition) : Rule → TokenReader Condition
  | .any => anyOf inner
  | .all => chain "&&" .all (negated inner)
  | .negation => negated inner
  | .comparison => compared inner
  | .operand => operand inner

/-- Whether the reader of the rule goes on where this operator comes next. -/
def goesOn : Rule → Operator → Bool
  | .any, .either => true
  | .any, .both => true
  | .all, .both => true
  | .operand, _ => false
  | _, .comparing _ => true
  | _, _ => false

/-- Nothing comes next with which the rule would go on. -/
def Ends (rule : Rule) (left : List Lexeme) : Prop :=
  ∀ o, left.head? = some (.operator o) → goesOn rule o = false

theorem ends_operand (left : List Lexeme) : Ends .operand left := fun _ _ => rfl

theorem ends_operator (rule : Rule) (o : Operator) (left : List Lexeme) (stops : goesOn rule o = false) :
    Ends rule (.operator o :: left) := by
  intro other next
  cases next
  exact stops

theorem Ends.mono {outer part : Rule} {left : List Lexeme} (ends : Ends outer left)
    (less : ∀ o, goesOn outer o = false → goesOn part o = false) : Ends part left :=
  fun o next => less o (ends o next)

theorem ends_following (rule : Rule) (operator : Operator) (parts : List (List Lexeme × Condition))
    (left : List Lexeme) (stops : goesOn rule operator = false) (ends : Ends rule left) :
    Ends rule (following operator parts ++ left) := by
  cases parts with
  | nil => exact ends
  | cons part rest => exact ends_operator rule operator _ stops

theorem length_le_following (operator : Operator) (parts : List (List Lexeme × Condition)) :
    parts.length ≤ (following operator parts).length := by
  induction parts with
  | nil => exact Nat.le_refl 0
  | cons part rest ih =>
      rw [following_cons, List.length_cons, List.length_cons, List.length_append]
      omega

theorem length_le_of_mem_following (operator : Operator) (parts : List (List Lexeme × Condition))
    (part : List Lexeme × Condition) (member : part ∈ parts) :
    part.1.length ≤ (following operator parts).length := by
  induction parts with
  | nil => cases member
  | cons first rest ih =>
      rw [following_cons, List.length_cons, List.length_append]
      rcases List.mem_cons.mp member with rfl | later
      · omega
      · have short := ih later
        omega

/-- The rule's tokens are read to their tree wherever nothing follows with which the rule would go on. -/
def ReadsBy (read : TokenReader Condition) (rule : Rule) (tokens : List Lexeme) (tree : Condition) : Prop :=
  ∀ left, Ends rule left → read ((tokens ++ left).map Lexeme.token) = .ok (tree, left.map Lexeme.token)

theorem further_stops (operator : Operator) (read : TokenReader Condition) (fuel : Nat) (left : List Lexeme)
    (stops : left.head? ≠ some (.operator operator)) :
    further operator.spelling read fuel (left.map Lexeme.token) = .ok ([], left.map Lexeme.token) := by
  cases fuel with
  | zero => rfl
  | succ fuel =>
      cases left with
      | nil => rfl
      | cons lexeme more =>
          have other : ¬ isOperator operator.spelling lexeme.token = true := by
            intro joins
            exact stops (congrArg some ((isOperator_token_iff operator lexeme).mp joins))
          rw [List.map_cons, further, if_neg other]

theorem further_reads (operator : Operator) (rule : Rule) (read : TokenReader Condition)
    (parts : List (List Lexeme × Condition)) (each : ∀ part ∈ parts, ReadsBy read rule part.1 part.2)
    (apart : goesOn rule operator = false) (left : List Lexeme) (ends : Ends rule left)
    (stops : left.head? ≠ some (.operator operator)) (fuel : Nat) (enough : parts.length ≤ fuel) :
    further operator.spelling read fuel ((following operator parts ++ left).map Lexeme.token) =
      .ok (parts.map Prod.snd, left.map Lexeme.token) := by
  induction parts generalizing fuel with
  | nil => exact further_stops operator read fuel left stops
  | cons part rest ih =>
      obtain ⟨here, later⟩ := List.forall_mem_cons.mp each
      obtain ⟨fuel, rfl⟩ : ∃ more, fuel = more + 1 := ⟨fuel - 1, by simp at enough; omega⟩
      have joins := (isOperator_token_iff operator (.operator operator)).mpr rfl
      have first := here (following operator rest ++ left) (ends_following rule operator rest left apart ends)
      have others := ih later fuel (Nat.le_of_succ_le_succ enough)
      rw [following_cons, List.cons_append, List.append_assoc, List.map_cons, further, if_pos joins, first]
      simp only [bind, Except.bind, others]
      rfl

theorem chain_reads (operator : Operator) (join : List Condition → Condition) (outer rule : Rule)
    (read : TokenReader Condition) (tokens : List Lexeme) (first : Condition)
    (parts : List (List Lexeme × Condition)) (one : ReadsBy read rule tokens first)
    (each : ∀ part ∈ parts, ReadsBy read rule part.1 part.2) (apart : goesOn rule operator = false)
    (joins : goesOn outer operator = true) (less : ∀ o, goesOn outer o = false → goesOn rule o = false) :
    ReadsBy (chain operator.spelling join read) outer (tokens ++ following operator parts)
      (chained join first (parts.map Prod.snd)) := by
  intro left outerEnds
  have ends : Ends rule left := outerEnds.mono less
  have stops : left.head? ≠ some (.operator operator) := by
    intro next
    rw [outerEnds operator next] at joins
    cases joins
  have head := one (following operator parts ++ left) (ends_following rule operator parts left apart ends)
  have enough : parts.length ≤ ((following operator parts ++ left).map Lexeme.token).length := by
    rw [List.length_map, List.length_append]
    exact Nat.le_add_right_of_le (length_le_following operator parts)
  have tail := further_reads operator rule read parts each apart left ends stops _ enough
  rw [List.append_assoc, chain, head]
  simp only [bind, Except.bind, tail]
  rw [chained_eq]
  rfl

-- The tokens of an operand never begin with the mark of a negation, so the two rules stay apart.
theorem Derives.starts {rule : Rule} {tokens : List Lexeme} {tree : Condition}
    (derived : Derives rule tokens tree) (flat : rule = .operand ∨ rule = .comparison) :
    ∃ first more, tokens = first :: more ∧ first ≠ .operator .negation := by
  induction derived with
  | compared relation first second ih _ =>
      obtain ⟨head, more, rfl, other⟩ := ih (.inl rfl)
      exact ⟨head, _, rfl, other⟩
  | alone operand ih => exact ih (.inl rfl)
  | text t => exact ⟨_, _, rfl, by rintro ⟨⟩⟩
  | number n => exact ⟨_, _, rfl, by rintro ⟨⟩⟩
  | keyword known => exact ⟨_, _, rfl, by rintro ⟨⟩⟩
  | path free => exact ⟨_, _, rfl, by rintro ⟨⟩⟩
  | group inside => exact ⟨_, _, rfl, by rintro ⟨⟩⟩
  | any _ _ => simp at flat
  | all _ _ => simp at flat
  | negated _ => simp at flat
  | affirmed _ => simp at flat

/-! Each rule by the readings of its parts. -/

section Parts

variable (inner : TokenReader Condition)

theorem negated_reads (tokens : List Lexeme) (tree : Condition)
    (reads : ReadsBy (negated inner) .negation tokens tree) :
    ReadsBy (negated inner) .negation (.operator .negation :: tokens) (.negation tree) := by
  intro left ends
  have mark : isOperator "!" (Lexeme.operator .negation).token = true :=
    (isOperator_token_iff .negation _).mpr rfl
  rw [List.cons_append, List.map_cons, negated, if_pos mark, reads left ends]
  rfl

theorem affirmed_reads (tokens : List Lexeme) (tree : Condition)
    (derived : Derives .comparison tokens tree) (reads : ReadsBy (compared inner) .comparison tokens tree) :
    ReadsBy (negated inner) .negation tokens tree := by
  intro left ends
  obtain ⟨first, more, rfl, other⟩ := derived.starts (.inr rfl)
  have mark : ¬ isOperator "!" first.token = true := by
    intro negates
    exact other ((isOperator_token_iff .negation first).mp negates)
  rw [List.cons_append, List.map_cons, negated, if_neg mark, ← List.map_cons, ← List.cons_append]
  apply reads left
  apply ends.mono
  intro o
  cases o <;> exact id

theorem compared_reads (before after : List Lexeme) (left right : Condition) (relation : Comparison)
    (first : ReadsBy (operand inner) .operand before left)
    (second : ReadsBy (operand inner) .operand after right) :
    ReadsBy (compared inner) .comparison (before ++ .operator (.comparing relation) :: after)
      (.comparison relation left right) := by
  intro others _
  have sign := (comparisonOf?_token_iff relation (.operator (.comparing relation))).mpr rfl
  have one := first (.operator (.comparing relation) :: after ++ others) (ends_operand _)
  have two := second others (ends_operand others)
  rw [List.append_assoc, compared, one]
  simp only [bind, Except.bind, List.cons_append, List.map_cons, sign, two]
  rfl

theorem alone_reads (tokens : List Lexeme) (tree : Condition)
    (reads : ReadsBy (operand inner) .operand tokens tree) :
    ReadsBy (compared inner) .comparison tokens tree := by
  intro left ends
  rw [compared, reads left (ends_operand left)]
  cases left with
  | nil => rfl
  | cons lexeme more =>
      have plain : comparisonOf? lexeme.token = none := by
        cases compares : comparisonOf? lexeme.token with
        | none => rfl
        | some relation =>
            obtain rfl := (comparisonOf?_token_iff relation lexeme).mp compares
            cases ends _ rfl
      simp only [bind, Except.bind, List.map_cons, plain]
      rfl

theorem group_reads (tokens : List Lexeme) (tree : Condition) (reads : ReadsBy inner .any tokens tree) :
    ReadsBy (operand inner) .operand (.operator .opening :: (tokens ++ [.operator .closing])) tree := by
  intro left _
  have one := reads (.operator .closing :: left) (ends_operator .any .closing left rfl)
  have mark : isOperator ")" (Lexeme.operator .closing).token = true :=
    (isOperator_token_iff .closing _).mpr rfl
  have shape : (tokens ++ [.operator .closing]) ++ left = tokens ++ .operator .closing :: left := by
    rw [List.append_assoc, List.singleton_append]
  rw [List.cons_append, List.map_cons, shape]
  show (inner ((tokens ++ .operator .closing :: left).map Lexeme.token) >>= _) = _
  rw [one]
  simp only [bind, Except.bind, List.map_cons]
  rw [if_pos mark]
  rfl

end Parts

-- The induction is on the derivation, for every depth that leaves room for all its tokens: parentheses take
-- one level and two tokens.
theorem Derives.reads {rule : Rule} {tokens : List Lexeme} {tree : Condition}
    (derived : Derives rule tokens tree) (depth : Nat) (enough : tokens.length ≤ depth) :
    ReadsBy (reader (nested depth) rule) rule tokens tree := by
  induction derived generalizing depth with
  | any operand operands one each =>
      rw [List.length_append] at enough
      apply chain_reads .either .any .any .all _ _ _ _ (one depth (by omega)) _ rfl rfl
      · intro o
        cases o <;> simp [goesOn]
      · intro part member
        have short := length_le_of_mem_following .either _ part member
        exact each part member depth (by omega)
  | all operand operands one each =>
      rw [List.length_append] at enough
      apply chain_reads .both .all .all .negation _ _ _ _ (one depth (by omega)) _ rfl rfl
      · intro o
        cases o <;> simp [goesOn]
      · intro part member
        have short := length_le_of_mem_following .both _ part member
        exact each part member depth (by omega)
  | negated operand ih =>
      exact negated_reads _ _ _ (ih depth (Nat.le_of_succ_le enough))
  | affirmed operand ih => exact affirmed_reads _ _ _ operand (ih depth enough)
  | compared relation first second one two =>
      rw [List.length_append, List.length_cons] at enough
      exact compared_reads _ _ _ _ _ relation (one depth (by omega)) (two depth (by omega))
  | alone operand ih => exact alone_reads _ _ _ (ih depth enough)
  | text t => exact fun left _ => operand_text (nested depth) t _
  | number n => exact fun left _ => operand_number (nested depth) n _
  | keyword known =>
      intro left _
      rw [← named_of_keyword _ _ known]
      exact operand_path (nested depth) _ _
  | path free =>
      intro left _
      rw [← named_chars _ free]
      exact operand_path (nested depth) _ _
  | group inside ih =>
      obtain ⟨depth, rfl⟩ : ∃ less, depth = less + 1 := ⟨depth - 1, by simp at enough; omega⟩
      rw [List.length_cons, List.length_append, List.length_singleton] at enough
      apply group_reads
      rw [nested, expression_eq]
      exact ih depth (by omega)

/-! ### Whole token lists -/

theorem derives_of_ofTokens (lexemes : List Lexeme) (tree : Condition)
    (read : ofTokens (lexemes.map Lexeme.token) = .ok tree) : Derives .any lexemes tree := by
  obtain ⟨⟨found, remaining⟩, first, second⟩ := (Attempt.bind_eq_ok_iff _ _ _).mp read
  obtain ⟨used, left, rfl, rfl, derived⟩ := expression_follows _ lexemes found remaining first
  cases left with
  | nil =>
      cases second
      rw [List.append_nil]
      exact derived
  | cons lexeme more => cases second

theorem ofTokens_of_derives (lexemes : List Lexeme) (tree : Condition) (derived : Derives .any lexemes tree) :
    ofTokens (lexemes.map Lexeme.token) = .ok tree := by
  have enough : lexemes.length ≤ (lexemes.map Lexeme.token).length := by rw [List.length_map]
  have read : anyOf (nested _) _ = _ := derived.reads _ enough [] fun _ next => by cases next
  rw [List.append_nil] at read
  rw [ofTokens, expression_eq, read]
  rfl

/-- For every list of written tokens, there is a tree exactly when the grammar derives the list as a
condition, and the tree is the one that is derived; no list has two. -/
theorem ofTokens_eq_ok_iff (lexemes : List Lexeme) :
    (∀ tree, ofTokens (lexemes.map Lexeme.token) = .ok tree ↔ Derives .any lexemes tree) ∧
      ∀ tree other, Derives .any lexemes tree → Derives .any lexemes other → tree = other := by
  constructor
  · intro tree
    exact ⟨derives_of_ofTokens lexemes tree, ofTokens_of_derives lexemes tree⟩
  · intro tree other derived derived'
    have read := ofTokens_of_derives lexemes tree derived
    rw [ofTokens_of_derives lexemes other derived'] at read
    exact (Except.ok.inj read).symm

end Condition

end ReportCompiler
