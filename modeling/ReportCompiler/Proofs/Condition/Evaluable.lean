import ReportCompiler.Proofs.Binding.Lookup
import ReportCompiler.Proofs.Condition.Composition

/-!
Which conditions have a value. Only a path can be without one, and it is looked up only while no operand before
it has decided the chain that it stands in.
-/

namespace ReportCompiler

open ReportCompiler.Text

namespace Condition

/-! ### Paths made of names -/

/-- A name as it stands between the points of a path. -/
def IsName (name : String) : Prop := name ≠ "" ∧ ∀ c ∈ name.toList, isNamePart c = true

theorem IsName.no_point {name : String} (named : IsName name) : '.' ∉ name.toList := by
  intro inside
  have part := named.2 '.' inside
  revert part
  decide

theorem solid_join_names (names : List String) (named : ∀ name ∈ names, IsName name) :
    ∀ c ∈ (join "." names).toList, isBlank c = false := by
  have shown : ∀ name, IsName name → ∀ c ∈ name.toList, isBlank c = false := by
    intro name own c member
    rw [Bool.eq_false_iff]
    intro blank
    have part := own.2 c member
    rw [isNamePart_of_isBlank c blank] at part
    cases part
  induction names with
  | nil => simp [join]
  | cons first rest ih =>
      obtain ⟨here, later⟩ := List.forall_mem_cons.mp named
      cases rest with
      | nil => simpa [join] using shown first here
      | cons second rest =>
          rw [join_cons_cons, String.toList_append, String.toList_append]
          refine List.forall_mem_append.mpr ⟨shown first here, List.forall_mem_append.mpr ⟨?_, ih later⟩⟩
          exact List.forall_mem_singleton.mpr (by decide : isBlank '.' = false)

/-- The names of a path that are looked up; `data` is left out where another name follows. -/
def lookedUp : List String → List String
  | first :: second :: rest => if first = "data" then second :: rest else first :: second :: rest
  | names => names

theorem split_join_names (first : String) (rest : List String) (named : ∀ name ∈ first :: rest, IsName name) :
    split '.' (join "." (first :: rest)) = first :: rest := by
  have parts := split_join '.' [] first rest List.not_mem_nil fun name member => (named name member).no_point
  simpa using parts

theorem startsWith_data_iff (name after : String) (named : IsName name) :
    startsWith (name ++ ("." ++ after)) "data." = true ↔ name = "data" := by
  constructor
  · intro starts
    obtain ⟨rest, whole⟩ := List.isPrefixOf_iff_prefix.mp starts
    rw [String.toList_append, String.toList_append] at whole
    have runs := congrArg (List.takeWhile (· != '.')) whole
    have own : ∀ c ∈ name.toList, (c != '.') = true := by
      intro c member
      rw [bne_iff_ne]
      rintro rfl
      exact named.no_point member
    rw [takeWhile_run (· != '.') name.toList _ own (by simp)] at runs
    apply String.toList_inj.mp
    rw [← runs]
    simp
  · rintro rfl
    exact List.isPrefixOf_iff_prefix.mpr ⟨after.toList, by simp⟩

theorem dropFront_data (after : String) : dropFront 5 ("data" ++ ("." ++ after)) = after := by
  apply String.toList_inj.mp
  simp [dropFront]

theorem split_normalize_join (names : List String) (named : ∀ name ∈ names, IsName name) (some_ : names ≠ []) :
    split '.' (Path.normalize (join "." names)) = lookedUp names := by
  rw [Path.normalize, trim_of_solid _ (solid_join_names names named)]
  cases names with
  | nil => exact absurd rfl some_
  | cons first rest =>
      obtain ⟨here, later⟩ := List.forall_mem_cons.mp named
      cases rest with
      | nil =>
          have apart : ¬ startsWith (join "." [first]) "data." = true := by
            intro starts
            have inside := (List.isPrefixOf_iff_prefix.mp starts).subset (show '.' ∈ "data.".toList by decide)
            simp only [join, String.intercalate_singleton] at inside
            exact here.no_point inside
          simp only [if_neg apart]
          exact split_join_names first [] named
      | cons second rest =>
          simp only [join_cons_cons, startsWith_data_iff _ _ here, lookedUp]
          split
          · next data =>
              rw [data, dropFront_data]
              exact split_join_names second rest later
          · rw [← join_cons_cons]
            exact split_join_names first (second :: rest) named

theorem join_names_ne_empty (names : List String) (named : ∀ name ∈ names, IsName name) (some_ : names ≠ []) :
    join "." names ≠ "" := by
  intro empty
  cases names with
  | nil => exact some_ rfl
  | cons first rest =>
      have parts := split_join_names first rest named
      rw [empty] at parts
      obtain ⟨rfl, _⟩ := List.cons.inj (show [""] = first :: rest from parts)
      exact (named "" List.mem_cons_self).1 rfl

/-- A path of names can be followed when its names can, one after the other. -/
theorem isReadable_join_iff (names : List String) (data : Value) (named : ∀ name ∈ names, IsName name)
    (some_ : names ≠ []) :
    Path.IsReadable (join "." names) data ↔ Path.IsWalkable (lookedUp names) data := by
  rw [Path.IsReadable, or_iff_right (join_names_ne_empty names named some_),
    split_normalize_join names named some_]

theorem lookedUp_append (names : List String) (last : String) (some_ : names ≠ []) (other : names ≠ ["data"]) :
    lookedUp (names ++ [last]) = lookedUp names ++ [last] := by
  match names with
  | [] => exact absurd rfl some_
  | [first] =>
      have alone : first ≠ "data" := fun same => other (by rw [same])
      simp [lookedUp, alone]
  | first :: second :: rest =>
      simp only [List.cons_append, lookedUp]
      split <;> rfl

-- The size of what `data` alone stands for is asked of the data, and of nothing in them.
theorem isWalkable_length_iff (names : List String) (data : Value) (some_ : names ≠ []) :
    Path.IsWalkable (lookedUp (names ++ ["length"])) data ↔ Path.IsWalkable (lookedUp names) data := by
  by_cases sole : names = ["data"]
  · subst sole
    exact iff_of_true (Path.isWalkable_single "length" (Path.not_looksLikeIndex _ rfl) data)
      (Path.isWalkable_single "data" (Path.not_looksLikeIndex _ rfl) data)
  · rw [lookedUp_append names "length" some_ sole]
    exact Path.isWalkable_append_iff "length" (Path.not_looksLikeIndex _ rfl) _ data

/-- A path of names that ends in `length` can be followed as far as what it gives the size of. -/
theorem isReadable_length_iff (names : List String) (data : Value) (some_ : names ≠ [])
    (named : ∀ name ∈ names ++ ["length"], IsName name) :
    Path.IsReadable (join "." (names ++ ["length"])) data ↔ Path.IsReadable (join "." names) data := by
  have own : ∀ name ∈ names, IsName name := fun name member => named name (List.mem_append_left _ member)
  rw [isReadable_join_iff _ data named (by simp), isReadable_join_iff names data own some_]
  exact isWalkable_length_iff names data some_

-- Where the path ends in `length`, it is looked up only if what stands before that has no size.
theorem findBackwards_succeeds_iff (names : List String) (data : Value) (named : ∀ name ∈ names, IsName name)
    (some_ : names ≠ []) :
    Attempt.Succeeds (findBackwards data names.reverse) ↔ Path.IsReadable (join "." names) data := by
  induction names using List.reverseRecOn with
  | nil => exact absurd rfl some_
  | append_singleton before last ih =>
      have whole := Path.find_succeeds_iff (join "." (before ++ [last])) data
      rw [List.reverse_append, List.reverse_singleton, List.singleton_append, findBackwards]
      simp only [List.reverse_cons, List.reverse_reverse, List.isEmpty_reverse]
      split
      · next root =>
          obtain ⟨rfl, rfl⟩ : last = "data" ∧ before = [] := by simpa using root
          refine iff_of_true (Attempt.succeeds_pure _) ((isReadable_join_iff _ data named some_).mpr ?_)
          exact Path.isWalkable_single "data" (Path.not_looksLikeIndex _ rfl) data
      · split
        · next size =>
            obtain ⟨rfl, more⟩ : last = "length" ∧ before ≠ [] := by simpa using size
            have own : ∀ name ∈ before, IsName name := fun name member =>
              named name (List.mem_append_left _ member)
            have grown := isReadable_length_iff before data more named
            rw [Attempt.succeeds_bind_iff_forall, ih own more, grown, and_iff_left_iff_imp]
            intro readable found _
            split
            · exact Attempt.succeeds_pure _
            · exact whole.mpr (grown.mpr readable)
        · exact whole

/-! ### Paths of conditions -/

namespace Route

def names (p : Route) : List String :=
  String.ofList (p.first :: p.more) :: p.further.map fun name => String.ofList name.2

theorem named (p : Route) : ∀ name ∈ p.names, IsName name := by
  have first : IsName (String.ofList (p.first :: p.more)) := by
    refine ⟨by simp, ?_⟩
    rw [String.toList_ofList]
    exact List.forall_mem_cons.mpr ⟨isNamePart_of_startsName p.first p.first_starts, p.more_parts⟩
  refine List.forall_mem_cons.mpr ⟨first, List.forall_mem_map.mpr fun name member => ?_⟩
  obtain ⟨given, parts⟩ := p.further_parts name member
  exact ⟨by simpa using given, by rw [String.toList_ofList]; exact parts⟩

theorem join_names (first : List Char) (further : List (Bool × List Char)) :
    join "." (String.ofList first :: further.map fun name => String.ofList name.2) =
      String.ofList (first ++ further.flatMap fun name => '.' :: name.2) := by
  induction further generalizing first with
  | nil => simp [join]
  | cons name rest ih =>
      rw [List.map_cons, join_cons_cons, ih name.2]
      apply String.toList_inj.mp
      simp

theorem path_eq_join (p : Route) : p.path = join "." p.names := (join_names (p.first :: p.more) p.further).symm

end Route

theorem findPath_succeeds_iff (p : Route) (data : Value) :
    Attempt.Succeeds (findPath p.path data) ↔ Path.IsReadable p.path data := by
  have parts : split '.' p.path = p.names := by
    rw [p.path_eq_join]
    exact split_join_names _ _ p.named
  rw [findPath, parts, findBackwards_succeeds_iff p.names data p.named (List.cons_ne_nil _ _), ← p.path_eq_join]

/-! ### Conditions -/

mutual

/-- The paths that decide the condition can be followed. -/
def CanBeEvaluated (data : Value) : Condition → Prop
  | literal _ => True
  | path p => Path.IsReadable p data
  | negation operand => CanBeEvaluated data operand
  | comparison _ left right => CanBeEvaluated data left ∧ CanBeEvaluated data right
  | all operands => ChainCanBeEvaluated data true operands
  | any operands => ChainCanBeEvaluated data false operands

/-- Operands up to the first that does not have the verdict with which the chain goes on. -/
def ChainCanBeEvaluated (data : Value) (verdict : Bool) : List Condition → Prop
  | [] => True
  | operand :: rest =>
      CanBeEvaluated data operand ∧ (Decides data operand verdict → ChainCanBeEvaluated data verdict rest)

end

section Chains

variable (data : Value) (operands : List Condition)
  (each : ∀ operand ∈ operands, Attempt.Succeeds (evaluate data operand) ↔ CanBeEvaluated data operand)

include each

theorem evaluateAll_succeeds_iff (last : Path.Found) :
    Attempt.Succeeds (evaluateAll data operands last) ↔ ChainCanBeEvaluated data true operands := by
  induction operands generalizing last with
  | nil => exact iff_of_true (Attempt.succeeds_ok _) (by rw [ChainCanBeEvaluated]; trivial)
  | cons operand rest ih =>
      obtain ⟨here, later⟩ := List.forall_mem_cons.mp each
      rw [evaluateAll, ChainCanBeEvaluated, ← here, Attempt.succeeds_bind_iff_forall]
      refine and_congr_right fun evaluated => ?_
      obtain ⟨found, value⟩ := evaluated
      simp only [Decides, value, Except.ok.injEq, forall_eq', exists_eq_left']
      split
      · next holds => simp only [holds, true_implies, ih later]
      · next fails => simp [fails]

theorem evaluateAny_succeeds_iff (last : Path.Found) :
    Attempt.Succeeds (evaluateAny data operands last) ↔ ChainCanBeEvaluated data false operands := by
  induction operands generalizing last with
  | nil => exact iff_of_true (Attempt.succeeds_ok _) (by rw [ChainCanBeEvaluated]; trivial)
  | cons operand rest ih =>
      obtain ⟨here, later⟩ := List.forall_mem_cons.mp each
      rw [evaluateAny, ChainCanBeEvaluated, ← here, Attempt.succeeds_bind_iff_forall]
      refine and_congr_right fun evaluated => ?_
      obtain ⟨found, value⟩ := evaluated
      simp only [Decides, value, Except.ok.injEq, forall_eq', exists_eq_left']
      split
      · next holds => simp [holds]
      · next fails => simp only [fails, true_implies, ih later]

end Chains

-- The induction is on the derivation, since only the paths in a text are known to be made of names.
/-- A condition with a text has a value just when the paths that decide it can be followed. -/
theorem evaluate_succeeds_iff {rule : Rule} {tokens : List Lexeme} {tree : Condition}
    (derived : Derives rule tokens tree) (data : Value) :
    Attempt.Succeeds (evaluate data tree) ↔ CanBeEvaluated data tree := by
  induction derived with
  | @any _ _ parts _ _ first others =>
      cases parts with
      | nil => exact first
      | cons part rest =>
          rw [List.map_cons, chained, evaluate, CanBeEvaluated]
          exact evaluateAny_succeeds_iff data _
            (List.forall_mem_cons.mpr ⟨first, List.forall_mem_map.mpr others⟩) .nothing
  | @all _ _ parts _ _ first others =>
      cases parts with
      | nil => exact first
      | cons part rest =>
          rw [List.map_cons, chained, evaluate, CanBeEvaluated]
          exact evaluateAll_succeeds_iff data _
            (List.forall_mem_cons.mpr ⟨first, List.forall_mem_map.mpr others⟩) .nothing
  | negated _ operand =>
      rw [evaluate, CanBeEvaluated, ← operand]
      exact Attempt.succeeds_bind_pure_iff _ _
  | compared relation _ _ first second =>
      rw [evaluate, CanBeEvaluated, ← first]
      refine Attempt.succeeds_bind_iff_and _ _ _ fun found => ?_
      rw [← second]
      exact Attempt.succeeds_bind_pure_iff _ _
  | affirmed _ operand => exact operand
  | alone _ operand => exact operand
  | group _ inside => exact inside
  | path _ => exact findPath_succeeds_iff _ data
  | _ => exact iff_of_true (Attempt.succeeds_ok _) (by rw [CanBeEvaluated]; trivial)

/-- The text is no condition, or a condition that has a value. -/
def TextCanBeEvaluated (text : String) (data : Value) : Prop :=
  ∀ tree, parse (trim text) = .ok tree → CanBeEvaluated data tree

theorem isMet_succeeds_iff (text : String) (data : Value) (given : data.isNull = false) :
    Attempt.Succeeds (isMet (.text text) data) ↔ TextCanBeEvaluated text data := by
  rw [isMet, given, Bool.or_false]
  split
  · next blank =>
      refine iff_of_true (Attempt.succeeds_ok _) fun tree parsed => ?_
      have solid := not_isBlankText_of_parse _ tree parsed
      rw [trim_of_blank text blank] at solid
      cases solid
  · split
    · next tree parsed =>
        obtain ⟨lexemes, _, derived⟩ := (parse_eq_ok_iff _ tree).mp parsed
        rw [Attempt.succeeds_map_iff, evaluate_succeeds_iff derived]
        simp only [TextCanBeEvaluated, parsed, Except.ok.injEq, forall_eq']
    · next flaw broken =>
        refine iff_of_true (Attempt.succeeds_ok _) fun tree parsed => ?_
        rw [broken] at parsed
        cases parsed

end Condition

end ReportCompiler
