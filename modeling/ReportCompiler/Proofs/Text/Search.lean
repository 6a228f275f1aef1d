import ReportCompiler.Text.Basic

/-!
Searching a text put together from pieces. A part that holds no line break is found in a line or
nowhere, and a piece whose ends fit nothing of the part can be passed over.
-/

namespace ReportCompiler.Text

/-! ### The first place -/

/-- The text after the first place where the part occurs. -/
def afterFirst? (part : List Char) : List Char → Option (List Char)
  | [] => if part.isEmpty then some [] else none
  | c :: rest =>
      if part.isPrefixOf (c :: rest) then some ((c :: rest).drop part.length)
      else afterFirst? part rest

/-- The text before the first place where the part occurs. -/
def upToFirst? (part : List Char) : List Char → Option (List Char)
  | [] => if part.isEmpty then some [] else none
  | c :: rest =>
      if part.isPrefixOf (c :: rest) then some [] else (upToFirst? part rest).map (c :: ·)

/-! ### Occurrences -/

theorem occurs_iff (part chars : List Char) : occurs part chars = true ↔ part <:+: chars := by
  induction chars with
  | nil => simp [occurs]
  | cons c rest ih => rw [occurs, Bool.or_eq_true, ih, List.isPrefixOf_iff_prefix, List.infix_cons_iff]

theorem occurs_eq_false_iff (part chars : List Char) : occurs part chars = false ↔ ¬ part <:+: chars := by
  rw [← occurs_iff, Bool.not_eq_true]

/-- A longer part occurs in fewer texts. -/
theorem occurs_eq_false_of_prefix {short long chars : List Char} (longer : short <+: long)
    (absent : occurs short chars = false) : occurs long chars = false := by
  rw [occurs_eq_false_iff] at absent ⊢
  exact fun inside => absent (longer.isInfix.trans inside)

/-- A prefix that holds no separator does not reach beyond the first separator. -/
theorem isPrefixOf_append_cons (part first rest : List Char) (separator : Char)
    (absent : separator ∉ part) :
    part.isPrefixOf (first ++ separator :: rest) = part.isPrefixOf first := by
  induction part generalizing first with
  | nil => cases first <;> rfl
  | cons c part ih =>
      obtain ⟨other, later⟩ := not_or.mp (fun member => absent (List.mem_cons.mpr member))
      cases first with
      | nil =>
          have different : (c == separator) = false := beq_eq_false_iff_ne.mpr (Ne.symm other)
          simp [List.isPrefixOf, different]
      | cons d first =>
          rw [List.cons_append, List.isPrefixOf, List.isPrefixOf, ih first later]

theorem occurs_append_cons (part first rest : List Char) (separator : Char)
    (nonempty : part ≠ []) (absent : separator ∉ part) :
    occurs part (first ++ separator :: rest) = (occurs part first || occurs part rest) := by
  have empty : part.isEmpty = false := by simpa using nonempty
  induction first with
  | nil =>
      have start := isPrefixOf_append_cons part [] rest separator absent
      rw [List.nil_append] at start
      have none : part.isPrefixOf [] = false := by
        cases part with
        | nil => exact absurd rfl nonempty
        | cons c part => rfl
      change (part.isPrefixOf (separator :: rest) || occurs part rest) =
        (part.isEmpty || occurs part rest)
      rw [start, none, empty]
  | cons c first ih =>
      have start := isPrefixOf_append_cons part (c :: first) rest separator absent
      rw [List.cons_append] at start ⊢
      rw [occurs, start, ih, occurs, Bool.or_assoc]

/-- Lines are searched one by one. -/
theorem occurs_join_lines (part : List Char) (nonempty : part ≠ []) (oneLine : '\n' ∉ part)
    (lines : List String) :
    occurs part (join "\n" lines).toList = lines.any fun line => occurs part line.toList := by
  have empty : part.isEmpty = false := by simpa using nonempty
  induction lines with
  | nil =>
      rw [join, String.intercalate_nil]
      exact empty
  | cons line lines ih =>
      cases lines with
      | nil =>
          rw [join, String.intercalate_singleton, List.any_cons, List.any_nil, Bool.or_false]
      | cons next lines =>
          rw [List.any_cons, ← ih, join, String.intercalate_cons_cons, String.toList_append,
            String.toList_append, List.append_assoc]
          exact occurs_append_cons part line.toList _ '\n' nonempty oneLine

/-- A line cut in two: its first half ends the lines before it. -/
theorem join_lines_cut (before : List String) (first second : String) (after : List String)
    (more : after ≠ []) :
    join "\n" (before ++ (first ++ second) :: after) =
      join "\n" (before ++ [first]) ++ second ++ "\n" ++ join "\n" after := by
  induction before with
  | nil =>
      rw [List.nil_append, List.nil_append, join, String.intercalate_cons_of_ne_nil more, join,
        String.intercalate_singleton, join]
  | cons line before ih =>
      rw [List.cons_append, List.cons_append, join, join,
        String.intercalate_cons_of_ne_nil (by simp), String.intercalate_cons_of_ne_nil (by simp)]
      rw [join, join] at ih
      rw [ih]
      simp only [String.append_assoc]

/-! ### Passing pieces over -/

/-- No end of the piece starts the part, and none is started by it. -/
def isApart (part : List Char) : List Char → Bool
  | [] => true
  | c :: rest =>
      !(c :: rest).isPrefixOf part && !part.isPrefixOf (c :: rest) && isApart part rest

theorem isPrefixOf_append_eq_false (part piece rest : List Char) (notStart : piece.isPrefixOf part = false)
    (notStarted : part.isPrefixOf piece = false) : part.isPrefixOf (piece ++ rest) = false := by
  induction part generalizing piece with
  | nil => cases piece <;> cases notStarted
  | cons c part ih =>
      cases piece with
      | nil => cases notStart
      | cons d piece =>
          rw [List.isPrefixOf] at notStart notStarted
          rw [List.cons_append, List.isPrefixOf]
          cases same : c == d with
          | false => rfl
          | true =>
              obtain rfl := beq_iff_eq.mp same
              rw [beq_self_eq_true, Bool.true_and] at notStart notStarted
              rw [Bool.true_and, ih piece notStart notStarted]

theorem occurs_append_of_isApart (part piece rest : List Char) (apart : isApart part piece = true) :
    occurs part (piece ++ rest) = occurs part rest := by
  induction piece with
  | nil => rfl
  | cons c piece ih =>
      simp only [isApart, Bool.and_eq_true, Bool.not_eq_true'] at apart
      obtain ⟨⟨notStart, notStarted⟩, later⟩ := apart
      have here := isPrefixOf_append_eq_false part (c :: piece) rest notStart notStarted
      rw [List.cons_append] at here ⊢
      rw [occurs, here, ih later, Bool.false_or]

/-- A piece without the part's first character is passed over. -/
theorem isApart_of_not_mem (first : Char) (part piece : List Char) (absent : first ∉ piece) :
    isApart (first :: part) piece = true := by
  induction piece with
  | nil => rfl
  | cons c piece ih =>
      obtain ⟨other, later⟩ := not_or.mp (fun member => absent (List.mem_cons.mpr member))
      have different : (c == first) = false := beq_eq_false_iff_ne.mpr (Ne.symm other)
      have different' : (first == c) = false := beq_eq_false_iff_ne.mpr other
      simp [isApart, List.isPrefixOf, different, different', ih later]

/-! ### Cutting at the first place -/

theorem isPrefixOf_append_self (part rest : List Char) : part.isPrefixOf (part ++ rest) = true := by
  rw [List.isPrefixOf_iff_prefix]
  exact List.prefix_append part rest

-- An earlier place would either lie in the text before, or reach into the part where it starts again.
theorem afterFirst?_append (first : Char) (more before rest : List Char) (once : first ∉ more)
    (absent : occurs (first :: more) before = false) :
    afterFirst? (first :: more) (before ++ (first :: more ++ rest)) = some rest := by
  induction before with
  | nil =>
      have here := isPrefixOf_append_self (first :: more) rest
      rw [List.nil_append, List.cons_append, afterFirst?, ← List.cons_append, if_pos here,
        List.drop_left]
  | cons c before ih =>
      rw [occurs, Bool.or_eq_false_iff] at absent
      have here : (first :: more).isPrefixOf (c :: before ++ (first :: more ++ rest)) = false := by
        rw [List.cons_append, List.isPrefixOf]
        cases same : first == c with
        | false => rfl
        | true =>
            have start := isPrefixOf_append_cons more before (more ++ rest) first once
            rw [Bool.true_and, List.cons_append, start]
            have notHere := absent.1
            rw [List.isPrefixOf, same, Bool.true_and] at notHere
            exact notHere
      rw [List.cons_append, afterFirst?, ← List.cons_append, if_neg (by rw [here]; exact Bool.false_ne_true),
        ih absent.2]

theorem upToFirst?_append (first : Char) (more before rest : List Char) (absent : first ∉ before) :
    upToFirst? (first :: more) (before ++ (first :: more ++ rest)) = some before := by
  induction before with
  | nil =>
      have here := isPrefixOf_append_self (first :: more) rest
      rw [List.nil_append, List.cons_append, upToFirst?, ← List.cons_append, if_pos here]
  | cons c before ih =>
      obtain ⟨other, later⟩ := not_or.mp (fun member => absent (List.mem_cons.mpr member))
      have different : (first == c) = false := beq_eq_false_iff_ne.mpr other
      have here : (first :: more).isPrefixOf (c :: (before ++ (first :: more ++ rest))) = false := by
        rw [List.isPrefixOf, different, Bool.false_and]
      rw [List.cons_append, upToFirst?, if_neg (by rw [here]; exact Bool.false_ne_true), ih later]
      rfl

end ReportCompiler.Text
