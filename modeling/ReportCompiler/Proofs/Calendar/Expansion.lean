import Mathlib.Data.List.Chain
import Mathlib.Data.List.Find
import ReportCompiler.Calendar.Pattern

/-!
Date patterns as they are written: tokens, and text between them. A token is a run of one letter, so the longest
token at its place is the token itself, as long as the letter does not go on behind it; and what has been put in
for a token is not looked at again.
-/

namespace ReportCompiler

namespace DatePattern

/-! ### Tokens as runs -/

/-- The letters that tokens are made of. -/
def letters : List Char := ['y', 'M', 'd', 'H', 'm', 's']

namespace Token

/-- The letter that a token repeats. -/
def letter : Token → Char
  | year => 'y'
  | monthName => 'M'
  | shortMonthName => 'M'
  | month => 'M'
  | dayName => 'd'
  | shortDayName => 'd'
  | day => 'd'
  | hour => 'H'
  | minute => 'm'
  | second => 's'

/-- How often a token repeats its letter. -/
def width (token : Token) : Nat := token.spelling.length

theorem toList_spelling (token : Token) : token.spelling.toList = List.replicate token.width token.letter := by
  cases token <;> rfl

theorem width_pos (token : Token) : 0 < token.width := by
  cases token <;> decide

theorem letter_mem (token : Token) : token.letter ∈ letters := by
  cases token <;> decide

theorem replicate_prefix_run_iff (wanted letter : Char) (count width : Nat) (rest : List Char)
    (some_ : 0 < count) (run : 0 < width) (ends : letter ∉ rest.head?) :
    List.replicate count wanted <+: List.replicate width letter ++ rest ↔ wanted = letter ∧ count ≤ width := by
  constructor
  · intro begins
    have same : wanted = letter := by
      rw [← Nat.succ_pred_eq_of_pos some_, ← Nat.succ_pred_eq_of_pos run, List.replicate_succ,
        List.replicate_succ, List.cons_append] at begins
      exact (List.cons_prefix_cons.mp begins).1
    subst same
    refine ⟨rfl, Nat.le_of_not_lt fun longer => ends ?_⟩
    -- What is too long for the run would have to go on in the rest.
    obtain ⟨beyond, rfl⟩ := Nat.exists_eq_add_of_lt longer
    rw [Nat.add_assoc, List.replicate_add, List.prefix_append_right_inj, List.replicate_succ] at begins
    obtain ⟨after, whole⟩ := begins
    rw [← whole]
    rfl
  · rintro ⟨rfl, fits⟩
    obtain ⟨more, rfl⟩ := Nat.exists_eq_add_of_le fits
    rw [List.replicate_add, List.append_assoc]
    exact List.prefix_append _ _

/-- At a run of a letter stands the first of the tokens that repeat it no more often. -/
theorem at?_run (letter : Char) (width : Nat) (rest : List Char) (run : 0 < width) (ends : letter ∉ rest.head?) :
    at? (List.replicate width letter ++ rest) =
      all.find? fun token => token.letter = letter ∧ token.width ≤ width := by
  apply List.find?_congr
  intro token _
  rw [Bool.eq_iff_iff, List.isPrefixOf_iff_prefix, toList_spelling, decide_eq_true_iff]
  exact replicate_prefix_run_iff token.letter letter token.width width rest token.width_pos run ends

/-- A token is found where it is written, unless its letter goes on behind it. -/
theorem at?_spelling (token : Token) (rest : List Char) (ends : token.letter ∉ rest.head?) :
    at? (token.spelling.toList ++ rest) = some token := by
  rw [toList_spelling, at?_run token.letter token.width rest token.width_pos ends]
  cases token <;> decide

theorem at?_of_plain (c : Char) (rest : List Char) (plain : c ∉ letters) : at? (c :: rest) = none := by
  refine List.find?_eq_none.mpr fun token _ begins => plain ?_
  rw [List.isPrefixOf_iff_prefix, toList_spelling, ← Nat.succ_pred_eq_of_pos token.width_pos,
    List.replicate_succ] at begins
  rw [← (List.cons_prefix_cons.mp begins).1]
  exact token.letter_mem

end Token

/-! ### One piece in front of any rest -/

section Steps

variable (m : Moment) (rest : List Char)

theorem expandFrom_append (skipped : List Char) :
    expandFrom m skipped.length (skipped ++ rest) = expandFrom m 0 rest := by
  induction skipped with
  | nil => rfl
  | cons c skipped ih => exact ih

theorem expandFrom_token (token : Token) (ends : token.letter ∉ rest.head?) :
    expandFrom m 0 (token.spelling.toList ++ rest) = (token.value m).toList ++ expandFrom m 0 rest := by
  have found := token.at?_spelling rest ends
  have length : (List.replicate token.width.pred token.letter).length = token.spelling.length - 1 :=
    List.length_replicate
  rw [token.toList_spelling, ← Nat.succ_pred_eq_of_pos token.width_pos, List.replicate_succ,
    List.cons_append] at found ⊢
  simp only [expandFrom, found]
  rw [← length, expandFrom_append]

theorem expandFrom_plain (text : List Char) (plain : ∀ c ∈ text, c ∉ letters) :
    expandFrom m 0 (text ++ rest) = text ++ expandFrom m 0 rest := by
  induction text with
  | nil => rfl
  | cons c text ih =>
      obtain ⟨here, later⟩ := List.forall_mem_cons.mp plain
      have none_ := Token.at?_of_plain c (text ++ rest) here
      rw [List.cons_append, List.cons_append, ← ih later]
      simp only [expandFrom, none_]

end Steps

/-! ### Patterns piece by piece -/

/-- A piece of a pattern: a token, or text that stands for itself. -/
inductive Piece where
  | token (part : Token)
  | literal (text : String)
deriving DecidableEq, Repr

namespace Piece

def spelling : Piece → String
  | .token part => part.spelling
  | .literal text => text

/-- What the piece comes to at a moment. -/
def value (m : Moment) : Piece → String
  | .token part => part.value m
  | .literal text => text

/-- Text that stands for itself has none of the letters of tokens. -/
def IsPlain : Piece → Prop
  | .token _ => True
  | .literal text => ∀ c ∈ text.toList, c ∉ letters

instance : DecidablePred IsPlain
  | .token _ => .isTrue trivial
  | .literal text => List.decidableBAll (· ∉ letters) text.toList

/-- Two pieces may stand side by side unless they are tokens of the same letter. -/
def IsApart : Piece → Piece → Prop
  | .token before, .token after => before.letter ≠ after.letter
  | _, _ => True

instance : DecidableRel IsApart
  | .token before, .token after => inferInstanceAs (Decidable (before.letter ≠ after.letter))
  | .token _, .literal _ => .isTrue trivial
  | .literal _, _ => .isTrue trivial

/-- Whether the piece leaves anything in the pattern; an empty text does not keep its neighbours apart. -/
def isWritten (piece : Piece) : Bool := piece.spelling != ""

theorem eq_empty_of_not_isWritten (piece : Piece) (empty : piece.isWritten = false) : piece = .literal "" := by
  have nothing : piece.spelling = "" := by simpa [isWritten] using empty
  cases piece with
  | token part => exact absurd (congrArg String.length nothing) part.width_pos.ne'
  | literal text => exact congrArg literal nothing

theorem letter_not_mem_head? (token : Token) (next : Piece) (apart : IsApart (.token token) next)
    (plain : next.IsPlain) : token.letter ∉ next.spelling.toList.head? := by
  intro first
  cases next with
  | token part =>
      rw [spelling, part.toList_spelling, List.head?_replicate, if_neg part.width_pos.ne', Option.mem_some] at first
      exact apart first.symm
  | literal text => exact plain token.letter (List.mem_of_mem_head? first) token.letter_mem

end Piece

-- The induction is on the pieces; that neighbours are apart says that no token goes on behind itself.
theorem expandFrom_pieces (m : Moment) (pieces : List Piece) (plain : ∀ piece ∈ pieces, piece.IsPlain)
    (written : ∀ piece ∈ pieces, piece.isWritten = true) (apart : pieces.IsChain Piece.IsApart) :
    expandFrom m 0 (pieces.flatMap fun piece => piece.spelling.toList) =
      pieces.flatMap fun piece => (piece.value m).toList := by
  induction pieces with
  | nil => rfl
  | cons piece rest ih =>
      obtain ⟨here, later⟩ := List.forall_mem_cons.mp plain
      obtain ⟨_, writtenLater⟩ := List.forall_mem_cons.mp written
      obtain ⟨neighbour, others⟩ := List.isChain_cons.mp apart
      rw [List.flatMap_cons, List.flatMap_cons, ← ih later writtenLater others]
      cases piece with
      | literal text => exact expandFrom_plain m _ text.toList here
      | token token =>
          refine expandFrom_token m _ token ?_
          cases rest with
          | nil => simp
          | cons next more =>
              have filled : next.spelling.toList ≠ [] := by
                simpa [Piece.isWritten] using writtenLater next List.mem_cons_self
              rw [List.flatMap_cons, List.head?_append_of_ne_nil _ filled]
              exact next.letter_not_mem_head? token (neighbour next rfl) (later next List.mem_cons_self)

theorem flatMap_filter_isWritten (text : Piece → List Char) (pieces : List Piece)
    (empty : text (.literal "") = []) : (pieces.filter Piece.isWritten).flatMap text = pieces.flatMap text := by
  induction pieces with
  | nil => rfl
  | cons piece rest ih =>
      cases written : piece.isWritten with
      | true => rw [List.filter_cons_of_pos written, List.flatMap_cons, List.flatMap_cons, ih]
      | false =>
          rw [List.filter_cons_of_neg (by simp [written]), List.flatMap_cons, ih,
            piece.eq_empty_of_not_isWritten written, empty, List.nil_append]

/-- A pattern of tokens and texts without their letters, in which no token stands next to one of the same letter,
is expanded piece by piece: every token gives its own value, every text itself, and nothing that a token gives is
expanded again. -/
theorem format_pieces (m : Moment) (pieces : List Piece) (plain : ∀ piece ∈ pieces, piece.IsPlain)
    (apart : (pieces.filter Piece.isWritten).IsChain Piece.IsApart) :
    format (String.join (pieces.map Piece.spelling)) m = String.join (pieces.map (Piece.value m)) := by
  have spelled := flatMap_filter_isWritten (fun piece => piece.spelling.toList) pieces rfl
  have valued := flatMap_filter_isWritten (fun piece => (piece.value m).toList) pieces rfl
  apply String.toList_inj.mp
  rw [format, String.toList_ofList, String.toList_join, String.toList_join, List.flatMap_map, List.flatMap_map,
    ← spelled, ← valued]
  exact expandFrom_pieces m _ (fun piece member => plain piece (List.mem_of_mem_filter member))
    (fun piece member => List.of_mem_filter member) apart

/-- A day name that ends in the letter of a year, a month next to it, and minutes after hours. -/
theorem format_pieces_names :
    let pieces : List Piece :=
      [.token .dayName, .token .monthName, .literal " ", .token .day, .literal "", .token .year, .literal ", at ",
        .token .hour, .token .minute]
    let moment : Moment := { Date.midnight { year := 987, month := 5, day := 4 } with hour := 9, minute := 7 }
    (∀ piece ∈ pieces, piece.IsPlain) ∧ (pieces.filter Piece.isWritten).IsChain Piece.IsApart ∧
      format "ddddMMMM ddyyyy, at HHmm" moment = "FridayMay 040987, at 0907" := by
  intro pieces moment
  have plain : ∀ piece ∈ pieces, piece.IsPlain := by decide
  have apart : (pieces.filter Piece.isWritten).IsChain Piece.IsApart := by decide
  have spelled : String.join (pieces.map Piece.spelling) = "ddddMMMM ddyyyy, at HHmm" := by decide +kernel
  have valued : String.join (pieces.map (Piece.value moment)) = "FridayMay 040987, at 0907" := by decide +kernel
  refine ⟨plain, apart, ?_⟩
  rw [← spelled, ← valued]
  exact format_pieces moment pieces plain apart

end DatePattern

end ReportCompiler
