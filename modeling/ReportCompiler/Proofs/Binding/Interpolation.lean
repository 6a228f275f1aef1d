import ReportCompiler.Proofs.Binding.Marker
import ReportCompiler.Proofs.Text.Cutting

/-!
Data in a text. The text is read from left to right, and each marker ends what stands between it and the one
before; only markers give way to data, and what the data brings along is not read again.
-/

namespace ReportCompiler

open ReportCompiler.Text

namespace Marker

/-- A text begins with a marker just when two braces open it, two close it, and what stands between them is
something without a closing brace. -/
theorem at?_eq_some_iff (chars inside after : List Char) :
    at? chars = some (inside, after) ↔
      chars = '\x7b' :: '\x7b' :: inside ++ '\x7d' :: '\x7d' :: after ∧ inside ≠ [] ∧ '\x7d' ∉ inside := by
  constructor
  · intro found
    refine ⟨eq_of_at? chars inside after found, ?_⟩
    unfold at? at found
    split at found
    · next rest =>
        simp only at found
        split at found
        · cases found
        · next nonempty =>
            split at found
            · obtain ⟨rfl, -⟩ := Prod.mk.inj (Option.some.inj found)
              refine ⟨by simpa using nonempty, fun member => ?_⟩
              have other := List.mem_takeWhile_imp member
              simp at other
            · cases found
    · cases found
  · rintro ⟨rfl, nonempty, absent⟩
    have all : ∀ c ∈ inside, (c != '\x7d') = true := fun c member => by
      rw [bne_iff_ne]
      rintro rfl
      exact absent member
    have run := takeWhile_run (· != '\x7d') inside ('\x7d' :: '\x7d' :: after) all (by simp)
    have left := dropWhile_run (· != '\x7d') inside ('\x7d' :: '\x7d' :: after) all (by simp)
    simp [at?, run, left, nonempty]

/-- Somewhere in the text stands a marker. -/
def IsIn (text : String) : Prop :=
  ∃ before inside after, text.toList = before ++ ('\x7b' :: '\x7b' :: inside ++ '\x7d' :: '\x7d' :: after) ∧
    inside ≠ [] ∧ '\x7d' ∉ inside

/-! ### Reading from left to right -/

/-- The pieces of a text: a marker wherever one begins, and else a single character. -/
inductive Reads : List Char → List Piece → Prop where
  | nil : Reads [] []
  | marker {chars inside after : List Char} {rest : List Piece} (found : at? chars = some (inside, after))
      (later : Reads after rest) : Reads chars (.marker inside :: rest)
  | plain {c : Char} {chars : List Char} {rest : List Piece} (none_ : at? (c :: chars) = none)
      (later : Reads chars rest) : Reads (c :: chars) (.plain c :: rest)

theorem length_after_lt (chars inside after : List Char) (found : at? chars = some (inside, after)) :
    after.length < chars.length := by
  rw [eq_of_at? chars inside after found]
  simp only [List.length_append, List.length_cons]
  omega

theorem reads_piecesFrom (fuel : Nat) (chars : List Char) (enough : chars.length ≤ fuel) :
    Reads chars (piecesFrom fuel chars) := by
  induction fuel generalizing chars with
  | zero =>
      obtain rfl := List.length_eq_zero_iff.mp (Nat.le_zero.mp enough)
      exact .nil
  | succ fuel ih =>
      cases chars with
      | nil => exact .nil
      | cons c rest =>
          rw [piecesFrom]
          split
          · next inside after found =>
              have shorter := length_after_lt _ inside after found
              exact .marker found (ih after (by omega))
          · next none_ => exact .plain none_ (ih rest (Nat.le_of_succ_le_succ enough))

theorem reads_pieces (text : String) : Reads text.toList (pieces text) :=
  reads_piecesFrom _ _ (Nat.le_refl _)

/-! ### Cutting at the markers -/

namespace Piece

/-- The piece with something in the place of a marker. -/
def written (image : String → String) : Piece → String
  | plain c => String.singleton c
  | marker inside => image (String.ofList inside)

end Piece

/-- The marker with this inside. -/
def braced (inside : String) : String := "\x7b\x7b" ++ inside ++ "\x7d\x7d"

theorem written_braced (piece : Piece) : piece.written braced = String.ofList piece.source := by
  apply String.toList_inj.mp
  cases piece <;> simp [Piece.written, Piece.source, braced]

end Marker

/-- A text with gaps in it: what comes before the first gap, and the name of each gap with what comes after. -/
structure Cut where
  front : String
  gaps : List (String × String)

namespace Cut

open Marker

def names (cut : Cut) : List String := cut.gaps.map Prod.fst

/-- What stands around the gaps. -/
def between (cut : Cut) : List String := cut.front :: cut.gaps.map Prod.snd

/-- The text with every gap filled. -/
def fill (cut : Cut) (image : String → String) : String :=
  cut.front ++ String.join (cut.gaps.map fun gap => image gap.1 ++ gap.2)

def cons : Piece → Cut → Cut
  | .plain c, cut => { front := String.singleton c ++ cut.front, gaps := cut.gaps }
  | .marker inside, cut => { front := "", gaps := (String.ofList inside, cut.front) :: cut.gaps }

def ofPieces : List Piece → Cut
  | [] => { front := "", gaps := [] }
  | piece :: rest => cons piece (ofPieces rest)

theorem fill_cons (piece : Piece) (cut : Cut) (image : String → String) :
    (cons piece cut).fill image = piece.written image ++ cut.fill image := by
  apply String.toList_inj.mp
  cases piece <;> simp [cons, fill, Piece.written, String.append_assoc]

theorem fill_ofPieces (pieces : List Piece) (image : String → String) :
    (ofPieces pieces).fill image = String.join (pieces.map (Piece.written image)) := by
  induction pieces with
  | nil => rfl
  | cons piece rest ih => rw [ofPieces, fill_cons, ih, List.map_cons, String.join_cons]

theorem paths_ofPieces (pieces : List Piece) :
    pieces.filterMap Piece.path? = (ofPieces pieces).names.map trim := by
  induction pieces with
  | nil => rfl
  | cons piece rest ih =>
      cases piece with
      | plain c => exact ih
      | marker inside => exact congrArg (trim (String.ofList inside) :: ·) ih

/-- The text in front of the first marker is where reading begins. -/
theorem front_prefix (chars : List Char) (pieces : List Piece) (reads : Reads chars pieces) :
    (ofPieces pieces).front.toList <+: chars := by
  induction reads with
  | nil => exact List.nil_prefix
  | marker found later ih => exact List.nil_prefix
  | plain none_ later ih =>
      rw [ofPieces, cons, String.toList_append, String.toList_singleton, List.singleton_append]
      exact List.prefix_cons_inj _ |>.mpr ih

-- A marker in the front would begin where reading has found none.
theorem not_isIn_front (chars : List Char) (pieces : List Piece) (reads : Reads chars pieces) :
    ¬ IsIn (ofPieces pieces).front := by
  induction reads with
  | nil =>
      rintro ⟨before, inside, after, whole, -⟩
      simp [ofPieces] at whole
  | marker found later ih =>
      rintro ⟨before, inside, after, whole, -⟩
      simp [ofPieces, cons] at whole
  | @plain c chars rest none_ later ih =>
      rintro ⟨before, inside, after, whole, proper⟩
      rw [ofPieces, cons, String.toList_append, String.toList_singleton, List.singleton_append] at whole
      cases before with
      | nil =>
          obtain ⟨more, left⟩ := front_prefix chars rest later
          rw [List.nil_append] at whole
          have found : at? (c :: chars) = some (inside, after ++ more) := by
            rw [at?_eq_some_iff, ← left, ← List.cons_append, whole]
            exact ⟨by simp, proper⟩
          rw [none_] at found
          cases found
      | cons d before =>
          obtain ⟨-, whole⟩ := List.cons.inj whole
          exact ih ⟨before, inside, after, whole, proper⟩

theorem not_isIn_between (chars : List Char) (pieces : List Piece) (reads : Reads chars pieces) :
    ∀ part ∈ (ofPieces pieces).between, ¬ IsIn part := by
  induction reads with
  | nil => exact List.forall_mem_singleton.mpr (not_isIn_front [] [] .nil)
  | marker found later ih =>
      exact List.forall_mem_cons.mpr ⟨not_isIn_front _ _ (.marker found later), ih⟩
  | plain none_ later ih =>
      exact List.forall_mem_cons.mpr
        ⟨not_isIn_front _ _ (.plain none_ later), (List.forall_mem_cons.mp ih).2⟩

theorem proper_names (chars : List Char) (pieces : List Piece) (reads : Reads chars pieces) :
    ∀ name ∈ (ofPieces pieces).names, name ≠ "" ∧ '\x7d' ∉ name.toList := by
  induction reads with
  | nil => exact fun _ member => by cases member
  | @marker chars inside after rest found later ih =>
      obtain ⟨-, nonempty, absent⟩ := (at?_eq_some_iff _ _ _).mp found
      exact List.forall_mem_cons.mpr ⟨⟨by simpa using nonempty, by simpa using absent⟩, ih⟩
  | plain none_ later ih => exact ih

theorem fill_braced (chars : List Char) (pieces : List Piece) (reads : Reads chars pieces) :
    (ofPieces pieces).fill braced = String.ofList chars := by
  apply String.toList_inj.mp
  rw [String.toList_ofList]
  induction reads with
  | nil => rfl
  | marker found later ih =>
      rw [ofPieces, fill_cons, String.toList_append, ih, written_braced, String.toList_ofList,
        eq_of_at? _ _ _ found]
      simp [Piece.source]
  | plain none_ later ih =>
      rw [ofPieces, fill_cons, String.toList_append, ih, written_braced, String.toList_ofList]
      rfl

end Cut

/-! ### Data in place of the markers -/

namespace Marker

variable (data : Value)

/-- What stands for a marker once data is there. -/
def image (inside : String) : String :=
  match Path.resolve (trim inside) data with
  | .ok value => value.display
  | .error _ => ""

theorem shown_eq_written (piece : Piece)
    (readable : ∀ path ∈ piece.path?, Attempt.Succeeds (Path.resolve path data)) :
    shown data piece = .ok (piece.written (image data)) := by
  cases piece with
  | plain c => rfl
  | marker inside =>
      obtain ⟨value, found⟩ := readable _ rfl
      simp [shown, Piece.path?, Piece.written, image, found, Except.map]

theorem interpolate_eq_fill (text : String) (given : data.isNull = false)
    (readable : ∀ path ∈ paths text, Attempt.Succeeds (Path.resolve path data)) :
    interpolate text data = .ok ((Cut.ofPieces (pieces text)).fill (image data)) := by
  have each : (pieces text).mapM (shown data) =
      (pieces text).mapM fun piece => Except.ok (piece.written (image data)) :=
    Attempt.mapM_congr _ _ _ fun piece member => shown_eq_written data piece fun path own =>
      readable path (List.mem_filterMap.mpr ⟨piece, member, own⟩)
  have all : (pieces text).mapM (shown data) = .ok ((pieces text).map (Piece.written (image data))) :=
    each.trans List.mapM_pure
  rw [interpolate, given, if_neg Bool.false_ne_true, all, Cut.fill_ofPieces]
  rfl

/-- Data takes the place of the markers of a text and of nothing else: the text is cut into markers and
what stands between them, which holds no marker; the paths of the text are those of the markers, and with
data in it the text differs only in what stands for each marker, which is put in as it is shown. Without
opening and closing braces a text has no markers. -/
theorem interpolate_replaces_markers (text : String) (given : data.isNull = false)
    (readable : ∀ path ∈ paths text, Attempt.Succeeds (Path.resolve path data)) :
    ∃ (cut : Cut) (image : String → String),
      text = cut.fill braced ∧
      (∀ part ∈ cut.between, ¬ IsIn part) ∧
      (∀ inside ∈ cut.names, inside ≠ "" ∧ '\x7d' ∉ inside.toList) ∧
      paths text = cut.names.map trim ∧
      (∀ inside ∈ cut.names, ∃ value, Path.resolve (trim inside) data = .ok value ∧
        image inside = value.display) ∧
      interpolate text data = .ok (cut.fill image) ∧
      (occursIn (.text text) = false → cut.names = []) := by
  have reads := reads_pieces text
  have listed : paths text = (Cut.ofPieces (pieces text)).names.map trim := Cut.paths_ofPieces _
  have whole : text = (Cut.ofPieces (pieces text)).fill braced := by
    rw [Cut.fill_braced _ _ reads, String.ofList_toList]
  refine ⟨Cut.ofPieces (pieces text), image data, whole, Cut.not_isIn_between _ _ reads,
    Cut.proper_names _ _ reads, listed, fun inside member => ?_,
    interpolate_eq_fill data text given readable, fun plain => ?_⟩
  · have own : trim inside ∈ paths text := listed ▸ List.mem_map_of_mem member
    obtain ⟨value, found⟩ := readable (trim inside) own
    exact ⟨value, found, by rw [image, found]⟩
  · rw [paths_of_not_occursIn text plain] at listed
    exact List.map_eq_nil_iff.mp listed.symm

/-- A marker with a brace of its own, and blanks around the path of another. -/
def bracedText : String := "\x7b\x7b\x7bx\x7d\x7d\x7d + \x7b\x7b y \x7d\x7d"

/-- The value of the first marker looks like the second. -/
def bracedData : Value := .object [("\x7bx", .text "\x7b\x7b y \x7d\x7d"), ("y", .int 3)]

theorem interpolate_replaces_markers_nested :
    bracedData.isNull = false ∧ paths bracedText = ["\x7bx", "y"] ∧
      (∀ path ∈ paths bracedText, Attempt.Succeeds (Path.resolve path bracedData)) ∧
      interpolate bracedText bracedData = .ok "\x7b\x7b y \x7d\x7d\x7d + 3" ∧
      ∃ (cut : Cut) (image : String → String), bracedText = cut.fill braced ∧
        cut.names.map trim = ["\x7bx", "y"] ∧ cut.fill image = "\x7b\x7b y \x7d\x7d\x7d + 3" := by
  have listed : paths bracedText = ["\x7bx", "y"] := by decide +kernel
  have readable : ∀ path ∈ paths bracedText, Attempt.Succeeds (Path.resolve path bracedData) := by
    rw [listed]
    exact List.forall_mem_cons.mpr ⟨⟨_, rfl⟩, List.forall_mem_singleton.mpr ⟨_, rfl⟩⟩
  have filled : interpolate bracedText bracedData = .ok "\x7b\x7b y \x7d\x7d\x7d + 3" := by
    decide +kernel
  obtain ⟨cut, image, whole, _, _, named, _, same, _⟩ :=
    interpolate_replaces_markers bracedData bracedText rfl readable
  rw [filled] at same
  exact ⟨rfl, listed, readable, filled, cut, image, whole, named.symm.trans listed,
    (Except.ok.inj same).symm⟩

end Marker

end ReportCompiler
