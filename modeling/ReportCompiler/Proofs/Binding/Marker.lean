import ReportCompiler.Binding.Marker
import ReportCompiler.Proofs.Binding.Lookup

/-!
Markers have braces: a text with a marker in it has two opening and two closing braces somewhere. Data can be
put into a text just when the paths of its markers can be followed.
-/

namespace ReportCompiler

open ReportCompiler.Text

theorem Text.occurs_append (part before after : List Char) :
    occurs part (before ++ part ++ after) = true := by
  induction before with
  | nil =>
      cases part with
      | nil => cases after <;> simp [occurs]
      | cons c rest => simp [occurs]
  | cons c rest ih => exact Bool.or_eq_true_iff.mpr (Or.inr ih)

namespace Marker

theorem eq_of_at? (chars inside after : List Char) (found : at? chars = some (inside, after)) :
    chars = '\x7b' :: '\x7b' :: inside ++ '\x7d' :: '\x7d' :: after := by
  unfold at? at found
  split at found
  · next rest =>
      simp only at found
      split at found
      · cases found
      · split at found
        · next closed =>
            obtain ⟨rfl, rfl⟩ := Prod.mk.inj (Option.some.inj found)
            have whole := List.takeWhile_append_dropWhile (p := (· != '\x7d')) (l := rest)
            rw [closed] at whole
            rw [List.cons_append, List.cons_append, whole]
        · cases found
  · cases found

theorem occurs_of_at? (chars inside after : List Char) (found : at? chars = some (inside, after)) :
    occurs "\x7b\x7b".toList chars = true ∧ occurs "\x7d\x7d".toList chars = true := by
  have whole := eq_of_at? chars inside after found
  constructor
  · have opened := occurs_append "\x7b\x7b".toList [] (inside ++ '\x7d' :: '\x7d' :: after)
    rw [whole]
    exact opened
  · have closed := occurs_append "\x7d\x7d".toList ('\x7b' :: '\x7b' :: inside) after
    rw [whole]
    simpa using closed

-- The induction is on the fuel; every piece stands at an end of the text, and what occurs there occurs.
theorem occurs_of_marker (fuel : Nat) (chars inside : List Char)
    (member : .marker inside ∈ piecesFrom fuel chars) :
    occurs "\x7b\x7b".toList chars = true ∧ occurs "\x7d\x7d".toList chars = true := by
  induction fuel generalizing chars with
  | zero => cases member
  | succ fuel ih =>
      cases chars with
      | nil => cases member
      | cons c rest =>
          rw [piecesFrom] at member
          split at member
          · next found => exact occurs_of_at? _ _ _ found
          · rcases List.mem_cons.mp member with impossible | later
            · cases impossible
            · obtain ⟨opened, closed⟩ := ih rest later
              exact ⟨Bool.or_eq_true_iff.mpr (Or.inr opened), Bool.or_eq_true_iff.mpr (Or.inr closed)⟩

/-- A text without braces has no paths. -/
theorem paths_of_not_occursIn (text : String) (plain : occursIn (.text text) = false) :
    paths text = [] := by
  refine List.filterMap_eq_nil_iff.mpr fun piece member => ?_
  cases piece with
  | plain c => rfl
  | marker inside =>
      obtain ⟨opened, closed⟩ := occurs_of_marker _ _ inside member
      have braced : occursIn (.text text) = true := Bool.and_eq_true_iff.mpr ⟨opened, closed⟩
      rw [plain] at braced
      cases braced

end Marker

/-! ### Data in a text -/

/-- Every marker of the text can be looked up. -/
def MarkersAreReadable (text : String) (data : Value) : Prop :=
  ∀ path ∈ Marker.paths text, Path.IsReadable path data

theorem markersAreReadable_of_not_occursIn (text : String) (data : Value)
    (plain : Marker.occursIn (.text text) = false) : MarkersAreReadable text data := by
  rw [MarkersAreReadable, Marker.paths_of_not_occursIn text plain]
  simp

namespace Marker

theorem shown_succeeds_iff (data : Value) (piece : Piece) :
    Attempt.Succeeds (shown data piece) ↔ ∀ path ∈ piece.path?, Path.IsReadable path data := by
  unfold shown
  cases piece.path? with
  | none => simp
  | some path => simp [Path.resolve_succeeds_iff]

theorem interpolate_succeeds_iff (text : String) (data : Value) (given : data.isNull = false) :
    Attempt.Succeeds (interpolate text data) ↔ MarkersAreReadable text data := by
  rw [interpolate, given, if_neg Bool.false_ne_true, Attempt.succeeds_bind_pure_iff,
    Attempt.succeeds_mapM_iff, MarkersAreReadable, paths]
  simp only [shown_succeeds_iff, List.mem_filterMap, Option.mem_def]
  exact ⟨fun each path ⟨piece, member, read⟩ => each piece member path read,
    fun each piece member path read => each path ⟨piece, member, read⟩⟩

end Marker

end ReportCompiler
