import ReportCompiler.Proofs.Binding.Interpolation

/-!
Texts that are one marker. Such a text gives the value of its path as it is, and the value is shown the way data
would be put into the text; but a line end after the marker is taken for a part of it, and is lost.
-/

namespace ReportCompiler

open ReportCompiler.Text

namespace Marker

/-- The text is one marker with a line end after it. -/
def IsLine (text : String) : Prop :=
  ∃ inside, text = braced inside ++ "\n" ∧ inside ≠ "" ∧ '\x7d' ∉ inside.toList

/-! ### Pieces of such texts -/

theorem Reads.eq_of_at? (chars inside after : List Char) (pieces : List Piece)
    (found : at? chars = some (inside, after)) (reads : Reads chars pieces) :
    ∃ rest, pieces = .marker inside :: rest ∧ Reads after rest := by
  cases reads with
  | nil => cases found
  | marker other later =>
      obtain ⟨rfl, rfl⟩ := Prod.mk.inj (Option.some.inj (found.symm.trans other))
      exact ⟨_, rfl, later⟩
  | plain unread later =>
      rw [unread] at found
      cases found

theorem Reads.eq_lineEnd (pieces : List Piece) (reads : Reads ['\n'] pieces) :
    pieces = [.plain '\n'] := by
  cases reads with
  | marker found later => cases found
  | plain unread later =>
      cases later with
      | nil => rfl
      | marker found last => cases found

theorem alone?_of_isLine (text : String) (line : IsLine text) : (alone? (pieces text)).isSome := by
  obtain ⟨inside, rfl, given, closed⟩ := line
  have found : at? (braced inside ++ "\n").toList = some (inside.toList, ['\n']) := by
    rw [at?_eq_some_iff]
    exact ⟨by simp [braced], by simpa using given, closed⟩
  obtain ⟨rest, whole, later⟩ := (reads_pieces (braced inside ++ "\n")).eq_of_at? _ _ _ _ found
  rw [whole, Reads.eq_lineEnd rest later]
  rfl

theorem not_isLine_braced (inside : String) : ¬ IsLine (braced inside) := by
  rintro ⟨other, same, -⟩
  have last := congrArg (fun text => text.toList.reverse.head?) same
  simp [braced] at last

theorem alone?_eq_some (pieces : List Piece) (path : String) (alone : alone? pieces = some path) :
    ∃ inside after, pieces = .marker inside :: after ∧ (after = [] ∨ after = [.plain '\n']) ∧
      path = trim (String.ofList inside) := by
  unfold alone? at alone
  split at alone
  · next piece =>
      cases piece with
      | plain c => cases alone
      | marker inside => exact ⟨inside, [], rfl, Or.inl rfl, (Option.some.inj alone).symm⟩
  · next piece =>
      cases piece with
      | plain c => cases alone
      | marker inside => exact ⟨inside, _, rfl, Or.inr rfl, (Option.some.inj alone).symm⟩
  · cases alone

/-- A text that gives the path of its one marker goes on with a line end, or with nothing. -/
theorem exists_of_alone? (text path : String) (alone : alone? (pieces text) = some path) :
    ∃ inside ending, path = trim inside ∧ path ∈ paths text ∧
      (∀ image, (Cut.ofPieces (pieces text)).fill image = image inside ++ ending) ∧
      ((ending = "" ∧ ¬ IsLine text) ∨ (ending = "\n" ∧ IsLine text)) := by
  obtain ⟨inside, after, only, ending, rfl⟩ := alone?_eq_some _ _ alone
  have listed : trim (String.ofList inside) ∈ paths text := by simp [paths, only, Piece.path?]
  have proper := Cut.proper_names _ _ (reads_pieces text) (String.ofList inside)
  have whole : (Cut.ofPieces (pieces text)).fill braced = text := by
    rw [Cut.fill_braced _ _ (reads_pieces text), String.ofList_toList]
  simp only [only, Cut.fill_ofPieces] at whole proper ⊢
  rcases ending with rfl | rfl
  · have bare : ¬ IsLine text := by
      rw [← whole]
      simpa [Piece.written] using not_isLine_braced (String.ofList inside)
    exact ⟨_, "", rfl, listed, fun image => by simp [Piece.written], Or.inl ⟨rfl, bare⟩⟩
  · have line : IsLine text :=
      ⟨String.ofList inside, by rw [← whole]; simp [Piece.written], proper List.mem_cons_self⟩
    exact ⟨_, "\n", rfl, listed, fun image => by simp [Piece.written], Or.inr ⟨rfl, line⟩⟩

/-! ### One marker and many -/

variable (data : Value)

/-- A text that is resolved is shown as it is interpolated, whether it gives the value of its one marker or a
text with data in it; but of a marker with a line end after it only the marker is left. -/
theorem resolve_shows_iff (text : String) (given : data.isNull = false)
    (readable : ∀ path ∈ paths text, Attempt.Succeeds (Path.resolve path data)) :
    ∃ value shown, resolve (.text text) data = .ok value ∧ interpolate text data = .ok shown ∧
      (value.display = shown ↔ ¬ IsLine text) ∧ (IsLine text → shown = value.display ++ "\n") := by
  have filled := interpolate_eq_fill data text given readable
  cases alone : alone? (pieces text) with
  | none =>
      -- The text is interpolated, and a text is shown as it is.
      have other : ¬ IsLine text := fun line => by
        have found := alone?_of_isLine text line
        rw [alone] at found
        cases found
      refine ⟨.text ((Cut.ofPieces (pieces text)).fill (image data)), _, ?_, filled,
        iff_of_true rfl other, fun line => absurd line other⟩
      simp only [resolve, alone, filled]
      rfl
  | some path =>
      obtain ⟨inside, ending, rfl, listed, fills, kinds⟩ := exists_of_alone? text path alone
      obtain ⟨value, found⟩ := readable (trim inside) listed
      have resolved : resolve (.text text) data = .ok value := by
        simp only [resolve, alone, found]
      have shown : image data inside = value.display := by rw [image, found]
      rw [fills, shown] at filled
      refine ⟨value, _, resolved, filled, ?_⟩
      rcases kinds with ⟨rfl, bare⟩ | ⟨rfl, line⟩
      · exact ⟨iff_of_true String.append_empty.symm bare, fun line => absurd line bare⟩
      · refine ⟨iff_of_false (fun same => ?_) (not_not_intro line), fun _ => rfl⟩
        simpa using congrArg String.length same

-- A list is kept as it is, and shown as it would be put into the text.
theorem resolve_shows_list :
    let data : Value := .object [("items", .list [.int 1, .text "a"])]
    let text := "\x7b\x7b data.items \x7d\x7d"
    data.isNull = false ∧ (∀ path ∈ paths text, Attempt.Succeeds (Path.resolve path data)) ∧
      ¬ IsLine text ∧ ∃ value, resolve (.text text) data = .ok value ∧ value.display = "[1,\"a\"]" := by
  intro data text
  have listed : paths text = ["data.items"] := by decide +kernel
  have readable : ∀ path ∈ paths text, Attempt.Succeeds (Path.resolve path data) := by
    rw [listed]
    exact List.forall_mem_singleton.mpr ⟨_, rfl⟩
  have bare : ¬ IsLine text := not_isLine_braced " data.items "
  have filled : interpolate text data = .ok "[1,\"a\"]" := by decide +kernel
  obtain ⟨value, shown, found, same, agrees, _⟩ := resolve_shows_iff data text rfl readable
  rw [filled] at same
  exact ⟨rfl, readable, bare, value, found, (agrees.mpr bare).trans (Except.ok.inj same).symm⟩

-- The line end belongs to the text and not to the marker, but only interpolation keeps it.
theorem resolve_drops_lineEnd :
    let data : Value := .object [("name", .text "Ada")]
    let text := "\x7b\x7bname\x7d\x7d\n"
    data.isNull = false ∧ (∀ path ∈ paths text, Attempt.Succeeds (Path.resolve path data)) ∧
      ¬ ((resolve (.text text) data).map Value.display = interpolate text data) := by
  intro data text
  have listed : paths text = ["name"] := by decide +kernel
  refine ⟨rfl, ?_, by decide +kernel⟩
  rw [listed]
  exact List.forall_mem_singleton.mpr ⟨_, rfl⟩

end Marker

end ReportCompiler
