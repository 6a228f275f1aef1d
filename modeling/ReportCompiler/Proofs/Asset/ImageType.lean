import ReportCompiler.Asset.Fetch
import ReportCompiler.Proofs.Text.Case
import ReportCompiler.Proofs.Text.Cutting
import ReportCompiler.Proofs.Text.Search

/-!
The type of an image that comes without one. It is believed from the address, and a query behind the address is
passed over as long as it has no point: the last point of the whole decides, wherever it stands.
-/

namespace ReportCompiler

open ReportCompiler.Text

namespace Asset

/-! ### Types by address -/

theorem isBoundary_question : IsBoundary '?' where
  low := ⟨by decide, by simp [IsSpecial]⟩
  uncased := by decide +kernel
  noticed := by decide +kernel

theorem beforeFirst_lower_query (extension query : String) :
    beforeFirst '?' (lower (extension ++ "?" ++ query)) = beforeFirst '?' (lower extension) := by
  obtain ⟨more, cut⟩ := lowerFrom_append [] extension.toList query.toList '?' isBoundary_question
  have spelled : (extension ++ "?" ++ query).toList = extension.toList ++ '?' :: query.toList := by simp
  rw [beforeFirst, beforeFirst, lower, lower, String.toList_ofList, String.toList_ofList, lowerChars, lowerChars,
    spelled, cut, takeWhile_append_cons _ _ more '?' (by decide)]

/-- A query without a point does not count; in one with a point, it is the query that counts. -/
theorem typeOf_query (address query : String) :
    typeOf (address ++ "?" ++ query) = if '.' ∈ query.toList then typeOf query else typeOf address := by
  split
  · next pointed =>
      rw [typeOf, extension, afterLast_append_of_mem '.' _ query pointed]
      rfl
  · next plain =>
      have absent : '.' ∉ ("?" ++ query).toList := by simpa using plain
      rw [typeOf, extension, String.append_assoc, afterLast_append_of_not_mem '.' address _ absent,
        ← String.append_assoc, beforeFirst_lower_query]
      rfl

theorem typeOf_mem (url : String) : typeOf url ∈ "image/png" :: types.map Prod.snd := by
  rw [typeOf]
  cases known : types.lookup (extension url) with
  | none => exact List.mem_cons_self
  | some type =>
      obtain ⟨before, after, whole, _⟩ := List.lookup_eq_some_iff.mp known
      have listed : (extension url, type) ∈ types := whole ▸ List.mem_append_right before List.mem_cons_self
      exact List.mem_cons_of_mem _ (List.mem_map_of_mem listed)

theorem semicolon_not_mem_typeOf (url : String) : ';' ∉ (typeOf url).toList := by
  have all : ∀ type ∈ "image/png" :: types.map Prod.snd, ';' ∉ type.toList := by decide +kernel
  exact all _ (typeOf_mem url)

/-! ### Types in addresses that hold an image -/

/-- The type that an address gives for the image in it. -/
def heldType (image : String) : String := beforeFirst ';' (dropFront "data:".length image)

theorem heldType_dataUrl (type : String) (bytes : List UInt8) (plain : ';' ∉ type.toList) :
    heldType (dataUrl type bytes) = type := by
  have whole : (dataUrl type bytes).toList =
      "data:".toList ++ (type.toList ++ ';' :: ("base64,".toList ++ (Base64.encode bytes).toList)) := by
    simp [dataUrl]
  have dropped : (dataUrl type bytes).toList.drop "data:".length =
      type.toList ++ ';' :: ("base64,".toList ++ (Base64.encode bytes).toList) := by
    rw [whole]
    exact List.drop_left
  have all : ∀ c ∈ type.toList, (c != ';') = true :=
    fun c member => bne_iff_ne.mpr (ne_of_mem_of_not_mem member plain)
  rw [heldType, beforeFirst, dropFront, String.toList_ofList, dropped, takeWhile_run _ _ _ all (by simp),
    String.ofList_toList]

theorem heldType_typeOf (url : String) (bytes : List UInt8) : heldType (dataUrl (typeOf url) bytes) = typeOf url :=
  heldType_dataUrl _ bytes (semicolon_not_mem_typeOf url)

/-- A query does not make an address hold the image itself. -/
theorem isData_query (address query : String) : isData (address ++ "?" ++ query) = isData address := by
  have spelled : (address ++ "?" ++ query).toList = address.toList ++ '?' :: query.toList := by simp
  rw [isData, isData, startsWith, startsWith, spelled, isPrefixOf_append_cons _ _ _ '?' (by decide)]

/-! ### Responses without a type -/

/-- A successful response that does not say what it holds. -/
structure Response.IsUntyped (r : Response) : Prop where
  success : r.isSuccess = true
  untyped : r.contentType = ""

theorem embed_of_isUntyped (client : Client) (url : String) (r : Response) (outside : isData url = false)
    (answered : client url = .response r) (untyped : r.IsUntyped) :
    (embed client url).run = .ok (dataUrl (typeOf url) r.body) := by
  have asked : (embed client url).run = ofReply url (client url) := by
    simp only [embed, outside]
    rfl
  rw [asked, answered, ofReply, ofResponse, untyped.success, untyped.untyped]
  rfl

/-- An image that comes without a type is held under the type of its address, and behind a query it is held under
the same one unless the query has a point: then the end of the query decides, as if it were the address. -/
theorem embed_query_type_iff (client : Client) (address query : String) (plain queried : Response)
    (outside : isData address = false)
    (answered : client address = .response plain) (untyped : plain.IsUntyped)
    (answeredQuery : client (address ++ "?" ++ query) = .response queried) (untypedQuery : queried.IsUntyped) :
    ∃ image imageOfQuery, (embed client address).run = .ok image ∧
      (embed client (address ++ "?" ++ query)).run = .ok imageOfQuery ∧
      heldType image = typeOf address ∧
      heldType imageOfQuery = (if '.' ∈ query.toList then typeOf query else typeOf address) ∧
      (heldType imageOfQuery = heldType image ↔ ('.' ∈ query.toList → typeOf query = typeOf address)) := by
  have outsideQuery : isData (address ++ "?" ++ query) = false := by rw [isData_query, outside]
  have held := heldType_typeOf address plain.body
  have heldOfQuery : heldType (dataUrl (typeOf (address ++ "?" ++ query)) queried.body) =
      if '.' ∈ query.toList then typeOf query else typeOf address := by
    rw [heldType_typeOf, typeOf_query]
  refine ⟨_, _, embed_of_isUntyped client address plain outside answered untyped,
    embed_of_isUntyped client _ queried outsideQuery answeredQuery untypedQuery, held, heldOfQuery, ?_⟩
  rw [held, heldOfQuery]
  split
  · next pointed => exact ⟨fun same _ => same, fun given => given pointed⟩
  · next noPoint => exact ⟨fun _ pointed => absurd pointed noPoint, fun _ => rfl⟩

/-- A query with slashes and question marks, and no point. -/
theorem embed_query_type_pointless :
    let silent : Response := { status := 200, headers := [], body := [71, 73, 70] }
    let client : Client := fun _ => .response silent
    let query := "from=/a/b?v=2"
    '.' ∉ query.toList ∧
      ∃ image imageOfQuery, (embed client "http://cdn.test/logo.SVG").run = .ok image ∧
        (embed client ("http://cdn.test/logo.SVG" ++ "?" ++ query)).run = .ok imageOfQuery ∧
        heldType imageOfQuery = heldType image := by
  intro silent client query
  have pointless : '.' ∉ query.toList := by decide
  have untyped : silent.IsUntyped := ⟨rfl, by decide +kernel⟩
  obtain ⟨image, imageOfQuery, made, madeOfQuery, _, _, same⟩ :=
    embed_query_type_iff client "http://cdn.test/logo.SVG" query silent silent (by decide) rfl untyped rfl untyped
  exact ⟨pointless, image, imageOfQuery, made, madeOfQuery, same.mpr fun pointed => absurd pointed pointless⟩

/-- A version number in the query hides the extension of the address: what was a JPEG is held as a PNG. -/
theorem embed_query_loses_type :
    let silent : Response := { status := 200, headers := [], body := [255, 216, 255] }
    let client : Client := fun _ => .response silent
    let address := "http://cdn.test/photo.jpg"
    '?' ∉ address.toList ∧ silent.IsUntyped ∧
      (embed client address).run = .ok "data:image/jpeg;base64,/9j/" ∧
      (embed client (address ++ "?" ++ "v=1.5")).run = .ok "data:image/png;base64,/9j/" := by
  intro silent client address
  exact ⟨by decide, ⟨rfl, by decide +kernel⟩, by decide +kernel, by decide +kernel⟩

end Asset

end ReportCompiler
