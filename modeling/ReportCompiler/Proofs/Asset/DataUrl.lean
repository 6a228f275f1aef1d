import ReportCompiler.Proofs.Asset.Base64
import ReportCompiler.Proofs.Asset.ImageType

/-!
Addresses that hold an image, taken apart again. The first comma ends the header, so a type with a comma in it
spoils the address; every other type that a response can name leaves an address from which the image is read back.
-/

namespace ReportCompiler

open ReportCompiler.Text

namespace Asset

/-! ### Taking an address apart -/

/-- What follows the first comma. -/
def payload (image : String) : String :=
  String.ofList ((image.toList.dropWhile (· != ',')).drop 1)

/-- The address names an image type and base 64 in front of its first comma, and what follows the comma is read
back as the bytes. -/
structure Holds (image : String) (bytes : List UInt8) : Prop where
  header : ∃ type, startsWith type "image/" = true ∧ beforeFirst ',' image = "data:" ++ type ++ ";base64"
  payload : Base64.decode? (payload image) = some bytes

section Cut

variable (image : String) (before after : List Char)

theorem beforeFirst_comma (whole : image.toList = before ++ ',' :: after) (absent : ',' ∉ before) :
    beforeFirst ',' image = String.ofList before := by
  have all : ∀ c ∈ before, (c != ',') = true :=
    fun c member => bne_iff_ne.mpr (ne_of_mem_of_not_mem member absent)
  rw [beforeFirst, whole, takeWhile_run _ _ _ all (by simp)]

theorem payload_comma (whole : image.toList = before ++ ',' :: after) (absent : ',' ∉ before) :
    payload image = String.ofList after := by
  have all : ∀ c ∈ before, (c != ',') = true :=
    fun c member => bne_iff_ne.mpr (ne_of_mem_of_not_mem member absent)
  rw [payload, whole, dropWhile_run _ _ _ all (by simp)]
  rfl

end Cut

theorem semicolon_not_mem_of_decode? (text : String) (bytes : List UInt8)
    (read : Base64.decode? text = some bytes) : ';' ∉ text.toList := by
  intro inside
  have unread : ¬ (';' = '=' ∨ ';' ∈ Base64.alphabet) := by decide
  exact unread (Base64.mem_of_decodeChars? _ bytes read ';' inside)

/-- An image is read back from its address unless its type has a comma. -/
theorem holds_dataUrl_iff (type : String) (bytes : List UInt8) (typed : startsWith type "image/" = true) :
    Holds (dataUrl type bytes) bytes ↔ ',' ∉ type.toList := by
  constructor
  · intro holds comma
    -- Behind the first comma of the type stands the semicolon that ends it, and that is no part of base 64.
    obtain ⟨before, after, parts, first⟩ := List.eq_append_cons_of_mem comma
    have whole : (dataUrl type bytes).toList = ("data:".toList ++ before) ++
        ',' :: (after ++ ";base64,".toList ++ (Base64.encode bytes).toList) := by
      simp [dataUrl, parts]
    have absent : ',' ∉ "data:".toList ++ before := by simpa using first
    have read := holds.payload
    rw [payload_comma _ _ _ whole absent] at read
    exact semicolon_not_mem_of_decode? _ bytes read (by simp)
  · intro plain
    have whole : (dataUrl type bytes).toList = ("data:" ++ type ++ ";base64").toList ++
        ',' :: (Base64.encode bytes).toList := by
      simp [dataUrl]
    have absent : ',' ∉ ("data:" ++ type ++ ";base64").toList := by simpa using plain
    constructor
    · exact ⟨type, typed, by rw [beforeFirst_comma _ _ _ whole absent, String.ofList_toList]⟩
    · rw [payload_comma _ _ _ whole absent, String.ofList_toList, Base64.decode?_encode]

/-! ### Types of responses -/

theorem startsWith_typeOf (url : String) : startsWith (typeOf url) "image/" = true := by
  have all : ∀ type ∈ "image/png" :: types.map Prod.snd, startsWith type "image/" = true := by decide +kernel
  exact all _ (typeOf_mem url)

theorem comma_not_mem_typeOf (url : String) : ',' ∉ (typeOf url).toList := by
  have all : ∀ type ∈ "image/png" :: types.map Prod.snd, ',' ∉ type.toList := by decide +kernel
  exact all _ (typeOf_mem url)

theorem isAlone_comma : IsAlone ',' where
  low := ⟨by decide, by simp [IsSpecial]⟩
  plain := by decide
  coded := by decide
  apart := by decide +kernel

/-- What the response says of its type, as it was sent. -/
def Response.typeText (r : Response) : String := beforeFirst ';' (r.header "content-type")

theorem comma_mem_contentType_iff (r : Response) : ',' ∈ r.contentType.toList ↔ ',' ∈ r.typeText.toList := by
  rw [Response.contentType, mem_lower_iff ',' isAlone_comma, mem_trim_iff ',' (by decide), Response.typeText]

/-- A successful response gives an image when it names no type or the type of an image. -/
theorem ofResponse_eq_ok_iff (url : String) (r : Response) (success : r.isSuccess = true) (image : String) :
    ofResponse url r = .ok image ↔ (r.contentType = "" ∨ startsWith r.contentType "image/" = true) ∧
      image = dataUrl (if r.contentType = "" then typeOf url else r.contentType) r.body := by
  have plain : ofResponse url r =
      if r.contentType != "" && !startsWith r.contentType "image/" then
        notFetched url ("unexpected content type " ++ r.contentType) none
      else .ok (dataUrl (if r.contentType = "" then typeOf url else r.contentType) r.body) := by
    rw [ofResponse, success]
    simp only [Bool.not_true, Bool.false_eq_true, if_false, beq_iff_eq]
  rw [plain]
  split
  · next refused =>
      simp only [Bool.and_eq_true, bne_iff_ne, Bool.not_eq_true'] at refused
      simp [notFetched, refused]
  · next accepted =>
      have named : r.contentType = "" ∨ startsWith r.contentType "image/" = true := by
        rw [Bool.and_eq_true, not_and_or] at accepted
        simpa using accepted
      simp only [Except.ok.injEq, named, true_and]
      exact eq_comm

/-- Every successful response that names no type or the type of an image is turned into an address. The bytes of
the response are read back from it, behind a header that names an image type, exactly when the text that was sent
for the type has no comma. -/
theorem embed_holds_iff (client : Client) (url : String) (r : Response) (outside : isData url = false)
    (answered : client url = .response r) (success : r.isSuccess = true) :
    ((∃ image, (embed client url).run = .ok image) ↔
        r.contentType = "" ∨ startsWith r.contentType "image/" = true) ∧
      ∀ image, (embed client url).run = .ok image → (Holds image r.body ↔ ',' ∉ r.typeText.toList) := by
  have asked : (embed client url).run = ofResponse url r := by
    simp only [embed, outside, answered]
    rfl
  simp only [asked, ofResponse_eq_ok_iff url r success]
  constructor
  · constructor
    · rintro ⟨_, named, _⟩
      exact named
    · exact fun named => ⟨_, named, rfl⟩
  · rintro image ⟨named, rfl⟩
    rw [← comma_mem_contentType_iff]
    split
    · next untyped =>
        rw [holds_dataUrl_iff _ _ (startsWith_typeOf url), untyped]
        simp [comma_not_mem_typeOf url]
    · next typed => exact holds_dataUrl_iff _ _ (named.resolve_left typed)

/-- Capitals, blanks and a parameter with a comma of its own. -/
theorem embed_holds_parameter :
    let r : Response := { status := 206, headers := [("Content-Type", " Image/SVG+XML ;a=\"b,c\"")], body := [60, 47] }
    let client : Client := fun _ => .response r
    isData "http://cdn.test/logo" = false ∧ r.isSuccess = true ∧
      ∃ image, (embed client "http://cdn.test/logo").run = .ok image ∧ Holds image r.body := by
  intro r client
  have outside : isData "http://cdn.test/logo" = false := by decide
  have success : r.isSuccess = true := rfl
  have typed : startsWith r.contentType "image/" = true := by decide +kernel
  have plain : ',' ∉ r.typeText.toList := by decide +kernel
  obtain ⟨made, held⟩ := embed_holds_iff client "http://cdn.test/logo" r outside rfl success
  obtain ⟨image, embedded⟩ := made.mpr (Or.inr typed)
  exact ⟨outside, success, image, embedded, (held image embedded).mpr plain⟩

/-- A type that was sent twice comes joined by a comma, and the address cannot be taken apart again. -/
theorem embed_joined_types :
    let r : Response :=
      { status := 200, headers := [("content-type", "image/png"), ("content-type", "image/png")], body := [137, 80] }
    let client : Client := fun _ => .response r
    let image := "data:image/png, image/png;base64,iVA="
    isData "http://cdn.test/a.png" = false ∧ r.isSuccess = true ∧
      (embed client "http://cdn.test/a.png").run = .ok image ∧ beforeFirst ',' image = "data:image/png" ∧
      ¬ Holds image r.body := by
  intro r client image
  refine ⟨by decide, rfl, by decide +kernel, by decide +kernel, fun holds => ?_⟩
  have unread : Base64.decode? (payload image) = none := by decide +kernel
  have read := holds.payload
  rw [unread] at read
  cases read

end Asset

end ReportCompiler
