import Mathlib.Data.List.Basic
import ReportCompiler.Proofs.Asset.Replacement
import ReportCompiler.Proofs.Asset.Requests
import ReportCompiler.Proofs.Compile.Alongside

/-!
Images put inside a template: every external address in a setting for images gives way to the image that was
fetched for it, wherever it stands, and nothing else changes.
-/

namespace ReportCompiler

/-! ### Texts changed in place -/

namespace Value

mutual

/-- The value with every text in it changed, at any depth of lists and objects. -/
def mapTexts (f : String → String) : Value → Value
  | text s => text (f s)
  | list items => list (mapTextsInItems f items)
  | object fields => object (mapTextsInFields f fields)
  | value => value

def mapTextsInItems (f : String → String) : List Value → List Value
  | [] => []
  | item :: rest => mapTexts f item :: mapTextsInItems f rest

def mapTextsInFields (f : String → String) : List (String × Value) → List (String × Value)
  | [] => []
  | (key, value) :: rest => (key, mapTexts f value) :: mapTextsInFields f rest

end

end Value

namespace Asset

section Texts

variable (images : List (String × String)) (f : String → String)

mutual

theorem replaceIn_eq_mapTexts (same : ∀ s, (images.lookup s).getD s = f s) :
    (value : Value) → replaceIn images value = value.mapTexts f
  | .null => rfl
  | .bool _ => rfl
  | .number _ => rfl
  | .date _ => rfl
  | .moment _ => rfl
  | .text s => by rw [replaceIn, Value.mapTexts, same]
  | .list items => by rw [replaceIn, Value.mapTexts, replaceInItems_eq_mapTexts same items]
  | .object fields => by rw [replaceIn, Value.mapTexts, replaceInFields_eq_mapTexts same fields]

theorem replaceInItems_eq_mapTexts (same : ∀ s, (images.lookup s).getD s = f s) :
    (items : List Value) → replaceInItems images items = Value.mapTextsInItems f items
  | [] => rfl
  | item :: rest => by
      rw [replaceInItems, Value.mapTextsInItems, replaceIn_eq_mapTexts same item,
        replaceInItems_eq_mapTexts same rest]

theorem replaceInFields_eq_mapTexts (same : ∀ s, (images.lookup s).getD s = f s) :
    (fields : List (String × Value)) →
      replaceInFields images fields = Value.mapTextsInFields f fields
  | [] => rfl
  | (key, value) :: rest => by
      rw [replaceInFields, Value.mapTextsInFields, replaceIn_eq_mapTexts same value,
        replaceInFields_eq_mapTexts same rest]

end

end Texts

/-! ### Images in replies -/

theorem isData_dataUrl (type : String) (bytes : List UInt8) : isData (dataUrl type bytes) = true := by
  refine List.isPrefixOf_iff_prefix.mpr ⟨(type ++ ";base64," ++ Base64.encode bytes).toList, ?_⟩
  simp only [dataUrl, String.toList_append, List.append_assoc]

theorem isData_of_ofReply (url image : String) (reply : Reply) (fetched : ofReply url reply = .ok image) :
    isData image = true := by
  cases reply with
  | response response =>
      rw [ofReply, ofResponse] at fetched
      split at fetched
      · cases fetched
      · simp only at fetched
        split at fetched
        · cases fetched
        · rw [← Except.ok.inj fetched]
          exact isData_dataUrl _ _
  | unreachable message => cases fetched
  | broken message => cases fetched

/-- What stands in place of a text in a setting for images: the image in the reply to a request for it, and
the text itself where there was none. -/
def inlined (asked : List (String × Reply)) (text : String) : String :=
  match asked.lookup text with
  | some reply =>
      match ofReply text reply with
      | .ok image => image
      | .error _ => text
  | none => text

/-- An address is replaced when there is nothing to complain about and something else to put in its place. -/
def isReplaced (asked : String × Reply) : Bool :=
  (Report.complaint? (answered asked)).isNone && (answered asked).url != asked.1

theorem url_of_not_isReplaced (asked : String × Reply) (kept : isReplaced asked = false) :
    (answered asked).url = asked.1 := by
  unfold isReplaced answered at *
  cases replied : ofReply asked.1 asked.2 with
  | ok image => simpa [replied, Outcome.ofImage, Report.complaint?] using kept
  | error failure => rfl

theorem inlined_cons_self (asked : String × Reply) (rest : List (String × Reply)) :
    inlined (asked :: rest) asked.1 = (answered asked).url := by
  unfold inlined answered
  rw [List.lookup_cons_self]
  cases replied : ofReply asked.1 asked.2 <;> simp only [replied, Outcome.ofImage]

theorem inlined_cons_of_ne (asked : String × Reply) (rest : List (String × Reply)) (text : String)
    (other : text ≠ asked.1) : inlined (asked :: rest) text = inlined rest text := by
  unfold inlined
  rw [List.lookup_cons, beq_false_of_ne other]

/-- The images that are put in the place of addresses. -/
def imagesIn (asked : List (String × Reply)) : List (String × String) :=
  (asked.filter isReplaced).map fun one => (one.1, (answered one).url)

theorem images_ofOutcomes (urls : List String) (replies : List Reply) :
    (Report.ofOutcomes urls ((urls.zip replies).map answered)).images =
      imagesIn (urls.zip replies) := by
  have paired : urls.zip ((urls.zip replies).map answered) =
      (urls.zip replies).map fun asked => (asked.1, answered asked) := by
    induction urls generalizing replies with
    | nil => rfl
    | cons url rest ih =>
        cases replies with
        | nil => rfl
        | cons reply replies =>
            rw [List.zip_cons_cons, List.map_cons, List.zip_cons_cons, ih, List.map_cons]
  rw [Report.ofOutcomes, paired, List.filter_map, List.map_map]
  rfl

-- The induction is on the requests; no later one is for the address of an earlier one.
theorem lookup_imagesIn (asked : List (String × Reply)) (distinct : (asked.map Prod.fst).Nodup)
    (text : String) : ((imagesIn asked).lookup text).getD text = inlined asked text := by
  unfold imagesIn
  induction asked with
  | nil => rfl
  | cons first rest ih =>
      obtain ⟨fresh, others⟩ := List.nodup_cons.mp distinct
      by_cases same : text = first.1
      · subst same
        rw [inlined_cons_self]
        cases replaced : isReplaced first with
        | true => rw [List.filter_cons_of_pos replaced, List.map_cons, List.lookup_cons_self, Option.getD_some]
        | false =>
            have absent : List.lookup first.1
                ((rest.filter isReplaced).map fun one => (one.1, (answered one).url)) = none := by
              refine List.lookup_eq_none_iff.mpr fun entry member => ?_
              obtain ⟨one, inside, rfl⟩ := List.mem_map.mp member
              refine bne_iff_ne.mpr fun same => fresh ?_
              rw [same]
              exact List.mem_map_of_mem (List.mem_filter.mp inside).1
            rw [List.filter_cons_of_neg (Bool.eq_false_iff.mp replaced), absent, Option.getD_none,
              url_of_not_isReplaced first replaced]
      · rw [inlined_cons_of_ne first rest text same, ← ih others]
        cases replaced : isReplaced first with
        | true =>
            rw [List.filter_cons_of_pos replaced, List.map_cons, List.lookup_cons,
              beq_false_of_ne same]
        | false => rw [List.filter_cons_of_neg (Bool.eq_false_iff.mp replaced)]

theorem map_fst_zip_sublist {α β : Type} : (xs : List α) → (ys : List β) →
    ((xs.zip ys).map Prod.fst).Sublist xs
  | [], _ => .slnil
  | _ :: _, [] => List.nil_sublist _
  | x :: xs, _ :: ys => (map_fst_zip_sublist xs ys).cons_cons x

/-! ### The template -/

/-- The settings with every text in those for images changed. -/
def mapImages (f : String → String) (props : Fields) : Fields :=
  props.map fun field =>
    (field.1, if imageProps.contains field.1 then field.2.mapTexts f else field.2)

theorem replaceInTree_eq_mapProps (images : List (String × String)) (f : String → String)
    (same : ∀ s, (images.lookup s).getD s = f s) (tree : Tree) :
    replaceInTree images tree = tree.mapProps (mapImages f) := by
  have each : replaceInProps images = mapImages f := by
    funext props
    refine List.map_congr_left fun field _ => ?_
    simp only [replaceIn_eq_mapTexts images f same]
  rw [replaceInTree, Tree.mapProps, each]
  rfl

/-- Every address of the web that stands in a setting for images, at any depth, is requested once, in the
order of first occurrence, and nothing else is. The template that comes back is the same in all but these
addresses, each of which gives way to its image if one was fetched. -/
theorem inlineTree_spec {m : Type → Type} [Monad m] [LawfulMonad m] (client : ClientIn m) (usual : Int)
    (wanted : Option Int) (tree : Tree) :
    let urls := externalImages tree
    (∀ url, url ∈ urls ↔ IsWeb url ∧ ∃ entry ∈ tree.nodes, ∃ name ∈ imageProps,
        (entry.2.props.get name).HoldsText url) ∧
      urls.Pairwise (fun first second =>
        (imageTexts tree).idxOf first < (imageTexts tree).idxOf second) ∧
      (inlineTree client (batchSize usual wanted) tree = do
        let replies ← urls.mapM client
        let asked := urls.zip replies
        return (tree.mapProps (mapImages (inlined asked)),
          Report.ofOutcomes urls (asked.map answered))) ∧
      ∀ url reply image, ofReply url reply = .ok image → isData image = true := by
  intro urls
  have external : ∀ url ∈ urls, isExternal url = true := fun url listed =>
    (isExternal_iff url).mpr ((mem_externalImages_iff tree url).mp listed).1
  refine ⟨mem_externalImages_iff tree, externalImages_pairwise tree, ?_,
    fun url reply image => isData_of_ofReply url image reply⟩
  have asking := processAll_eq_mapM client true _ (batchSize_pos usual wanted) urls
  rw [mapM_outcome client urls external] at asking
  simp only [inlineTree, asking, urls, bind_assoc, pure_bind]
  refine bind_congr fun replies => ?_
  have distinct := (map_fst_zip_sublist urls replies).nodup (nodup_externalImages tree)
  rw [images_ofOutcomes, replaceInTree_eq_mapProps _ _ (lookup_imagesIn _ distinct)]

/-- A client with one image, at one address, that keeps track of what it is asked. -/
def oneImage : ClientIn (StateM (List String)) := fun url => do
  modify (· ++ [url])
  if url == "https://cdn.test/a.png" then
    return .response { status := 200, headers := [], body := [1, 2, 3] }
  else return .unreachable "unreachable"

theorem inlineTree_spec_nested :
    let props : Fields :=
      [("image", .list [.text "https://cdn.test/a.png", .object [("at", .text "http://b")]]),
        ("src", .text "http://b"), ("text", .text "https://cdn.test/a.png")]
    let image : Node := { id := "i", type := "Image", props, children := [], custom := [] }
    let tree : Tree := { nodes := [("i", image)], rootId := none }
    let result := (inlineTree oneImage (batchSize 5 none) tree).run []
    result.2 = ["http://b", "https://cdn.test/a.png"] ∧
      result.1.1.nodes.map (fun entry => entry.2.props) =
        [[("image", .list [.text "data:image/png;base64,AQID", .object [("at", .text "http://b")]]),
          ("src", .text "http://b"), ("text", .text "https://cdn.test/a.png")]] := by
  intro props image tree result
  have urls : externalImages tree = ["http://b", "https://cdn.test/a.png"] := by decide +kernel
  have whole : inlineTree oneImage (batchSize 5 none) tree = _ :=
    (inlineTree_spec oneImage 5 none tree).2.2.1
  rw [urls] at whole
  unfold result
  rw [whole]
  constructor
  · rfl
  · rfl

end Asset

end ReportCompiler
