import Mathlib.Data.List.Basic
import ReportCompiler.Proofs.Compile.Hidden

/-!
Widgets apart from each other. A widget that holds no others has one place in the document, if it is placed at
all; with other settings the document changes in that place, in the findings about the widget and in its entry,
and nowhere else.
-/

namespace ReportCompiler

open ReportCompiler.Text

/-! ### Text with one part changed -/

namespace Text

/-- The second text is the first one with another part in one place. -/
def Swaps (part other whole changed : String) : Prop :=
  ∃ before after, whole = before ++ part ++ after ∧ changed = before ++ other ++ after

theorem swaps_self (part other : String) : Swaps part other part other :=
  ⟨"", "", by simp, by simp⟩

theorem swaps_nothing (whole : String) : Swaps "" "" whole whole :=
  ⟨whole, "", by simp, by simp⟩

theorem Swaps.around (part other whole changed before after : String)
    (swaps : Swaps part other whole changed) :
    Swaps part other (before ++ whole ++ after) (before ++ changed ++ after) := by
  obtain ⟨front, back, rfl, rfl⟩ := swaps
  exact ⟨before ++ front, back ++ after, by simp only [String.append_assoc],
    by simp only [String.append_assoc]⟩

-- Each part of a list stands between the same texts, whatever it is.
theorem exists_join_around (separator : String) (front back : List String) :
    ∃ before after, ∀ part, join separator (front ++ part :: back) = before ++ part ++ after := by
  induction front with
  | nil =>
      cases back with
      | nil => exact ⟨"", "", fun part => by simp [join]⟩
      | cons next rest =>
          exact ⟨"", separator ++ join separator (next :: rest), fun part => by
            simp [join, String.append_assoc]⟩
  | cons first rest ih =>
      obtain ⟨before, after, whole⟩ := ih
      refine ⟨first ++ separator ++ before, after, fun part => ?_⟩
      have longer : join separator (first :: (rest ++ part :: back)) =
          first ++ separator ++ join separator (rest ++ part :: back) := by
        cases rest <;> simp [join]
      rw [List.cons_append, longer, whole]
      simp only [String.append_assoc]

end Text

/-! ### Other settings of one widget -/

/-- The widget with other settings if it stands under the key. -/
def Node.withPropsUnder (key : String) (props : Fields) (other : String) (node : Node) : Node :=
  if other = key then { node with props } else node

theorem Node.withPropsUnder_self (key : String) (props : Fields) (node : Node) :
    node.withPropsUnder key props key = { node with props } := if_pos rfl

theorem Node.withPropsUnder_of_ne (key other : String) (props : Fields) (node : Node)
    (different : other ≠ key) : node.withPropsUnder key props other = node := if_neg different

theorem Node.id_withPropsUnder (key other : String) (props : Fields) (node : Node) :
    (node.withPropsUnder key props other).id = node.id := by
  unfold withPropsUnder
  split <;> rfl

theorem Node.children_withPropsUnder (key other : String) (props : Fields) (node : Node) :
    (node.withPropsUnder key props other).children = node.children := by
  unfold withPropsUnder
  split <;> rfl

/-- The template with other settings for one widget. -/
def Tree.withProps (key : String) (props : Fields) (tree : Tree) : Tree :=
  tree.mapNodes (Node.withPropsUnder key props)

namespace Tree

variable (key : String) (props : Fields) (tree : Tree)

theorem find?_withProps (other : String) :
    (tree.withProps key props).find? other =
      (tree.find? other).map (Node.withPropsUnder key props other) :=
  tree.find?_mapNodes _ other

theorem listedChildren_withProps : (tree.withProps key props).listedChildren = tree.listedChildren := by
  rw [listedChildren, withProps, mapNodes, List.flatMap_map]
  exact List.flatMap_congr fun entry _ => entry.2.children_withPropsUnder key entry.1 props

theorem keys_withProps : (tree.withProps key props).keys = tree.keys := by
  simp [keys, withProps, mapNodes]

theorem rootKeys_withProps : (tree.withProps key props).rootKeys = tree.rootKeys := by
  rw [rootKeys, rootKeys, listedChildren_withProps, withProps, mapNodes, List.filter_map, List.map_map]
  congr 1
  refine List.filter_congr fun entry _ => ?_
  simp only [Function.comp, Node.id_withPropsUnder]

end Tree

/-- The same visit in the template with other settings for one widget. -/
def Visit.withProps (key : String) (props : Fields) : Visit → Visit
  | first other node => first other (node.withPropsUnder key props other)
  | again other node => again other (node.withPropsUnder key props other)
  | missing parent other => missing parent other

/-- Entries with other settings for one widget. -/
def entriesWithProps (key : String) (props : Fields) (entries : List (String × Node)) :
    List (String × Node) :=
  entries.map fun entry => (entry.1, entry.2.withPropsUnder key props entry.1)

theorem placed_withProps (key : String) (props : Fields) (visits : List Visit) :
    placed (visits.map (Visit.withProps key props)) = entriesWithProps key props (placed visits) := by
  induction visits with
  | nil => rfl
  | cons visit rest ih => cases visit <;> simpa [Visit.withProps, entriesWithProps] using ih

theorem reachedAfter_entriesWithProps (key : String) (props : Fields) (entries : List (String × Node))
    (reached : List String) :
    reachedAfter (entriesWithProps key props entries) reached = reachedAfter entries reached := by
  simp [reachedAfter, idsOf, entriesWithProps, Node.id_withPropsUnder]

/-! ### Single widgets -/

/-- The widget has no room for others, or has none. -/
def Node.IsLeaf (node : Node) : Prop :=
  (node.type ≠ "Page" ∧ node.type ≠ "Container") ∨ node.children = []

namespace Own

variable (s : Surroundings) (node : Node) (standard : s.registry = .standard)
include standard

theorem not_isOpen_of_isLeaf (leaf : node.IsLeaf) : (ofNode s node).isOpen = false := by
  cases registered : Widget.Kind.ofName? node.type with
  | none => rw [ofNode_of_unknown s node standard registered]; rfl
  | some kind =>
      cases attempt : Own.render s kind.renderer node with
      | error fault => rw [ofNode_of_fault s node kind fault standard registered attempt]; rfl
      | ok result =>
          rw [ofNode_of_render s node kind result standard registered attempt, rendered]
          split
          · rfl
          · rcases leaf with ⟨page, container⟩ | childless
            · have name := Widget.Kind.name_of_ofName? registered
              have roomless : kind.holdsChildren = false := by
                cases kind with
                | page => exact absurd name.symm page
                | container => exact absurd name.symm container
                | _ => rfl
              rw [roomless, Bool.false_and]
            · simp [childless]

theorem openChildren_of_isLeaf (leaf : node.IsLeaf) : openChildren s node = [] := by
  rw [openChildren, not_isOpen_of_isLeaf s node standard leaf, if_neg Bool.false_ne_true]

-- Whatever is found about a widget by itself is said about its id.
theorem findings_widget : ∀ finding ∈ (ofNode s node).findings, finding.widget? = some node.id := by
  have condition : ∀ finding ∈ conditionFindings node, finding.widget? = some node.id := by
    unfold conditionFindings
    split <;> simp [Finding.widget?]
  cases registered : Widget.Kind.ofName? node.type with
  | none => rw [ofNode_of_unknown s node standard registered]; simp [unknown, placeholder, Finding.widget?]
  | some kind =>
      cases attempt : Own.render s kind.renderer node with
      | error fault =>
          rw [ofNode_of_fault s node kind fault standard registered attempt]
          exact List.forall_mem_append.mpr ⟨condition, by simp [Finding.widget?]⟩
      | ok result =>
          rw [ofNode_of_render s node kind result standard registered attempt, rendered]
          split
          · exact condition
          · refine List.forall_mem_append.mpr ⟨condition, ?_⟩
            split <;> simp [Finding.widget?]

end Own

/-! ### Walks -/

/-- Two lists of outlines of one length, with the same markup in all places but one, and there with one part
of it changed. -/
def Outline.SwapsOne (part other : String) (parts otherParts : List Outline) : Prop :=
  ∃ front back whole changed, Outline.htmlAll parts = front ++ whole :: back ∧
    Outline.htmlAll otherParts = front ++ changed :: back ∧ Swaps part other whole changed

namespace Outline.SwapsOne

variable {part other : String} {parts otherParts : List Outline}

theorem joined (swaps : SwapsOne part other parts otherParts) :
    Swaps part other (join "\n" (htmlAll parts)) (join "\n" (htmlAll otherParts)) := by
  obtain ⟨front, back, whole, changed, written, otherWritten, inside⟩ := swaps
  obtain ⟨before, after, around⟩ := exists_join_around "\n" front back
  rw [written, otherWritten, around, around]
  exact inside.around _ _ _ _ before after

theorem later (first : Outline) (swaps : SwapsOne part other parts otherParts) :
    SwapsOne part other (first :: parts) (first :: otherParts) := by
  obtain ⟨front, back, whole, changed, written, otherWritten, inside⟩ := swaps
  rw [SwapsOne, htmlAll, htmlAll]
  split
  · next html _ =>
      exact ⟨html :: front, back, whole, changed, by rw [written, List.cons_append],
        by rw [otherWritten, List.cons_append], inside⟩
  · exact ⟨front, back, whole, changed, written, otherWritten, inside⟩

theorem here (own otherOwn : Own) (inside otherInside rest : List Outline)
    (swaps : Swaps part other
      (if own.isOpen then splice own.html (join "\n" (htmlAll inside)) else own.html)
      (if otherOwn.isOpen then splice otherOwn.html (join "\n" (htmlAll otherInside))
        else otherOwn.html)) :
    SwapsOne part other (.widget own inside :: rest) (.widget otherOwn otherInside :: rest) :=
  ⟨[], htmlAll rest, _, _, rfl, rfl, swaps⟩

-- What is put into a container stands between the same texts before and after it.
theorem inside (own : Own) (rest : List Outline) (opened : own.isOpen = true)
    (closes : ∃ before, own.html = before ++ "</div>")
    (swaps : SwapsOne part other parts otherParts) :
    SwapsOne part other (.widget own parts :: rest) (.widget own otherParts :: rest) := by
  obtain ⟨before, whole⟩ := closes
  refine here own own parts otherParts rest ?_
  rw [if_pos opened, if_pos opened, whole, splice_close, splice_close]
  have around := swaps.joined.around _ _ _ _ (before ++ "\n") "\n</div>"
  exact around

end Outline.SwapsOne

namespace Walk

variable {s : Surroundings} {tree : Tree}

-- A widget that is placed has its id reached, so that no walk from there on places it again.
theorem not_mem_placedKeys {parent key : String} {keys reached : List String} {parts : List Outline}
    {visits : List Visit} {node : Node} (walk : Walk s tree parent keys reached parts visits)
    (found : tree.find? key = some node) (known : node.id ∈ reached) : key ∉ placedKeys visits := by
  intro member
  obtain ⟨entry, inside, rfl⟩ := List.mem_map.mp member
  have same := walk.find?_of_placed entry inside
  rw [found, Option.some.injEq] at same
  rw [same] at known
  exact walk.idsOf_placed_fresh.2 entry.2.id (List.mem_map_of_mem inside) known

-- The widget itself has no children to open, and the others are as they were.
theorem openChildren_withPropsUnder {key : String} (name : String) (widget node : Node) (props : Fields)
    (standard : s.registry = .standard) (there : tree.find? name = some widget)
    (found : tree.find? key = some node) (leaf : node.IsLeaf) :
    openChildren s (widget.withPropsUnder key props name) = openChildren s widget := by
  by_cases same : name = key
  · subst same
    obtain rfl := Option.some.inj (found.symm.trans there)
    have otherLeaf : Node.IsLeaf { node with props } := leaf
    rw [Node.withPropsUnder_self, Own.openChildren_of_isLeaf s node standard leaf,
      Own.openChildren_of_isLeaf s { node with props } standard otherLeaf]
  · rw [Node.withPropsUnder_of_ne key name props widget same]

-- The induction is on the walk. Where the widget is placed, the markup changes there; wherever it is not, all
-- that is placed stays as it is.
theorem withProps {parent key : String} {keys reached : List String} {parts : List Outline}
    {visits : List Visit} (walk : Walk s tree parent keys reached parts visits) (node : Node)
    (props : Fields) (standard : s.registry = .standard) (found : tree.find? key = some node)
    (leaf : node.IsLeaf) :
    ∃ otherParts, Walk s (tree.withProps key props) parent keys reached otherParts
        (visits.map (Visit.withProps key props)) ∧
      if key ∈ placedKeys visits then
        Outline.SwapsOne (Own.ofNode s node).html (Own.ofNode s { node with props }).html parts otherParts
      else otherParts = parts := by
  have foundHere : ∀ other found, tree.find? other = some found →
      (tree.withProps key props).find? other = some (found.withPropsUnder key props other) :=
    fun other widget same => by rw [Tree.find?_withProps, same]; rfl
  induction walk with
  | done parent reached => exact ⟨[], .done parent reached, by simp [placedKeys]⟩
  | missing parent name rest reached parts visits absent later ih =>
      obtain ⟨otherParts, other, differ⟩ := ih
      have gone : (tree.withProps key props).find? name = none := by
        rw [Tree.find?_withProps, absent]; rfl
      refine ⟨_, .missing parent name rest reached otherParts _ gone other, ?_⟩
      have same : placedKeys (.missing parent name :: visits) = placedKeys visits := rfl
      rw [same]
      split at differ
      · next placed => rw [if_pos placed]; exact differ.later _
      · next unplaced => rw [if_neg unplaced, differ]
  | again parent name rest reached widget parts visits there known later ih =>
      obtain ⟨otherParts, other, differ⟩ := ih
      have knownHere : (widget.withPropsUnder key props name).id ∈ reached := by
        rw [Node.id_withPropsUnder]; exact known
      refine ⟨_, .again parent name rest reached _ otherParts _ (foundHere name widget there)
        knownHere other, ?_⟩
      have same : placedKeys (.again name widget :: visits) = placedKeys visits := rfl
      rw [same, Node.id_withPropsUnder]
      split at differ
      · next placed => rw [if_pos placed]; exact differ.later _
      · next unplaced => rw [if_neg unplaced, differ]
  | first parent name rest reached widget inside parts within visits there fresh inner later ihIn ih =>
      obtain ⟨otherInside, otherInner, differIn⟩ := ihIn
      obtain ⟨otherParts, otherLater, differ⟩ := ih
      have sameId := widget.id_withPropsUnder key name props
      have sameOpen := openChildren_withPropsUnder name widget node props standard there found leaf
      have sameReached : reachedAfter ((name, widget.withPropsUnder key props name) ::
          placed (within.map (Visit.withProps key props))) reached =
            reachedAfter ((name, widget) :: placed within) reached := by
        rw [placed_withProps]
        exact reachedAfter_entriesWithProps key props ((name, widget) :: placed within) reached
      have walked := Walk.first parent name rest reached _ otherInside otherParts _ _
        (foundHere name widget there) (sameId ▸ fresh) (by rw [sameOpen, sameId]; exact otherInner)
        (by rw [sameReached]; exact otherLater)
      refine ⟨_, by rw [List.map_cons, List.map_append]; exact walked, ?_⟩
      have listed : placedKeys (.first name widget :: (within ++ visits)) =
          name :: (placedKeys within ++ placedKeys visits) := by
        simp [placedKeys]
      rw [listed]
      by_cases here : name = key
      -- The widget itself: nothing is inside it, and it is not placed again.
      · subst here
        obtain rfl := Option.some.inj (found.symm.trans there)
        have absent : name ∉ placedKeys visits :=
          later.not_mem_placedKeys found ((mem_reachedAfter _ _ _).mpr (Or.inl ⟨_, List.mem_cons_self, rfl⟩))
        rw [if_neg absent] at differ
        rw [if_pos List.mem_cons_self, differ, Node.withPropsUnder_self]
        refine Outline.SwapsOne.here _ _ inside otherInside parts ?_
        have otherLeaf : Node.IsLeaf { node with props } := leaf
        rw [Own.not_isOpen_of_isLeaf s node standard leaf, if_neg Bool.false_ne_true,
          Own.not_isOpen_of_isLeaf s { node with props } standard otherLeaf, if_neg Bool.false_ne_true]
        exact swaps_self _ _
      rw [Node.withPropsUnder_of_ne key name props widget here]
      by_cases deeper : key ∈ placedKeys within
      -- Inside this widget, which is open then; and not after it.
      · have absent : key ∉ placedKeys visits := by
          obtain ⟨entry, member, rfl⟩ := List.mem_map.mp deeper
          have same := inner.find?_of_placed entry member
          obtain rfl := Option.some.inj (found.symm.trans same)
          exact later.not_mem_placedKeys found
            ((mem_reachedAfter _ _ _).mpr (Or.inl ⟨entry, List.mem_cons_of_mem _ member, rfl⟩))
        have opened : (Own.ofNode s widget).isOpen = true := by
          refine Decidable.by_contra fun shut => ?_
          rw [openChildren, if_neg shut] at inner
          cases inner
          cases deeper
        rw [if_neg absent] at differ
        rw [if_pos deeper] at differIn
        rw [if_pos (List.mem_cons_of_mem _ (List.mem_append_left _ deeper)), differ]
        exact differIn.inside _ parts opened
          (Own.closes_of_isShown s widget standard (Own.isShown_of_isOpen s widget opened))
      · rw [if_neg deeper] at differIn
        have member : key ∈ name :: (placedKeys within ++ placedKeys visits) ↔ key ∈ placedKeys visits := by
          simp [Ne.symm here, deeper]
        rw [differIn, if_congr member rfl rfl]
        split at differ
        · next placed => rw [if_pos placed]; exact differ.later _
        · next unplaced => rw [if_neg unplaced, differ]

-- A walk has no choice, so that it can only be taken in one way.
theorem unique {parent : String} {keys reached : List String} {parts otherParts : List Outline}
    {visits otherVisits : List Visit} (walk : Walk s tree parent keys reached parts visits)
    (again : Walk s tree parent keys reached otherParts otherVisits) :
    otherParts = parts ∧ otherVisits = visits := by
  have aside : Walk s (tree.mapProps id) parent keys reached otherParts otherVisits := by
    rw [Tree.mapProps_id]
    exact again
  obtain ⟨same, built⟩ := walk.alongside id aside fun _ _ _ => rfl
  refine ⟨built fun _ _ => rfl, same.trans (List.map_id'' (fun visit => ?_) visits)⟩
  cases visit <;> rfl

end Walk

/-! ### Documents -/

/-- The markup that the widget under a key has in a document by itself: none where it is not placed. -/
def fragmentIn (s : Surroundings) (entries : List (String × Node)) (key : String) (node : Node) : String :=
  if key ∈ entries.map Prod.fst then (Own.ofNode s node).html else ""

section Contributions

variable (s : Surroundings) (key : String) (props : Fields)

theorem rootFindings_withProps (tree : Tree) :
    rootFindings (tree.withProps key props) = rootFindings tree := by
  rw [rootFindings, rootFindings, Tree.rootKeys_withProps]
  simp [Tree.withProps, Tree.mapNodes]

-- Visits that do not place the widget contribute what they did.
theorem contributions_withProps (visits : List Visit) (absent : key ∉ placedKeys visits) :
    (visits.map (Visit.withProps key props)).flatMap (Visit.findings s) =
        visits.flatMap (Visit.findings s) ∧
      (visits.map (Visit.withProps key props)).flatMap (Visit.components s) =
        visits.flatMap (Visit.components s) ∧
      (visits.map (Visit.withProps key props)).countP (Visit.isShown s) =
        visits.countP (Visit.isShown s) := by
  have each : ∀ visit ∈ visits, (visit.withProps key props).findings s = visit.findings s ∧
      (visit.withProps key props).components s = visit.components s ∧
      (visit.withProps key props).isShown s = visit.isShown s := by
    intro visit member
    cases visit with
    | first other node =>
        have different : other ≠ key := by
          rintro rfl
          exact absent (List.mem_map.mpr ⟨_, List.mem_filterMap.mpr ⟨_, member, rfl⟩, rfl⟩)
        rw [Visit.withProps, Node.withPropsUnder_of_ne key other props node different]
        exact ⟨rfl, rfl, rfl⟩
    | again other node =>
        refine ⟨?_, rfl, rfl⟩
        rw [Visit.withProps, Visit.findings, Node.id_withPropsUnder]
        rfl
    | missing parent other => exact ⟨rfl, rfl, rfl⟩
  refine ⟨?_, ?_, ?_⟩
  · rw [List.flatMap_map]
    exact List.flatMap_congr fun visit member => (each visit member).1
  · rw [List.flatMap_map]
    exact List.flatMap_congr fun visit member => (each visit member).2.1
  · rw [List.countP_map]
    exact List.countP_congr fun visit member => by rw [Function.comp, (each visit member).2.2]

-- A widget is placed once, so that all visits but one leave it where it is.
theorem exists_split (visits : List Visit) (distinct : (placedKeys visits).Nodup)
    (member : key ∈ placedKeys visits) :
    ∃ before node after, visits = before ++ .first key node :: after ∧
      key ∉ placedKeys before ∧ key ∉ placedKeys after := by
  obtain ⟨entry, inside, rfl⟩ := List.mem_map.mp member
  obtain ⟨visit, listed, same⟩ := List.mem_filterMap.mp inside
  obtain ⟨before, after, rfl⟩ := List.append_of_mem listed
  have first : visit = .first entry.1 entry.2 := by
    cases visit with
    | first other node => rw [← Option.some.inj same]
    | again other node => cases same
    | missing parent other => cases same
  subst first
  rw [placedKeys, placed_append, placed_first, List.map_append, List.map_cons] at distinct
  obtain ⟨-, own, apart⟩ := List.nodup_append.mp distinct
  refine ⟨before, entry.2, after, rfl, fun earlier => ?_, (List.nodup_cons.mp own).1⟩
  exact apart entry.1 earlier entry.1 List.mem_cons_self rfl

variable (visits : List Visit) (node : Node) (standard : s.registry = .standard)
  (distinct : (placedKeys visits).Nodup)
  (own : ∀ widget, (key, widget) ∈ placed visits → widget = node)
include standard distinct own

/-- What is said about other widgets is said alike, and at most one widget more or less is counted. -/
theorem isolated_visits :
    ((visits.map (Visit.withProps key props)).flatMap (Visit.findings s)).filter
          (fun finding => finding.widget? != some node.id) =
        (visits.flatMap (Visit.findings s)).filter (fun finding => finding.widget? != some node.id) ∧
      ((visits.map (Visit.withProps key props)).flatMap (Visit.components s)).filter
          (fun component => component.id != node.id) =
        (visits.flatMap (Visit.components s)).filter (fun component => component.id != node.id) ∧
      (visits.map (Visit.withProps key props)).countP (Visit.isShown s) ≤
        visits.countP (Visit.isShown s) + 1 ∧
      visits.countP (Visit.isShown s) ≤
        (visits.map (Visit.withProps key props)).countP (Visit.isShown s) + 1 := by
  by_cases member : key ∈ placedKeys visits
  · obtain ⟨before, widget, after, rfl, front, back⟩ := exists_split key visits distinct member
    obtain rfl := own widget (by simp)
    obtain ⟨findings, components, count⟩ := contributions_withProps s key props before front
    obtain ⟨laterFindings, laterComponents, laterCount⟩ :=
      contributions_withProps s key props after back
    -- All that is said about the widget itself is left out.
    have silent : ∀ other : Node, other.id = widget.id →
        (Own.ofNode s other).findings.filter (fun finding => finding.widget? != some widget.id) = [] := by
      intro other same
      refine List.filter_eq_nil_iff.mpr fun finding said => ?_
      simp [Own.findings_widget s other standard finding said, same]
    have unentered : ∀ other : Node, other.id = widget.id →
        (Own.ofNode s other).components.filter (fun component => component.id != widget.id) = [] := by
      intro other same
      refine List.filter_eq_nil_iff.mpr fun component entered => ?_
      simp [Own.components_id s other standard component entered, same]
    have sameId := widget.id_withPropsUnder key key props
    simp only [List.map_append, List.map_cons, List.flatMap_append, List.flatMap_cons,
      List.filter_append, List.countP_append, List.countP_cons, Visit.withProps, findings, components,
      count, laterFindings, laterComponents, laterCount]
    refine ⟨?_, ?_, ?_, ?_⟩
    · simp only [Visit.findings, silent _ sameId, silent widget rfl]
    · simp only [Visit.components, unentered _ sameId, unentered widget rfl]
    · split <;> split <;> omega
    · split <;> split <;> omega
  · obtain ⟨findings, components, count⟩ := contributions_withProps s key props visits member
    rw [findings, components, count]
    exact ⟨rfl, rfl, Nat.le_succ _, Nat.le_succ _⟩

end Contributions

-- Both documents are walks through the same places.
theorem exists_walks_withProps (s : Surroundings) (tree : Tree) (key : String) (node : Node)
    (props : Fields) (standard : s.registry = .standard) (distinct : tree.keys.Nodup)
    (found : tree.find? key = some node) (leaf : node.IsLeaf) :
    ∃ visits, Walk s tree "" tree.rootKeys [] (Outline.ofTree s tree) visits ∧
      Walk s (tree.withProps key props) "" (tree.withProps key props).rootKeys []
        (Outline.ofTree s (tree.withProps key props)) (visits.map (Visit.withProps key props)) ∧
      if key ∈ placedKeys visits then
        Outline.SwapsOne (Own.ofNode s node).html (Own.ofNode s { node with props }).html
          (Outline.ofTree s tree) (Outline.ofTree s (tree.withProps key props))
      else Outline.ofTree s (tree.withProps key props) = Outline.ofTree s tree := by
  have otherDistinct : (tree.withProps key props).keys.Nodup := by
    rw [Tree.keys_withProps]
    exact distinct
  obtain ⟨visits, walk⟩ := Outline.ofTree_walk s tree distinct ""
  obtain ⟨otherParts, other, differ⟩ := walk.withProps node props standard found leaf
  obtain ⟨otherVisits, aside⟩ := Outline.ofTree_walk s (tree.withProps key props) otherDistinct ""
  rw [Tree.rootKeys_withProps] at aside ⊢
  obtain ⟨sameParts, sameVisits⟩ := other.unique aside
  rw [sameVisits] at aside
  rw [← sameParts] at differ
  exact ⟨visits, walk, aside, differ⟩

/-- Other settings for a widget that holds no others change nothing but its own markup, in the place where it
stands, the findings about it, its entry, and whether it counts. -/
theorem compile_isolated (s : Surroundings) (tree : Tree) (key : String) (node : Node) (props : Fields)
    (standard : s.registry = .standard) (distinct : tree.keys.Nodup)
    (found : tree.find? key = some node) (leaf : node.IsLeaf) :
    (compile s (tree.withProps key props)).findings.filter (fun finding => finding.widget? != some node.id) =
        (compile s tree).findings.filter (fun finding => finding.widget? != some node.id) ∧
      (compile s (tree.withProps key props)).components.filter (fun component => component.id != node.id) =
        (compile s tree).components.filter (fun component => component.id != node.id) ∧
      (compile s (tree.withProps key props)).widgetCount ≤ (compile s tree).widgetCount + 1 ∧
      (compile s tree).widgetCount ≤ (compile s (tree.withProps key props)).widgetCount + 1 ∧
      ∃ entries, tree.Places s entries ∧
        (tree.withProps key props).Places s (entriesWithProps key props entries) ∧
        Swaps (fragmentIn s entries key node) (fragmentIn s entries key { node with props })
          (compile s tree).html (compile s (tree.withProps key props)).html := by
  obtain ⟨visits, walk, other, differ⟩ :=
    exists_walks_withProps s tree key node props standard distinct found leaf
  have own : ∀ widget, (key, widget) ∈ placed visits → widget = node := fun widget member =>
    Option.some.inj ((walk.find?_of_placed _ member).symm.trans found)
  obtain ⟨saidOfOthers, othersEntered, fewer, more⟩ :=
    isolated_visits s key props visits node standard walk.nodup_placedKeys own
  obtain ⟨components, findings, count⟩ := compile_of_walk s tree visits walk
  obtain ⟨otherComponents, otherFindings, otherCount⟩ := compile_of_walk s _ _ other
  rw [components, findings, count, otherComponents, otherFindings, otherCount, rootFindings_withProps,
    List.filter_append, List.filter_append, saidOfOthers]
  refine ⟨rfl, othersEntered, fewer, more, placed visits, ⟨visits, walk, rfl⟩,
    ⟨_, other, placed_withProps key props visits⟩, ?_⟩
  rw [fragmentIn, fragmentIn, compile_html, compile_html]
  by_cases member : key ∈ (placed visits).map Prod.fst
  · rw [if_pos member, if_pos member]
    exact ((if_pos member).mp differ).joined
  · rw [if_neg member, if_neg member, (if_neg member).mp differ]
    exact swaps_nothing _

-- A chart whose datasets cannot be read leaves a comment in its place; its container and the text beside it
-- stay as they were.
theorem compile_isolated_chart :
    let chart : Node := .bare "c" "Chart" []
    let note : Node := { Node.bare "n" "Text" [] with props := [("visibilityCondition", .text "(")] }
    let tree : Tree :=
      { nodes := [("b", .bare "b" "Container" ["c", "n", "c"]), ("c", chart), ("n", note)],
        rootId := none }
    let broken : Fields := [("datasets", .list [.int 5])]
    let s := Surroundings.plain
    (compile s tree).widgetCount = 3 ∧ (compile s (tree.withProps "c" broken)).widgetCount = 2 ∧
      (compile s (tree.withProps "c" broken)).findings.filter (fun finding => finding.widget? != some "c") =
        (compile s tree).findings.filter (fun finding => finding.widget? != some "c") ∧
      ∃ entries, tree.Places s entries ∧
        Swaps (fragmentIn s entries "c" chart) (fragmentIn s entries "c" { chart with props := broken })
          (compile s tree).html (compile s (tree.withProps "c" broken)).html := by
  intro chart note tree broken s
  obtain ⟨findings, _, _, _, entries, places, _, swaps⟩ :=
    compile_isolated s tree "c" chart broken rfl (by decide) rfl (.inr rfl)
  exact ⟨by decide +kernel, by decide +kernel, findings, entries, places, swaps⟩

end ReportCompiler
