import Mathlib.Data.List.Nodup
import ReportCompiler.Proofs.Compile.Visits

/-!
Documents of several pages. Every page is compiled by itself, and what the pages contribute stands in the
order of the pages, so that the order in which they are given matters only to pages of one order. Nothing
compares the pages with each other: an id that two of them use is entered twice.
-/

namespace ReportCompiler

open ReportCompiler.Text

/-! ### The order of pages -/

/-- The pages of one order, as they stand. -/
def ofOrder (order : Int) (pages : List Page) : List Page :=
  pages.filter fun page => page.order == order

/-- The same pages, by increasing order; pages of one order stand as they were given. -/
structure IsStablySorted (pages sorted : List Page) : Prop where
  perm : sorted.Perm pages
  ordered : sorted.Pairwise fun first second => first.order ≤ second.order
  stable : ∀ order, ofOrder order sorted = ofOrder order pages

theorem ofOrder_cons_self (page : Page) (rest : List Page) :
    ofOrder page.order (page :: rest) = page :: ofOrder page.order rest := by
  simp [ofOrder]

theorem ofOrder_cons_of_ne (order : Int) (page : Page) (rest : List Page)
    (other : page.order ≠ order) : ofOrder order (page :: rest) = ofOrder order rest := by
  simp [ofOrder, other]

theorem mem_of_ofOrder_eq (page : Page) (pages others : List Page)
    (same : ∀ order, ofOrder order others = ofOrder order pages) (member : page ∈ pages) :
    page ∈ others := by
  have listed : page ∈ ofOrder page.order pages := List.mem_filter.mpr ⟨member, beq_self_eq_true _⟩
  rw [← same] at listed
  exact (List.mem_filter.mp listed).1

-- The first page of each list comes before the first page of the other one, so they are of one order.
theorem eq_of_ofOrder_eq (pages others : List Page)
    (ordered : pages.Pairwise fun first second => first.order ≤ second.order)
    (otherOrdered : others.Pairwise fun first second => first.order ≤ second.order)
    (same : ∀ order, ofOrder order others = ofOrder order pages) : others = pages := by
  induction pages generalizing others with
  | nil =>
      cases others with
      | nil => rfl
      | cons other rest =>
          have impossible := same other.order
          rw [ofOrder_cons_self] at impossible
          cases impossible
  | cons page pages ih =>
      cases others with
      | nil =>
          have impossible := same page.order
          rw [ofOrder_cons_self] at impossible
          cases impossible
      | cons other others =>
          obtain ⟨least, later⟩ := List.pairwise_cons.mp ordered
          obtain ⟨otherLeast, otherLater⟩ := List.pairwise_cons.mp otherOrdered
          have below : other.order ≤ page.order := by
            have member := mem_of_ofOrder_eq page _ _ same List.mem_cons_self
            rcases List.mem_cons.mp member with rfl | after
            · exact Int.le_refl _
            · exact otherLeast page after
          have above : page.order ≤ other.order := by
            have member := mem_of_ofOrder_eq other _ _ (fun order => (same order).symm)
              List.mem_cons_self
            rcases List.mem_cons.mp member with rfl | after
            · exact Int.le_refl _
            · exact least other after
          have level : other.order = page.order := Int.le_antisymm below above
          have heads := same page.order
          rw [ofOrder_cons_self, ← level, ofOrder_cons_self] at heads
          obtain ⟨rfl, restHere⟩ := List.cons.inj heads
          congr 1
          refine ih others later otherLater fun order => ?_
          by_cases here : other.order = order
          · rw [← here]
            exact restHere
          · have others := same order
            rwa [ofOrder_cons_of_ne order _ _ here, ofOrder_cons_of_ne order _ _ here] at others

theorem IsStablySorted.unique (pages sorted others : List Page) (one : IsStablySorted pages sorted)
    (other : IsStablySorted pages others) : others = sorted :=
  eq_of_ofOrder_eq sorted others one.ordered other.ordered fun order =>
    (other.stable order).trans (one.stable order).symm

-- Pages of one order are sorted already, and so they are found in the sorted list as they stand.
theorem inOrder_isStablySorted (pages : List Page) : IsStablySorted pages (inOrder pages) := by
  have perm : (inOrder pages).Perm pages := List.mergeSort_perm pages _
  have transitive : ∀ a b c : Page, decide (a.order ≤ b.order) = true →
      decide (b.order ≤ c.order) = true → decide (a.order ≤ c.order) = true := by
    intro a b c first second
    rw [decide_eq_true_eq] at first second ⊢
    exact Int.le_trans first second
  have total : ∀ a b : Page, (decide (a.order ≤ b.order) || decide (b.order ≤ a.order)) = true := by
    intro a b
    rw [Bool.or_eq_true, decide_eq_true_eq, decide_eq_true_eq]
    exact Int.le_total _ _
  refine ⟨perm, ?_, fun order => ?_⟩
  · exact (List.pairwise_mergeSort transitive total pages).imp of_decide_eq_true
  · have level : (ofOrder order pages).Pairwise fun first second =>
        decide (first.order ≤ second.order) = true := by
      refine List.pairwise_of_forall_mem_list fun first here second there => ?_
      have firstOrder := beq_iff_eq.mp (List.mem_filter.mp here).2
      have secondOrder := beq_iff_eq.mp (List.mem_filter.mp there).2
      rw [firstOrder, secondOrder]
      exact decide_eq_true (Int.le_refl order)
    have inside : List.Sublist (ofOrder order pages) (inOrder pages) :=
      List.sublist_mergeSort transitive total level List.filter_sublist
    have kept : List.Sublist (ofOrder order pages) (ofOrder order (inOrder pages)) := by
      have filtered := inside.filter fun page => page.order == order
      simpa only [ofOrder, List.filter_filter, Bool.and_self] using filtered
    exact (kept.eq_of_length (perm.filter _).length_eq.symm).symm

/-- Pages of different orders can be given in any order. -/
theorem inOrder_eq_of_perm (pages others : List Page) (same : others.Perm pages)
    (distinct : (pages.map Page.order).Nodup) : inOrder others = inOrder pages := by
  have sorted := inOrder_isStablySorted pages
  have otherSorted := inOrder_isStablySorted others
  refine List.Perm.eq_of_pairwise ?_ otherSorted.ordered sorted.ordered
    ((otherSorted.perm.trans same).trans sorted.perm.symm)
  intro first second here there below above
  have firstGiven := same.mem_iff.mp (otherSorted.perm.mem_iff.mp here)
  have secondGiven := sorted.perm.mem_iff.mp there
  exact List.inj_on_of_nodup_map distinct firstGiven secondGiven (Int.le_antisymm below above)

/-! ### The document -/

theorem pageElement_write (number : Nat) (background html : String) :
    (pageElement number background html).write =
      "<div class=\"report-page\" data-page=\"" ++ toString number ++ "\" style=\"background: "
        ++ Markup.escape background ++ ";\">" ++ html ++ "</div>" := by
  have front : "<div class=\"report-page\" data-page=\"" =
      "<div" ++ " class=\"report-page\"" ++ " data-page=\"" := by decide
  have middle : "\" style=\"background: " = "\"" ++ " style=\"" ++ "background: " := by decide
  rw [front, middle]
  simp only [pageElement, Markup.write, Markup.writeAll, Markup.openTag, Markup.attributeText,
    Markup.asWritten, List.map_cons, List.map_nil, String.join_cons, String.join_nil,
    String.append_assoc, String.append_empty, -String.reduceAppend]
  rfl

theorem pageBreak_write : pageBreak.write = "<div class=\"page-break\"></div>" := by decide

/-- A page in its element, by its number, and the page break after it unless it is the last of so many. -/
def writtenPage (s : Surroundings) (total index : Nat) (page : Page) : String :=
  "<div class=\"report-page\" data-page=\"" ++ toString (index + 1) ++ "\" style=\"background: "
    ++ Markup.escape page.background ++ ";\">" ++ (compile s page.canvas).html ++ "</div>"
    ++ if index + 1 = total then "" else "<div class=\"page-break\"></div>"

theorem pageMarkup_eq (s : Surroundings) (total index : Nat) (page : Page) (inside : index < total) :
    pageMarkup total page (compile s page.canvas) index = writtenPage s total index page := by
  have break_ : (if index + 1 < total then pageBreak.write else "") =
      if index + 1 = total then "" else "<div class=\"page-break\"></div>" := by
    rw [pageBreak_write]
    by_cases last : index + 1 = total
    · rw [if_pos last, if_neg (by omega)]
    · rw [if_neg last, if_pos (by omega)]
  unfold pageMarkup writtenPage
  rw [pageElement_write, break_]

/-- A document of several pages has what the compilations of its pages have, in the order of the pages: their
entries and findings one after the other, as many widgets as all of them, and the markup of each in an element
with its number. Pages of different orders can be given in any order. -/
theorem compilePages_spec (s : Surroundings) (pages : List Page) :
    ∃ sorted, (∀ others, IsStablySorted pages others ↔ others = sorted) ∧
      (compilePages s pages).components =
        sorted.flatMap (fun page => (compile s page.canvas).components) ∧
      (compilePages s pages).findings =
        sorted.flatMap (fun page => (compile s page.canvas).findings) ∧
      (compilePages s pages).widgetCount =
        (sorted.map fun page => (compile s page.canvas).widgetCount).foldr (· + ·) 0 ∧
      (compilePages s pages).html = join "\n" (sorted.mapIdx (writtenPage s sorted.length)) ∧
      ((pages.map Page.order).Nodup →
        ∀ others : List Page, others.Perm pages → compilePages s others = compilePages s pages) := by
  have sorted := inOrder_isStablySorted pages
  refine ⟨inOrder pages, fun others => ⟨sorted.unique pages _ others, ?_⟩, ?_, ?_, ?_, ?_, ?_⟩
  · rintro rfl
    exact sorted
  · simp [compilePages, Compiled.gather, List.flatMap_map]
  · simp [compilePages, Compiled.gather, List.flatMap_map]
  · simp [compilePages, Compiled.gather, Function.comp_def]
  · refine congrArg (join "\n") (List.ext_getElem (by simp) fun index inside _ => ?_)
    rw [List.length_mapIdx, List.length_map] at inside
    simp only [List.getElem_mapIdx, List.getElem_map]
    exact pageMarkup_eq s _ index _ inside
  · intro distinct others same
    rw [compilePages, inOrder_eq_of_perm pages others same distinct, compilePages]

theorem compilePages_swapped :
    let spacer : Tree := { nodes := [("a", .bare "a" "Spacer" [])], rootId := none }
    let front : Page := { (default : Page) with canvas := spacer, order := -1 }
    let back : Page := { (default : Page) with background := "#eeeeee", order := 2 }
    (compile .plain front.canvas).widgetCount = 1 ∧
      compilePages .plain [back, front] = compilePages .plain [front, back] := by
  intro spacer front back
  obtain ⟨_, _, _, _, _, _, free⟩ := compilePages_spec .plain [front, back]
  exact ⟨by decide +kernel, free (by decide) _ (List.Perm.swap front back [])⟩

/-! ### Ids of several pages -/

/-- The ids under which a page's widgets are entered for the embedded program. -/
def Page.entryIds (s : Surroundings) (page : Page) : List String :=
  (compile s page.canvas).components.map Component.id

theorem Page.nodup_entryIds (s : Surroundings) (page : Page) (standard : s.registry = .standard)
    (distinct : page.canvas.keys.Nodup) : (page.entryIds s).Nodup := by
  obtain ⟨visits, walk⟩ := Outline.ofTree_walk s page.canvas distinct ""
  have places : page.canvas.Places s (placed visits) := ⟨visits, walk, rfl⟩
  exact places.nodup_components_id standard

theorem map_id_compilePages (s : Surroundings) (pages : List Page) :
    (compilePages s pages).components.map Component.id =
      (inOrder pages).flatMap (Page.entryIds s) := by
  simp only [compilePages, Compiled.gather, List.map_map, List.flatMap_map, List.map_flatMap]
  rfl

theorem findings_compilePages_of_silent (s : Surroundings) (pages : List Page)
    (silent : ∀ page ∈ pages, (compile s page.canvas).findings = []) :
    (compilePages s pages).findings = [] := by
  simp only [compilePages, Compiled.gather, List.map_map, List.flatMap_map]
  exact List.flatMap_eq_nil_iff.mpr fun page member =>
    silent page ((List.mergeSort_perm pages _).mem_iff.mp member)

/-- Pages that are compiled without findings make a document without findings, and its entries have
different ids just when no two of the pages enter widgets under one id. -/
theorem compilePages_nodup_ids_iff (s : Surroundings) (pages : List Page)
    (standard : s.registry = .standard) (distinct : ∀ page ∈ pages, page.canvas.keys.Nodup)
    (silent : ∀ page ∈ pages, (compile s page.canvas).findings = []) :
    (compilePages s pages).findings = [] ∧
      (((compilePages s pages).components.map Component.id).Nodup ↔
        pages.Pairwise fun first second =>
          ∀ id ∈ first.entryIds s, id ∉ second.entryIds s) := by
  refine ⟨findings_compilePages_of_silent s pages silent, ?_⟩
  have perm : (inOrder pages).Perm pages := List.mergeSort_perm pages _
  have each : ∀ page ∈ inOrder pages, (page.entryIds s).Nodup := fun page member =>
    page.nodup_entryIds s standard (distinct page (perm.mem_iff.mp member))
  rw [map_id_compilePages, List.nodup_flatMap, and_iff_right each]
  exact perm.pairwise_iff fun apart => List.Disjoint.symm apart

/-- A page with one text that is bound to the data. -/
def textPage (id binding : String) : Page :=
  { (default : Page) with
    canvas :=
      { nodes := [(id, { Node.bare id "Text" [] with props := [("binding", .text binding)] })],
        rootId := none } }

theorem compilePages_nodup_ids_named :
    let pages := [textPage "name" "a", textPage "total" "b"]
    (∀ page ∈ pages, page.canvas.keys.Nodup ∧ (compile .plain page.canvas).findings = []) ∧
      ((compilePages .plain pages).components.map Component.id).Nodup := by
  intro pages
  have each : ∀ page ∈ pages,
      page.canvas.keys.Nodup ∧ (compile .plain page.canvas).findings = [] := by
    decide +kernel
  have apart : pages.Pairwise fun first second =>
      ∀ id ∈ first.entryIds .plain, id ∉ second.entryIds .plain := by
    decide +kernel
  exact ⟨each, (compilePages_nodup_ids_iff .plain pages rfl (fun page member => (each page member).1)
    fun page member => (each page member).2).2.mpr apart⟩

-- The embedded program looks for both entries under one id, and finds the first page's widget twice.
theorem compilePages_repeats_id :
    let pages := [textPage "t" "a", textPage "t" "b"]
    (∀ page ∈ pages, (compile .plain page.canvas).findings = []) ∧
      (compilePages .plain pages).findings = [] ∧
      ¬ ((compilePages .plain pages).components.map Component.id).Nodup := by
  intro pages
  have silent : ∀ page ∈ pages, (compile .plain page.canvas).findings = [] := by
    decide +kernel
  refine ⟨silent, findings_compilePages_of_silent .plain pages silent, ?_⟩
  have sorted : inOrder pages = pages := List.mergeSort_of_pairwise (by decide)
  rw [map_id_compilePages, sorted]
  decide +kernel

end ReportCompiler
