import ReportCompiler.Compile.Basic
import ReportCompiler.Proofs.Template.Keys

/-!
Where the entries of a compiled template come from: every one of them is an entry of some widget in the map,
whatever the keys of the map are.
-/

namespace ReportCompiler

namespace Outline

variable (s : Surroundings) (tree : Tree) (holds : Component → Prop)

theorem all_componentsAll_partsOf (place : Node → List String → Reached Outline) (parent : String)
    (one : ∀ entry ∈ tree.nodes, ∀ reached, ∀ component ∈ (place entry.2 reached).1.components,
      holds component) (keys reached : List String) :
    ∀ component ∈ componentsAll (partsOf tree parent place keys reached).1, holds component := by
  induction keys generalizing reached with
  | nil => exact List.forall_mem_nil _
  | cons key rest ih =>
      rw [partsOf]
      split
      · exact ih reached
      · next child found =>
          have here := one (key, child) (tree.mem_of_find? key child found) reached
          intro component member
          rcases List.mem_append.mp member with inside | later
          · exact here component inside
          · exact ih _ component later

variable (each : ∀ entry ∈ tree.nodes, ∀ component ∈ (Own.ofNode s entry.2).components, holds component)
include each

theorem all_components_widget (entry : String × Node) (listed : entry ∈ tree.nodes) (parts : List Outline)
    (inside : ∀ component ∈ componentsAll parts, holds component) :
    ∀ component ∈ (widget (Own.ofNode s entry.2) parts).components, holds component := by
  intro component member
  rcases List.mem_append.mp member with own | later
  · exact each entry listed component own
  · exact inside component later

-- A widget that is met again has no entry, and one that is placed has its own before those of its children.
theorem all_components_place (depth : Nat) (entry : String × Node) (listed : entry ∈ tree.nodes)
    (reached : List String) :
    ∀ component ∈ (place s tree depth entry.2 reached).1.components, holds component := by
  induction depth generalizing entry reached with
  | zero =>
      have alone := all_components_widget s tree holds each entry listed [] (List.forall_mem_nil _)
      rw [place]
      split
      · exact List.forall_mem_nil _
      · dsimp only
        split <;> exact alone
  | succ depth ih =>
      have inside := all_componentsAll_partsOf tree holds (place s tree depth) entry.2.id
        (fun child member others => ih child member others) entry.2.children (entry.2.id :: reached)
      rw [place]
      split
      · exact List.forall_mem_nil _
      · dsimp only
        split
        · exact all_components_widget s tree holds each entry listed _ inside
        · exact all_components_widget s tree holds each entry listed [] (List.forall_mem_nil _)

theorem all_components_placeAll (nodes : List Node)
    (listed : ∀ node ∈ nodes, ∃ entry ∈ tree.nodes, entry.2 = node) (reached : List String) :
    ∀ component ∈ componentsAll (placeAll s tree nodes reached).1, holds component := by
  induction nodes generalizing reached with
  | nil => exact List.forall_mem_nil _
  | cons node rest ih =>
      obtain ⟨⟨entry, member, rfl⟩, others⟩ := List.forall_mem_cons.mp listed
      intro component inside
      rcases List.mem_append.mp inside with here | later
      · exact all_components_place s tree holds each tree.size entry member reached component here
      · exact ih others _ component later

end Outline

variable (s : Surroundings) (holds : Component → Prop)

/-- What holds of the entries of all widgets holds of the entries of the template. -/
theorem compile_forall_components (tree : Tree)
    (each : ∀ entry ∈ tree.nodes, ∀ component ∈ (Own.ofNode s entry.2).components, holds component) :
    ∀ component ∈ (compile s tree).components, holds component := by
  rw [compile]
  split
  · exact List.forall_mem_nil _
  · split
    · exact List.forall_mem_nil _
    · refine Outline.all_components_placeAll s tree holds each tree.roots ?_ []
      intro node member
      obtain ⟨entry, kept, rfl⟩ := List.mem_map.mp member
      exact ⟨entry, (List.mem_filter.mp kept).1, rfl⟩

theorem compilePages_forall_components (pages : List Page)
    (each : ∀ page ∈ pages, ∀ entry ∈ page.canvas.nodes, ∀ component ∈ (Own.ofNode s entry.2).components,
      holds component) :
    ∀ component ∈ (compilePages s pages).components, holds component := by
  intro component member
  obtain ⟨compiled, made, inside⟩ := List.mem_flatMap.mp member
  obtain ⟨⟨page, _⟩, paired, rfl⟩ := List.mem_map.mp made
  obtain ⟨page, ordered, same⟩ := List.mem_map.mp paired
  cases same
  have listed : page ∈ pages := (List.mergeSort_perm pages _).mem_iff.mp ordered
  exact compile_forall_components s holds page.canvas (each page listed) component inside

end ReportCompiler
