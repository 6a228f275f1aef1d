import ReportCompiler.Asset.Inline
import ReportCompiler.Proofs.Template.Keys
import ReportCompiler.Proofs.Value.Fields
import ReportCompiler.Proofs.Value.Leaves

/-!
Putting images inside a template changes texts to texts and nothing else: the template keeps its keys, and
its values keep what holds of their leaves.
-/

namespace ReportCompiler

namespace Asset

variable (leaf : Value → Prop) (images : List (String × String))

mutual

theorem all_replaceIn (text : ∀ s, leaf (.text s)) :
    (value : Value) → value.All leaf → (replaceIn images value).All leaf
  | .null, all => all
  | .bool _, all => all
  | .number _, all => all
  | .date _, all => all
  | .moment _, all => all
  | .text _, _ => by simpa [replaceIn] using text _
  | .list items, all => by
      rw [replaceIn, Value.All]
      exact all_replaceInItems text items all
  | .object fields, all => by
      rw [replaceIn, Value.All]
      exact all_replaceInFields text fields all

theorem all_replaceInItems (text : ∀ s, leaf (.text s)) : (items : List Value) →
    Value.AllItems leaf items → Value.AllItems leaf (replaceInItems images items)
  | [], _ => trivial
  | item :: rest, all => by
      obtain ⟨first, others⟩ := all
      exact ⟨all_replaceIn text item first, all_replaceInItems text rest others⟩

theorem all_replaceInFields (text : ∀ s, leaf (.text s)) : (fields : List (String × Value)) →
    Value.AllFields leaf fields → Value.AllFields leaf (replaceInFields images fields)
  | [], _ => trivial
  | (_, value) :: rest, all => by
      obtain ⟨first, others⟩ := all
      exact ⟨all_replaceIn text value first, all_replaceInFields text rest others⟩

end

theorem all_replaceInProps (text : ∀ s, leaf (.text s)) (props : Fields)
    (all : Fields.All leaf props) : Fields.All leaf (replaceInProps images props) := by
  intro field member
  obtain ⟨⟨key, value⟩, inside, rfl⟩ := List.mem_map.mp member
  simp only
  split
  · exact all_replaceIn leaf images text value (all _ inside)
  · exact all _ inside

theorem all_replaceInTree (text : ∀ s, leaf (.text s)) (tree : Tree)
    (all : ∀ entry ∈ tree.nodes, Fields.All leaf entry.2.props) :
    ∀ entry ∈ (replaceInTree images tree).nodes, Fields.All leaf entry.2.props := by
  intro entry member
  obtain ⟨⟨key, node⟩, inside, rfl⟩ := List.mem_map.mp member
  exact all_replaceInProps leaf images text node.props (all _ inside)

theorem keys_replaceInTree (tree : Tree) : (replaceInTree images tree).keys = tree.keys := by
  simp [replaceInTree, Tree.keys]

-- Settings under other names than those of images stay as they are, in their places.
theorem without_replaceInProps (props : Fields) :
    Fields.without imageProps (replaceInProps images props) = Fields.without imageProps props := by
  unfold replaceInProps Fields.without
  rw [List.filter_map, List.map_congr_left]
  · exact List.map_id _
  · intro field member
    have other : field.1 ∉ imageProps := by
      simpa using (List.mem_filter.mp member).2
    simp [other]

end Asset

end ReportCompiler
