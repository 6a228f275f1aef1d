import ReportCompiler.Proofs.Compile.Splicing
import ReportCompiler.Proofs.Compile.Walk
import ReportCompiler.Proofs.Widget.Rendering

/-!
Templates read as trees: a widget with the branches of its children in their order. The markup of a
branch is the widget's own element with the markup of the children put before its end, and a walk that
never meets a widget twice makes just that.
-/

namespace ReportCompiler

open ReportCompiler.Text

inductive Branch where
  | node (key : String) (widget : Node) (parts : List Branch)

/-- What the renderer of a widget gives for it. -/
def Own.shell (s : Surroundings) (node : Node) : Widget.Rendered :=
  match s.registry.find? node.type with
  | some renderer =>
      match Own.render s renderer node with
      | .ok result => result
      | .error _ => { html := "", component := none }
  | none => { html := "", component := none }

namespace Branch

def key : Branch → String
  | node key _ _ => key

mutual

/-- The branch has the widget of its key and one branch for each child, in order. -/
def Grows (tree : Tree) : Branch → Prop
  | node key widget parts =>
      tree.find? key = some widget ∧ parts.map Branch.key = widget.children ∧ GrowAll tree parts

def GrowAll (tree : Tree) : List Branch → Prop
  | [] => True
  | branch :: rest => Grows tree branch ∧ GrowAll tree rest

end

mutual

/-- The widgets of a branch, each one before its children. -/
def entries : Branch → List (String × Node)
  | node key widget parts => (key, widget) :: entriesAll parts

def entriesAll : List Branch → List (String × Node)
  | [] => []
  | branch :: rest => entries branch ++ entriesAll rest

end

/-- An element's text without the six characters that close it. -/
def opening (html : String) : String := String.ofList (html.toList.take (html.length - 6))

mutual

/-- A widget without children is its own markup; the children of others go before the end of theirs. -/
def fragment (shell : Node → Widget.Rendered) : Branch → String
  | node _ widget [] => (shell widget).html
  | node _ widget (part :: parts) =>
      opening (shell widget).html ++ "\n"
        ++ join "\n" (fragment shell part :: fragments shell parts) ++ "\n</div>"

def fragments (shell : Node → Widget.Rendered) : List Branch → List String
  | [] => []
  | branch :: rest => fragment shell branch :: fragments shell rest

end

end Branch

theorem Branch.opening_close (before : String) : Branch.opening (before ++ "</div>") = before := by
  unfold Branch.opening
  simp [String.length]

/-! ### Walks that make branches -/

/-- The widget's own contribution is what its renderer gives, and its children go into its element. -/
structure Own.IsPlain (s : Surroundings) (node : Node) : Prop where
  html : (Own.ofNode s node).html = (Own.shell s node).html
  isOpen : (Own.ofNode s node).isOpen = !node.children.isEmpty
  closes : node.children ≠ [] → ∃ before, (Own.shell s node).html = before ++ "</div>"

theorem Own.IsPlain.openChildren_eq (s : Surroundings) (node : Node) (plain : Own.IsPlain s node) :
    openChildren s node = node.children := by
  rw [openChildren, plain.isOpen]
  cases node.children <;> rfl

namespace Branch

variable {s : Surroundings}

/-- The markup of a widget that is placed with its children's branches inside it. -/
theorem fragment_eq (key : String) (node : Node) (parts : List Branch)
    (plain : Own.IsPlain s node) (listed : parts.map Branch.key = node.children) :
    fragment (Own.shell s) (.node key node parts) =
      if (Own.ofNode s node).isOpen then
        Outline.splice (Own.ofNode s node).html (join "\n" (fragments (Own.shell s) parts))
      else (Own.ofNode s node).html := by
  cases parts with
  | nil =>
      have childless : node.children = [] := listed.symm
      rw [plain.isOpen, plain.html, childless]
      rfl
  | cons part parts =>
      have bearing : node.children ≠ [] := by simp [← listed]
      obtain ⟨before, closed⟩ := plain.closes bearing
      rw [plain.isOpen, plain.html, fragment, closed, opening_close, Outline.splice_close, fragments]
      simp [bearing]

end Branch

/-- A walk that only ever places widgets makes one branch for each key. -/
theorem Walk.exists_branches {s : Surroundings} {tree : Tree} {parent : String}
    {keys reached : List String} {parts : List Outline} {visits : List Visit}
    (walk : Walk s tree parent keys reached parts visits)
    (firsts : ∀ visit ∈ visits, visit.IsFirst)
    (plain : ∀ entry ∈ placed visits, Own.IsPlain s entry.2) :
    ∃ branches, branches.map Branch.key = keys ∧ Branch.GrowAll tree branches ∧
      Branch.entriesAll branches = placed visits ∧
      Outline.htmlAll parts = Branch.fragments (Own.shell s) branches := by
  induction walk with
  | done => exact ⟨[], rfl, trivial, rfl, rfl⟩
  | missing parent key rest reached parts visits absent later ih =>
      obtain ⟨⟨_, _, impossible⟩, _⟩ := List.forall_mem_cons.mp firsts
      cases impossible
  | again parent key rest reached node parts visits found known later ih =>
      obtain ⟨⟨_, _, impossible⟩, _⟩ := List.forall_mem_cons.mp firsts
      cases impossible
  | first parent key rest reached node inside parts within visits found fresh inner later ihIn ih =>
      obtain ⟨_, others⟩ := List.forall_mem_cons.mp firsts
      obtain ⟨firstsIn, firstsOut⟩ := List.forall_mem_append.mp others
      rw [placed_first, placed_append] at plain
      -- The branches of what is placed inside hang below this one; the rest stand beside it.
      obtain ⟨own, others⟩ := List.forall_mem_cons.mp plain
      obtain ⟨plainIn, plainOut⟩ := List.forall_mem_append.mp others
      obtain ⟨inner, keysIn, growIn, entriesIn, htmlIn⟩ := ihIn firstsIn plainIn
      obtain ⟨branches, keys, grow, entries, html⟩ := ih firstsOut plainOut
      have listed : inner.map Branch.key = node.children :=
        keysIn.trans (own.openChildren_eq s node)
      refine ⟨.node key node inner :: branches, ?_, ?_, ?_, ?_⟩
      · rw [List.map_cons, keys]
        rfl
      · exact ⟨⟨found, listed, growIn⟩, grow⟩
      · simp [Branch.entriesAll, Branch.entries, entriesIn, entries]
      · rw [Outline.htmlAll, Outline.html?, Branch.fragments,
          Branch.fragment_eq key node inner own listed, htmlIn, html]

end ReportCompiler
