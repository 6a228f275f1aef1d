import Mathlib.Data.List.Forall2
import ReportCompiler.Proofs.Markup.Reference

/-!
Markup read as elements inside each other. Tokens are put together one by one, and what stands around the
elements that are still open waits until they are closed; the text of a tree of markup is read as that tree.
-/

namespace ReportCompiler

namespace Markup

/-! ### Parts -/

/-- A character of text, as it is written, or an element with what is inside it. -/
inductive Part where
  | char (c : Char)
  | element (tag : String) (attributes : List Attribute) (inside : List Part)

namespace Part

/-- What is inside an element of that tag. -/
def inside? (tag : String) : Part → Option (List Part)
  | element other _ inside => if other = tag then some inside else none
  | char _ => none

def char? : Part → Option Char
  | char c => some c
  | element _ _ _ => none

/-- The text that parts stand for, where there is nothing but text. -/
def text? (parts : List Part) : Option String := (parts.mapM char?).map fun chars => decode (String.ofList chars)

theorem mapM_char? (chars : List Char) : (chars.map char).mapM char? = some chars := by
  induction chars with
  | nil => rfl
  | cons c chars ih =>
      rw [List.map_cons, List.mapM_cons, ih]
      rfl

end Part

/-! ### Reading -/

/-- An element that is not closed yet, and the parts before it. -/
structure Opened where
  tag : String
  attributes : List Attribute
  before : List Part

/-- The parts inside the innermost open element so far, and the elements that are open around them. -/
structure Nesting where
  parts : List Part
  around : List Opened

namespace Nesting

/-- One token. A closing tag has to be that of the innermost open element. -/
def step (nesting : Nesting) : Token → Option Nesting
  | .text c => some { nesting with parts := nesting.parts ++ [.char c] }
  | .opening tag attributes true => some { nesting with parts := nesting.parts ++ [.element tag attributes []] }
  | .opening tag attributes false =>
      some { parts := [], around := { tag, attributes, before := nesting.parts } :: nesting.around }
  | .closing tag =>
      match nesting.around with
      | innermost :: around =>
          if innermost.tag = tag then
            some { parts := innermost.before ++ [.element tag innermost.attributes nesting.parts], around }
          else none
      | [] => none

def run (nesting : Nesting) (tokens : List Token) : Option Nesting := tokens.foldlM step nesting

/-- The parts, unless an element is left open. -/
def closed? (nesting : Nesting) : Option (List Part) :=
  match nesting.around with
  | [] => some nesting.parts
  | _ :: _ => none

theorem step_closing (parts : List Part) (opened : Opened) (around : List Opened) :
    step { parts, around := opened :: around } (.closing opened.tag) =
      some { parts := opened.before ++ [.element opened.tag opened.attributes parts], around } :=
  if_pos rfl

theorem run_cons (nesting : Nesting) (token : Token) (rest : List Token) :
    nesting.run (token :: rest) = (nesting.step token).bind fun next => next.run rest := by
  rw [run, List.foldlM_cons]
  rfl

end Nesting

/-- The parts of a text of markup. -/
def read? (html : String) : Option (List Part) :=
  (lex html).bind fun tokens => (Nesting.run { parts := [], around := [] } tokens).bind Nesting.closed?

/-! ### Parts of a tree -/

mutual

def parts : Markup → List Part
  | verbatim source => source.toList.map .char
  | element tag attributes children => [.element tag attributes (partsAll children)]
  | single tag attributes => [.element tag attributes []]

def partsAll : List Markup → List Part
  | [] => []
  | node :: rest => parts node ++ partsAll rest

end

theorem text?_text (content : String) : Part.text? (text content).parts = some content := by
  rw [text, parts, Part.text?, Part.mapM_char?, Option.map_some, String.ofList_toList, decode_escape]

theorem mapM_partsAll {α : Type} (read : Part → Option α) (nodes : List Markup) (values : List α)
    (each : List.Forall₂ (fun node value => ∃ part, node.parts = [part] ∧ read part = some value) nodes
      values) :
    (partsAll nodes).mapM read = some values := by
  induction each with
  | nil => rfl
  | cons here _ ih =>
      obtain ⟨part, alone, made⟩ := here
      rw [partsAll, alone, List.singleton_append, List.mapM_cons, made, ih]
      rfl

theorem Nesting.run_text (nesting : Nesting) (chars : List Char) (rest : List Token) :
    nesting.run (chars.map Token.text ++ rest) =
      run { nesting with parts := nesting.parts ++ chars.map .char } rest := by
  induction chars generalizing nesting with
  | nil => simp
  | cons c chars ih =>
      rw [List.map_cons, List.cons_append, run_cons, step, Option.bind_some, ih]
      simp

mutual

-- Whatever is open around it, a tree adds its parts and leaves nothing open: the parts before an element wait
-- with it while its children are read, and come back in front of it at its closing tag.
theorem run_tokens (rest : List Token) : (node : Markup) → (nesting : Nesting) →
    nesting.run (node.tokens ++ rest) = Nesting.run { nesting with parts := nesting.parts ++ node.parts } rest
  | verbatim source, nesting => by rw [tokens, Nesting.run_text, parts]
  | element tag attributes children, nesting => by
      rw [tokens, List.cons_append, List.append_assoc, Nesting.run_cons, Nesting.step, Option.bind_some,
        run_tokensAll _ children, List.singleton_append, Nesting.run_cons, Nesting.step_closing, Option.bind_some,
        parts, List.nil_append]
  | single tag attributes, nesting => by
      rw [tokens, List.singleton_append, Nesting.run_cons, Nesting.step, Option.bind_some, parts]

theorem run_tokensAll (rest : List Token) : (nodes : List Markup) → (nesting : Nesting) →
    nesting.run (tokensAll nodes ++ rest) =
      Nesting.run { nesting with parts := nesting.parts ++ partsAll nodes } rest
  | [], nesting => by simp [tokensAll, partsAll]
  | node :: others, nesting => by
      rw [tokensAll, List.append_assoc, run_tokens _ node, run_tokensAll rest others, partsAll, List.append_assoc]

end

/-- A tree whose names are names and whose texts and values do not end before their time is read as its parts. -/
theorem read?_write (node : Markup) (named : node.All Token.IsNamed) (enclosed : node.All Token.IsEnclosed) :
    read? node.write = some node.parts := by
  have whole := run_tokens [] node { parts := [], around := [] }
  rw [List.append_nil, List.nil_append] at whole
  rw [read?, lex_write node named enclosed, Option.bind_some, whole]
  rfl

end Markup

end ReportCompiler
