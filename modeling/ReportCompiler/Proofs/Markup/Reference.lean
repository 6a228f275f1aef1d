import ReportCompiler.Proofs.Markup.ReadBack
import ReportCompiler.Text.Digit

/-!
The first token of a text of markup, and what its values stand for. The reader stops at the first token, so
whatever comes after an opening tag does not matter to it. Character references are decoded by name and by
number; decoding gives back every text that was escaped.
-/

namespace ReportCompiler

open ReportCompiler.Text

/-! ### The first token -/

namespace Lexer

/-- The first token from a place on; nothing after it is read. -/
def firstFrom : State → List Char → Option Token
  | _, [] => none
  | state, c :: rest =>
      match step state c with
      | some (_, token :: _) => some token
      | some (next, []) => firstFrom next rest
      | none => none

-- The induction is on the text up to the end of the token: until then no token comes out, and then this one
-- does.
theorem firstFrom_of_readFrom (token : Token) (more : List Token) (rest : List Char) (state : State)
    (chars : List Char) (read : readFrom state chars = some (token :: more)) :
    firstFrom state (chars ++ rest) = some token := by
  induction chars generalizing state with
  | nil => cases state <;> cases read
  | cons c chars ih =>
      rw [readFrom] at read
      rw [List.cons_append, firstFrom]
      split at read
      · next next tokens moved =>
          obtain ⟨later, others, same⟩ := Option.map_eq_some_iff.mp read
          cases tokens with
          | nil =>
              rw [List.nil_append] at same
              rw [moved]
              exact ih next (by rw [others, same])
          | cons first between =>
              rw [List.cons_append, List.cons.injEq] at same
              rw [moved, same.1]
      · cases read

end Lexer

namespace Markup

open Lexer

/-- The token that a text of markup begins with. -/
def firstToken? (html : String) : Option Token := firstFrom .content html.toList

theorem firstToken?_openTag (tag : String) (attributes : List Attribute) (rest : String)
    (proper : isName tag = true) (named : ∀ a ∈ attributes, isName a.name = true)
    (enclosed : ∀ a ∈ attributes, '"' ∉ a.source.toList) :
    firstToken? (openTag tag attributes ++ ">" ++ rest) = some (.opening tag attributes false) := by
  have read : readFrom .content ((openTag tag attributes).toList ++ ['>']) =
      some [.opening tag attributes false] := by
    rw [readFrom_openTag tag attributes '>' [] proper named enclosed (by decide),
      readFrom_step (.afterValue tag attributes) .content '>' [] [.opening tag attributes false] rfl,
      readFrom, Option.map_some, List.append_nil]
  have first := firstFrom_of_readFrom _ _ rest.toList .content _ read
  simpa [firstToken?] using first

/-! ### Character references -/

/-- The characters that have a name in every dialect of markup. -/
def namedCharacters : List (String × Char) :=
  [("amp", '&'), ("lt", '<'), ("gt", '>'), ("quot", '"'), ("apos", '\'')]

/-- The character that a reference stands for, by its number in decimal or by its name. -/
def referenced? : List Char → Option Char
  | '#' :: digits =>
      if digits != [] && digits.all Char.isDigit then some (Char.ofNat (digitsValue digits)) else none
  | name => namedCharacters.lookup (String.ofList name)

/-- A reference as it is written, from the ampersand to its last character. -/
def reference (name : List Char) : List Char := '&' :: (name ++ [';'])

/-- The characters that a text stands for. After an ampersand, what may be the name of a reference is held
until a semicolon shows that it was one. -/
def decodeFrom : Option (List Char) → List Char → List Char
  | none, [] => []
  | some name, [] => '&' :: name
  | none, c :: rest => if c = '&' then decodeFrom (some []) rest else c :: decodeFrom none rest
  | some name, c :: rest =>
      if c = ';' then
        match referenced? name with
        | some known => known :: decodeFrom none rest
        | none => reference name ++ decodeFrom none rest
      else if c = '&' then '&' :: (name ++ decodeFrom (some []) rest)
      else decodeFrom (some (name ++ [c])) rest

/-- The text that a value or a content stands for. -/
def decode (source : String) : String := String.ofList (decodeFrom none source.toList)

theorem decodeFrom_name (held more rest : List Char) (goesOn : ';' ∉ more) (fresh : '&' ∉ more) :
    decodeFrom (some held) (more ++ rest) = decodeFrom (some (held ++ more)) rest := by
  induction more generalizing held with
  | nil => simp
  | cons c more ih =>
      rw [List.mem_cons, not_or] at goesOn fresh
      have later := ih (held ++ [c]) goesOn.2 fresh.2
      rw [List.cons_append, decodeFrom, if_neg (Ne.symm goesOn.1), if_neg (Ne.symm fresh.1), later]
      simp

theorem decodeFrom_reference (name rest : List Char) (c : Char) (goesOn : ';' ∉ name)
    (fresh : '&' ∉ name) (known : referenced? name = some c) :
    decodeFrom none (reference name ++ rest) = c :: decodeFrom none rest := by
  rw [reference, List.cons_append, List.append_assoc, decodeFrom, if_pos rfl,
    decodeFrom_name [] name _ goesOn fresh, List.nil_append, List.singleton_append, decodeFrom, if_pos rfl,
    known]

/-! ### Escaped text -/

/-- The characters that are escaped, with the names of the references that they are escaped to. -/
def escapeNames : List (Char × String) :=
  [('&', "amp"), ('<', "lt"), ('>', "gt"), ('"', "quot"), ('\'', "#039")]

theorem toList_escapeChar (c : Char) :
    (escapeChar c).toList =
      match escapeNames.lookup c with
      | some name => reference name.toList
      | none => [c] := by
  by_cases special : c = '&' ∨ c = '<' ∨ c = '>' ∨ c = '"' ∨ c = '\''
  · rcases special with rfl | rfl | rfl | rfl | rfl <;> decide
  · simp only [not_or] at special
    have absent : escapeNames.lookup c = none := by
      simp [List.lookup_eq_none_iff, escapeNames, special]
    rw [absent]
    simp [escapeChar, special]

theorem escapeNames_referenced :
    ∀ entry ∈ escapeNames, referenced? entry.2.toList = some entry.1 ∧
      ';' ∉ entry.2.toList ∧ '&' ∉ entry.2.toList := by
  decide

theorem decodeFrom_escapeChar (c : Char) (rest : List Char) :
    decodeFrom none ((escapeChar c).toList ++ rest) = c :: decodeFrom none rest := by
  rw [toList_escapeChar]
  cases found : escapeNames.lookup c with
  | none =>
      have ordinary : c ≠ '&' := by
        rintro rfl
        cases found
      rw [List.singleton_append, decodeFrom, if_neg ordinary]
  | some name =>
      obtain ⟨before, after, whole, _⟩ := List.lookup_eq_some_iff.mp found
      have listed : (c, name) ∈ escapeNames := by simp [whole]
      obtain ⟨known, goesOn, fresh⟩ := escapeNames_referenced (c, name) listed
      exact decodeFrom_reference name.toList rest c goesOn fresh known

/-- A text that was escaped is decoded to what it was. -/
theorem decode_escape (text : String) : decode (escape text) = text := by
  have all : ∀ chars : List Char, decodeFrom none (chars.flatMap fun c => (escapeChar c).toList) = chars := by
    intro chars
    induction chars with
    | nil => rfl
    | cons c chars ih => rw [List.flatMap_cons, decodeFrom_escapeChar, ih]
  have written : (escape text).toList = text.toList.flatMap fun c => (escapeChar c).toList := by
    simp [escape, expand, String.toList_join, List.flatMap_map]
  rw [decode, written, all, String.ofList_toList]

end Markup

/-! ### Attributes -/

/-- What the value of an attribute stands for. -/
def Attribute.content (a : Attribute) : String := Markup.decode a.source

/-- The content of an attribute of an opening tag, the first of that name. -/
def Token.attribute? (name : String) : Token → Option String
  | .opening _ attributes _ => (attributes.find? (·.name == name)).map Attribute.content
  | _ => none

end ReportCompiler
