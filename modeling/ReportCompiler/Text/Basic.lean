import ReportCompiler.Text.Blank

/-!
Cutting and joining text. The functions scan lists of characters; those on `String` are the same
functions seen through `String.toList` and `String.ofList`.
-/

namespace ReportCompiler.Text

/-! ### Trimming -/

def trimLeft (chars : List Char) : List Char := chars.dropWhile isBlank

def trimRight (chars : List Char) : List Char := (trimLeft chars.reverse).reverse

def trimChars (chars : List Char) : List Char := trimRight (trimLeft chars)

def trim (text : String) : String := String.ofList (trimChars text.toList)

/-- Nothing but blanks, possibly nothing at all. -/
def isBlankText (text : String) : Bool := text.toList.all isBlank

theorem trimLeft_nil : trimLeft [] = [] := rfl

theorem trimLeft_cons_blank {c : Char} (h : isBlank c = true) (rest : List Char) :
    trimLeft (c :: rest) = trimLeft rest := by
  simp [trimLeft, h]

theorem trimLeft_cons_of_not_blank {c : Char} (h : isBlank c = false) (rest : List Char) :
    trimLeft (c :: rest) = c :: rest := by
  simp [trimLeft, h]

/-! ### Searching and splitting -/

/-- Whether `part` occurs somewhere in the text. -/
def occurs (part : List Char) : List Char → Bool
  | [] => part.isEmpty
  | c :: rest => part.isPrefixOf (c :: rest) || occurs part rest

def contains (text part : String) : Bool := occurs part.toList text.toList

def startsWith (text part : String) : Bool := part.toList.isPrefixOf text.toList

def endsWith (text part : String) : Bool := part.toList.isSuffixOf text.toList

/-- The pieces between the separators; always one more than there are separators. -/
def split (separator : Char) (text : String) : List String :=
  (text.toList.splitOn separator).map String.ofList

def join (separator : String) (parts : List String) : String := separator.intercalate parts

/-- What follows the last separator, or the whole text when there is none. -/
def afterLast (separator : Char) (text : String) : String :=
  String.ofList (text.toList.reverse.takeWhile (· != separator)).reverse

/-- What precedes the first separator, or the whole text when there is none. -/
def beforeFirst (separator : Char) (text : String) : String :=
  String.ofList (text.toList.takeWhile (· != separator))

/-- Characters dropped from the front of a text. -/
def dropFront (count : Nat) (text : String) : String := String.ofList (text.toList.drop count)

def takeFront (count : Nat) (text : String) : String := String.ofList (text.toList.take count)

def dropBack (count : Nat) (text : String) : String :=
  String.ofList (text.toList.take (text.toList.length - count))

/-- Every character replaced by a text of its own. -/
def expand (image : Char → String) (text : String) : String :=
  String.join (text.toList.map image)

theorem expand_append (image : Char → String) (first second : String) :
    expand image (first ++ second) = expand image first ++ expand image second := by
  simp [expand, String.toList_append]

/-! ### Order and padding -/

/-- Order by code point, the first difference deciding. -/
def precedes (first second : String) : Bool := first.toList < second.toList

def padLeft (width : Nat) (fill : Char) (chars : List Char) : List Char :=
  List.replicate (width - chars.length) fill ++ chars

/-- A natural number in decimal, padded with zeros to a least width. -/
def padded (width n : Nat) : String :=
  String.ofList (padLeft width '0' (Nat.toDigits 10 n))

/-- Lower-case hexadecimal digits, padded with zeros to a least width. -/
def hexPadded (width n : Nat) : List Char := padLeft width '0' (Nat.toDigits 16 n)

end ReportCompiler.Text
