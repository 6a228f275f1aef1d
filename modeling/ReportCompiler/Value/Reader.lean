import ReportCompiler.Number.Reader
import ReportCompiler.Value.Basic

/-!
Values read from JSON text. The order of fields is kept; a repeated key keeps its first place and its
last value. A number with a point or an exponent is a double, any other an integer of any size, and
the names of the numbers that are not finite are read too. A failure carries the offset, in
characters, at which the text stops making sense.
-/

namespace ReportCompiler

/-- Where reading stopped, in characters from the start. -/
structure JsonError where
  offset : Nat
deriving DecidableEq, Repr

namespace JsonReader

/-- Reading fails with the number of characters left; the wrapper turns that into an offset. -/
def failAt {α : Type} (rest : List Char) : Except Nat α := .error rest.length

def isSpace (c : Char) : Bool := c == ' ' || c == '\t' || c == '\n' || c == '\r'

def skipSpace (chars : List Char) : List Char := chars.dropWhile isSpace

def isAsciiDigit (c : Char) : Bool := 48 ≤ c.toNat && c.toNat ≤ 57

/-! ### Numbers -/

def takeAsciiDigits (chars : List Char) : List Char × List Char :=
  (chars.takeWhile isAsciiDigit, chars.dropWhile isAsciiDigit)

/-- Digits without a needless leading zero. -/
def takeWhole? (chars : List Char) : Option (List Char × List Char) :=
  match chars with
  | '0' :: rest => some (['0'], rest)
  | _ =>
      let (digits, rest) := takeAsciiDigits chars
      if digits.isEmpty then none else some (digits, rest)

def takeFraction (chars : List Char) : List Char × List Char :=
  match chars with
  | '.' :: rest =>
      let (digits, remaining) := takeAsciiDigits rest
      if digits.isEmpty then ([], chars) else (digits, remaining)
  | _ => ([], chars)

/-- An exponent; a letter without digits after it is left for what follows. -/
def takePower (chars : List Char) : Option Int × List Char :=
  match chars with
  | c :: rest =>
      if c == 'e' || c == 'E' then
        let (negative, unsigned) := Reader.takeSign rest
        let (digits, remaining) := takeAsciiDigits unsigned
        if digits.isEmpty then (none, chars)
        else
          let power : Int := Text.digitsValue digits
          (some (if negative then -power else power), remaining)
      else (none, chars)
  | [] => (none, [])

/-- An optional minus and the rest; a plus is no part of JSON. -/
def takeMinus : List Char → Bool × List Char
  | '-' :: rest => (true, rest)
  | chars => (false, chars)

def readNumber (chars : List Char) : Except Nat (Value × List Char) :=
  let (negative, unsigned) := takeMinus chars
  match takeWhole? unsigned with
  | none => failAt chars
  | some (whole, rest) =>
      let (fraction, rest) := takeFraction rest
      let (power, rest) := takePower rest
      let magnitude := Text.digitsValue (whole ++ fraction)
      if fraction.isEmpty && power.isNone then
        .ok (.int (if negative then -(magnitude : Int) else magnitude), rest)
      else
        .ok (.double (Double.ofDecimal negative magnitude (power.getD 0 - fraction.length)), rest)

/-! ### Texts -/

def simpleEscape? (c : Char) : Option Char :=
  match c with
  | '"' => some '"'
  | '\\' => some '\\'
  | '/' => some '/'
  | 'b' => some (Char.ofNat 8)
  | 'f' => some (Char.ofNat 12)
  | 'n' => some '\n'
  | 'r' => some '\r'
  | 't' => some '\t'
  | _ => none

def hexDigit? (c : Char) : Option Nat := if c.toNat < 128 then Reader.hexValue? c else none

/-- Four hexadecimal digits. -/
def takeUnit? (chars : List Char) : Option (Nat × List Char) :=
  let digits := chars.take 4
  if digits.length = 4 && digits.all fun c => (hexDigit? c).isSome then
    some (digits.foldl (fun value c => 16 * value + (hexDigit? c).getD 0) 0, chars.drop 4)
  else none

def isHighSurrogate (unit : Nat) : Bool := 0xd800 ≤ unit && unit ≤ 0xdbff

def isLowSurrogate (unit : Nat) : Bool := 0xdc00 ≤ unit && unit ≤ 0xdfff

/-- A unit as a character; half a surrogate pair becomes the replacement character. -/
def unitChar (unit : Nat) : Char :=
  if isHighSurrogate unit || isLowSurrogate unit then Char.ofNat 0xfffd else Char.ofNat unit

/-- The low half that follows a high surrogate. -/
def takeLowHalf? (chars : List Char) : Option (Nat × List Char) :=
  match chars with
  | '\\' :: 'u' :: rest =>
      match takeUnit? rest with
      | some (unit, remaining) => if isLowSurrogate unit then some (unit, remaining) else none
      | none => none
  | _ => none

/-- The characters up to the closing quote. `opening` is what is left at the opening quote. -/
def readText (opening : Nat) : Nat → List Char → List Char → Except Nat (String × List Char)
  | 0, _, _ => .error opening
  | _ + 1, [], _ => .error opening
  | fuel + 1, c :: rest, found =>
      if c == '"' then .ok (String.ofList found.reverse, rest)
      else if c.toNat < 32 then failAt (c :: rest)
      else if c == '\\' then
        match rest with
        | [] => .error opening
        | 'u' :: digits =>
            match takeUnit? digits with
            | none => failAt rest
            | some (unit, remaining) =>
                if isHighSurrogate unit then
                  match takeLowHalf? remaining with
                  | some (low, remaining) =>
                      let code := 0x10000 + (unit - 0xd800) * 0x400 + (low - 0xdc00)
                      readText opening fuel remaining (Char.ofNat code :: found)
                  | none => readText opening fuel remaining (unitChar unit :: found)
                else readText opening fuel remaining (unitChar unit :: found)
        | escaped :: remaining =>
            match simpleEscape? escaped with
            | some plain => readText opening fuel remaining (plain :: found)
            | none => failAt (c :: rest)
      else readText opening fuel rest (c :: found)

/-! ### Values -/

/-- The names that stand for values in JSON. -/
def standardNames : List (String × Value) :=
  [("null", .null), ("true", .bool true), ("false", .bool false)]

/-- The names that are read: besides those of JSON, the names of the numbers that are not finite. -/
def allNames : List (String × Value) :=
  standardNames ++ [("NaN", .double .nan), ("Infinity", .double (.infinite false)),
    ("-Infinity", .double (.infinite true))]

section Values

-- The names that are read as values.
variable (names : List (String × Value))

def readName? (chars : List Char) : Option (Value × List Char) :=
  (names.find? fun entry => entry.1.toList.isPrefixOf chars).map
    fun entry => (entry.2, chars.drop entry.1.toList.length)

mutual

def readValue : Nat → List Char → Except Nat (Value × List Char)
  | 0, chars => failAt chars
  | fuel + 1, chars =>
      match chars with
      | [] => failAt chars
      | '"' :: rest => do
          let (text, rest) ← readText chars.length (rest.length + 1) rest []
          return (.text text, rest)
      | '\x7b' :: rest =>
          match skipSpace rest with
          | '\x7d' :: rest => .ok (.object [], rest)
          | rest => do
              let (fields, rest) ← readFields fuel rest
              return (.object (Fields.ofList fields), rest)
      | '[' :: rest =>
          match skipSpace rest with
          | ']' :: rest => .ok (.list [], rest)
          | rest => do
              let (items, rest) ← readItems fuel rest
              return (.list items, rest)
      | _ =>
          match readName? names chars with
          | some result => .ok result
          | none => readNumber chars

def readItems : Nat → List Char → Except Nat (List Value × List Char)
  | 0, chars => failAt chars
  | fuel + 1, chars => do
      let (item, rest) ← readValue fuel chars
      match skipSpace rest with
      | ']' :: rest => return ([item], rest)
      | ',' :: rest =>
          let (items, rest) ← readItems fuel (skipSpace rest)
          return (item :: items, rest)
      | rest => failAt rest

def readFields : Nat → List Char → Except Nat (List (String × Value) × List Char)
  | 0, chars => failAt chars
  | fuel + 1, chars =>
      match chars with
      | '"' :: rest => do
          let (key, rest) ← readText chars.length (rest.length + 1) rest []
          match skipSpace rest with
          | ':' :: rest =>
              let (value, rest) ← readValue fuel (skipSpace rest)
              match skipSpace rest with
              | '\x7d' :: rest => return ([(key, value)], rest)
              | ',' :: rest =>
                  let (fields, rest) ← readFields fuel (skipSpace rest)
                  return ((key, value) :: fields, rest)
              | rest => failAt rest
          | rest => failAt rest
      | _ => failAt chars

end

/-- A text that holds one value and nothing else. A byte order mark is not part of JSON. -/
def readWith (text : String) : Except JsonError Value :=
  let chars := text.toList
  let outcome : Except Nat Value := do
    if chars.head? == some (Char.ofNat 0xfeff) then failAt chars
    else
      let (value, rest) ← readValue names (chars.length + 1) (skipSpace chars)
      match skipSpace rest with
      | [] => return value
      | rest => failAt rest
  match outcome with
  | .ok value => .ok value
  | .error left => .error { offset := chars.length - left }

end Values

def read (text : String) : Except JsonError Value := readWith allNames text

/-! ### Long integers -/

/-- What follows a text whose opening quote has been passed. -/
def afterText : List Char → List Char
  | [] => []
  | '"' :: rest => rest
  | '\\' :: _ :: rest => afterText rest
  | _ :: rest => afterText rest

/-- The first integer that has too many digits. -/
def longIntegerIn? : Nat → List Char → Option Int
  | 0, _ => none
  | _ + 1, [] => none
  | fuel + 1, '"' :: rest => longIntegerIn? fuel (afterText rest)
  | fuel + 1, c :: rest =>
      match readNumber (c :: rest) with
      | .ok (.number (.int n), after) =>
          if 10 ^ Reader.greatestDigitCount ≤ n.natAbs then some n else longIntegerIn? fuel after
      | .ok (_, after) => longIntegerIn? fuel after
      | .error _ => longIntegerIn? fuel rest

/-- The first integer of too many digits in a text, as far as the text makes sense. -/
def longInteger? (text : String) : Option Int :=
  let chars :=
    match read text with
    | .ok _ => text.toList
    | .error error => text.toList.take error.offset
  longIntegerIn? chars.length chars

end JsonReader

end ReportCompiler
