import ReportCompiler.Number.Reader

/-!
Colours as text. Hexadecimal colours are read two digits at a time after every `#` is dropped, and
three digits stand for three pairs; colours by channel are `rgb` or `rgba` with decimal numbers.
-/

namespace ReportCompiler

open ReportCompiler.Text

namespace Color

/-- The pairs of digits of a hexadecimal colour. -/
def pairs (color : String) : List String :=
  let chars := color.toList.filter (· != '#')
  let full := if chars.length == 3 then chars.flatMap fun c => [c, c] else chars
  [0, 2, 4].map fun start => String.ofList ((full.drop start).take 2)

def channel (pair : String) : Except Fault Int :=
  match Reader.hexadecimal? pair with
  | some n => .ok n
  | none => .error (.badNumber pair)

/-- A hexadecimal colour with an opacity, which is kept between 0 and 1. -/
def withOpacity (color : String) (opacity : Number) : Except Fault String := do
  let channels ← (pairs color).mapM channel
  let kept := Number.max (.int 0) (Number.min (.int 1) opacity)
  return "rgba(" ++ join ", " (channels.map toString ++ [kept.text]) ++ ")"

/-! ### Channels in decimal -/

def skipBlanks (chars : List Char) : List Char := chars.dropWhile isBlank

def skip? (text : String) (chars : List Char) : Option (List Char) :=
  if text.toList.isPrefixOf chars then some (chars.drop text.toList.length) else none

def digits? (chars : List Char) : Option (List Char × List Char) :=
  let digits := chars.takeWhile isDecimalDigit
  if digits.isEmpty then none else some (digits, chars.dropWhile isDecimalDigit)

/-- An optional opacity and the closing parenthesis. -/
def closes (chars : List Char) : Bool :=
  match chars with
  | ')' :: _ => true
  | ',' :: rest =>
      let opacity := skipBlanks rest
      let isPart (c : Char) : Bool := isDecimalDigit c || c == '.'
      !(opacity.takeWhile isPart).isEmpty
        && (skipBlanks (opacity.dropWhile isPart)).head? == some ')'
  | _ => false

/-- The digits of the three channels of a colour at the front of a text. -/
def channelsAt? (chars : List Char) : Option (List (List Char)) := do
  let rest ← skip? "rgb" chars
  let rest := match rest with
    | 'a' :: rest => rest
    | rest => rest
  let rest ← skip? "(" (skipBlanks rest)
  let (red, rest) ← digits? (skipBlanks rest)
  let rest ← skip? "," (skipBlanks rest)
  let (green, rest) ← digits? (skipBlanks rest)
  let rest ← skip? "," (skipBlanks rest)
  let (blue, rest) ← digits? (skipBlanks rest)
  if closes (skipBlanks rest) then some [red, green, blue] else none

/-- The first colour by channel in a text. -/
def channels? : List Char → Option (List (List Char))
  | [] => none
  | c :: rest => (channelsAt? (c :: rest)).orElse fun _ => channels? rest

def hexChannel (digits : List Char) : Except Fault (List Char) :=
  match Reader.natural? digits with
  | some n => .ok (hexPadded 2 n)
  | none => .error (.badNumber (String.ofList digits))

/-- A colour by channel in hexadecimal; any other text as it is. -/
def hexadecimal (color : String) : Except Fault String :=
  if startsWith color "#" then .ok color
  else
    match channels? color.toList with
    | none => .ok color
    | some channels => do
        return String.ofList ('#' :: (← channels.mapM hexChannel).flatten)

end Color

end ReportCompiler
