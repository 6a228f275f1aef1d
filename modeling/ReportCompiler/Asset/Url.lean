import ReportCompiler.Text.Basic
import ReportCompiler.Text.Case
import ReportCompiler.Value.Basic

/-!
Addresses of images: which ones hold the image themselves, which ones lead outside, and what kind of
image an address promises.
-/

namespace ReportCompiler

open ReportCompiler.Text

namespace Asset

/-- Whether the address holds the image itself. -/
def isData (url : String) : Bool := startsWith url "data:"

def isExternal (url : String) : Bool :=
  !isData url && (startsWith url "http://" || startsWith url "https://")

/-- Image types by file extension. -/
def types : List (String × String) :=
  [("png", "image/png"), ("jpg", "image/jpeg"), ("jpeg", "image/jpeg"), ("gif", "image/gif"),
    ("webp", "image/webp"), ("svg", "image/svg+xml"), ("bmp", "image/bmp"), ("ico", "image/x-icon"),
    ("tiff", "image/tiff"), ("tif", "image/tiff")]

/-- What follows the last point, up to a question mark. -/
def extension (url : String) : String := beforeFirst '?' (lower (afterLast '.' url))

/-- The type of an image by its address; PNG where the address says nothing. -/
def typeOf (url : String) : String := (types.lookup (extension url)).getD "image/png"

/-! ### Addresses in settings -/

/-- The settings that hold images. -/
def imageProps : List String := ["src", "url", "imageUrl", "image", "backgroundImage"]

def imageExtensions : List String := ["png", "jpg", "jpeg", "gif", "webp", "svg", "bmp"]

/-- Letters that count as one whatever their case. -/
def foldChar (c : Char) : Char :=
  if c.toNat = 0x17f then 's'
  else if c.toNat = 0x130 || c.toNat = 0x131 then 'i'
  else c.toLower

def withoutLineEnd (chars : List Char) : List Char :=
  match chars.reverse with
  | '\n' :: rest => rest.reverse
  | _ => chars

/-- Whether a text ends with the extension of an image; a line end after it does not matter. -/
def hasImageExtension (text : String) : Bool :=
  let chars := (withoutLineEnd text.toList).map foldChar
  imageExtensions.any fun extension => ('.' :: extension.toList).isSuffixOf chars

def looksLikeImage (text : String) : Bool :=
  startsWith text "http" || startsWith text "data:image" || hasImageExtension text

mutual

/-- All texts in a value, at any depth of lists and objects. -/
def textsIn : Value → List String
  | .text s => [s]
  | .list items => textsInItems items
  | .object fields => textsInFields fields
  | _ => []

def textsInItems : List Value → List String
  | [] => []
  | item :: rest => textsIn item ++ textsInItems rest

def textsInFields : List (String × Value) → List String
  | [] => []
  | (_, value) :: rest => textsIn value ++ textsInFields rest

end

/-- The images that a widget's settings hold, each once. -/
def imagesOf (props : Fields) : List String :=
  ((imageProps.flatMap fun name => textsIn (props.get name)).filter looksLikeImage).eraseDups

end Asset

end ReportCompiler
