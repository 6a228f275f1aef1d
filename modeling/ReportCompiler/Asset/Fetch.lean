import ReportCompiler.Asset.Base64
import ReportCompiler.Asset.Url

/-!
Fetching images and turning them into addresses that hold them. A client answers a request for an
address; what it does not answer with an image is a failure, and failures leave the address as it is.
-/

namespace ReportCompiler

open ReportCompiler.Text

namespace Asset

structure Response where
  status : Int
  headers : List (String × String)
  body : List UInt8
deriving Repr

/-- How a client ends a request. -/
inductive Reply where
  | response (response : Response)
  /-- The request could not be carried out. -/
  | unreachable (message : String)
  /-- The client itself failed. -/
  | broken (message : String)
deriving Repr

/-- What answers requests, in a monad that may keep track of them. -/
abbrev ClientIn (m : Type → Type) := String → m Reply

/-- A client whose answers depend on the addresses alone. -/
abbrev Client := ClientIn Id

/-- Why there is no image. -/
inductive Failure where
  /-- The request was answered, if at all, by something else than an image. -/
  | notFetched (url reason : String) (status : Option Int)
  | broken (message : String)
deriving DecidableEq, Repr

def Failure.message : Failure → String
  | notFetched _ reason _ => "asset error: " ++ reason
  | broken message => message

/-! ### Responses -/

/-- Names of status codes. -/
def reasonPhrases : List (Int × String) :=
  [(100, "Continue"), (101, "Switching Protocols"), (102, "Processing"), (103, "Early Hints"),
    (200, "OK"), (201, "Created"), (202, "Accepted"), (203, "Non-Authoritative Information"),
    (204, "No Content"), (205, "Reset Content"), (206, "Partial Content"), (207, "Multi-Status"),
    (208, "Already Reported"), (226, "IM Used"), (300, "Multiple Choices"),
    (301, "Moved Permanently"), (302, "Found"), (303, "See Other"), (304, "Not Modified"),
    (305, "Use Proxy"), (307, "Temporary Redirect"), (308, "Permanent Redirect"),
    (400, "Bad Request"), (401, "Unauthorized"), (402, "Payment Required"), (403, "Forbidden"),
    (404, "Not Found"), (405, "Method Not Allowed"), (406, "Not Acceptable"),
    (407, "Proxy Authentication Required"), (408, "Request Timeout"), (409, "Conflict"),
    (410, "Gone"), (411, "Length Required"), (412, "Precondition Failed"),
    (413, "Request Entity Too Large"), (414, "Request-URI Too Long"),
    (415, "Unsupported Media Type"), (416, "Requested Range Not Satisfiable"),
    (417, "Expectation Failed"), (418, "I'm a teapot"), (421, "Misdirected Request"),
    (422, "Unprocessable Entity"), (423, "Locked"), (424, "Failed Dependency"), (425, "Too Early"),
    (426, "Upgrade Required"), (428, "Precondition Required"), (429, "Too Many Requests"),
    (431, "Request Header Fields Too Large"), (451, "Unavailable For Legal Reasons"),
    (500, "Internal Server Error"), (501, "Not Implemented"), (502, "Bad Gateway"),
    (503, "Service Unavailable"), (504, "Gateway Timeout"), (505, "HTTP Version Not Supported"),
    (506, "Variant Also Negotiates"), (507, "Insufficient Storage"), (508, "Loop Detected"),
    (510, "Not Extended"), (511, "Network Authentication Required")]

def reasonPhrase (status : Int) : String := (reasonPhrases.lookup status).getD ""

namespace Response

def isSuccess (r : Response) : Bool := 200 ≤ r.status && r.status ≤ 299

/-- The values of a header, whose name may be in any case. -/
def header (r : Response) (name : String) : String :=
  join ", " ((r.headers.filter fun header => lower header.1 == name).map Prod.snd)

/-- The content type without its parameters. -/
def contentType (r : Response) : String :=
  lower (trim (beforeFirst ';' (r.header "content-type")))

end Response

/-! ### One image -/

def dataUrl (type : String) (bytes : List UInt8) : String :=
  "data:" ++ type ++ ";base64," ++ Base64.encode bytes

def notFetched (url reason : String) (status : Option Int) : Except Failure String :=
  .error (.notFetched url ("Failed to fetch image: " ++ reason) status)

/-- The image in a response. A response without a content type is believed to be what its address
promises. -/
def ofResponse (url : String) (r : Response) : Except Failure String :=
  if !r.isSuccess then
    notFetched url (toString r.status ++ " " ++ reasonPhrase r.status) (some r.status)
  else
    let type := r.contentType
    if type != "" && !startsWith type "image/" then
      notFetched url ("unexpected content type " ++ type) none
    else .ok (dataUrl (if type == "" then typeOf url else type) r.body)

/-- The image in a reply. -/
def ofReply (url : String) : Reply → Except Failure String
  | .response r => ofResponse url r
  | .unreachable message => notFetched url message none
  | .broken message => .error (.broken message)

variable {m : Type → Type} [Monad m]

/-- The image at an address, as an address that holds it. -/
def embed (client : ClientIn m) (url : String) : m (Except Failure String) :=
  if isData url then return .ok url else return ofReply url (← client url)

/-! ### Addresses of all kinds -/

/-- Whether an address is fetched at all. -/
def isRequested (convert : Bool) (url : String) : Bool := isExternal url && convert

/-- An address after the attempt to embed it, and what went wrong. -/
structure Outcome where
  url : String
  failure : Option Failure
deriving DecidableEq, Repr

/-- A failure leaves the address as it is. -/
def Outcome.ofImage (url : String) : Except Failure String → Outcome
  | .ok image => { url := image, failure := none }
  | .error failure => { url, failure := some failure }

def outcome (client : ClientIn m) (convert : Bool) (url : String) : m Outcome :=
  if isRequested convert url then return .ofImage url (← embed client url)
  else return { url, failure := none }

/-- One address on its own, where a client that fails is not forgiven. -/
def processOne (client : Client) (convert : Bool) (url : String) : Except Fault String :=
  let result := (outcome client convert url).run
  match result.failure with
  | some (.broken message) => .error (.raised message)
  | _ => .ok result.url

/-- Addresses in groups of a size, the last one of what is left. -/
def batches (size : Nat) : Nat → List String → List (List String)
  | 0, _ => []
  | _, [] => []
  | fuel + 1, urls => urls.take size :: batches size fuel (urls.drop size)

/-- How many addresses are fetched at once: at least one, and the usual number where none is given. -/
def batchSize (usual : Int) (wanted : Option Int) : Nat :=
  match wanted with
  | some n => (max (if n = 0 then usual else n) 1).toNat
  | none => (max usual 1).toNat

/-- Several addresses, one batch after the other. -/
def processAll (client : ClientIn m) (convert : Bool) (size : Nat) (urls : List String) :
    m (List Outcome) := do
  let groups ← (batches size urls.length urls).mapM fun batch => batch.mapM (outcome client convert)
  return groups.flatten

end Asset

end ReportCompiler
