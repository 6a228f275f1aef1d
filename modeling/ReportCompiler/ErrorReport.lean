import ReportCompiler.Value.Display

/-!
Errors as they are shown to callers: a code, a message, details and the status that a service answers
with. Each kind of error fixes its own code and status.
-/

namespace ReportCompiler

structure ErrorReport where
  code : String
  message : String
  details : Value
  status : Int
deriving Repr

namespace ErrorReport

/-- An error of no particular kind; without a code of its own it has the general one. -/
def general (message code : String) (details : Value) (status : Int) : ErrorReport :=
  { code := if code == "" then "ReportBuilderError" else code, message,
    details := details.orElse (.object []), status }

/-- Input was refused; the field is named where there is one to blame. -/
def invalid (message : String) (field : Value) (more : Fields) : ErrorReport :=
  { code := "VALIDATION_ERROR", message,
    details := .object (if field.isPresent then Fields.ofList (("field", field) :: more) else more),
    status := 400 }

/-- Something outside the application answered with an error or not at all. -/
def external (provider reason : String) (status body : Value) (more : Fields) : ErrorReport :=
  { code := "EXTERNAL_API_ERROR", message := provider ++ " error: " ++ reason,
    details := .object (Fields.ofList ([("provider", .text provider), ("api_status_code", status),
      ("response_body", body)] ++ more)),
    status := 502 }

/-- An image could not be fetched. -/
def asset (url reason : String) (status : Value) : ErrorReport :=
  { external "asset" reason status .null [("url", .text url)] with code := "ASSET_FETCH_ERROR" }

/-- A template has errors, and its export allows none. -/
def uncompilable (message : String) (diagnostics : Value) : ErrorReport :=
  { code := "COMPILE_ERROR", message,
    details := .object [("diagnostics", diagnostics.orElse (.list []))], status := 422 }

/-- The report in the form in which a service answers it. -/
def fields (report : ErrorReport) : Fields :=
  [("error", .text report.code), ("message", .text report.message), ("details", report.details)]

end ErrorReport

end ReportCompiler
