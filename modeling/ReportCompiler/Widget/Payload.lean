import ReportCompiler.Payload.Field
import ReportCompiler.Widget.Basic

/-!
Entries for the embedded program as payloads.
-/

namespace ReportCompiler

open ReportCompiler.Payload

namespace Component

def ofFields (fields : Fields) : Checked Component :=
  (fun id type props => { id, type, props : Component })
    <$> required "id" text fields
    <*> required "type" text fields
    <*> optional ["props"] [] object fields

def ofPayload : Payload.Reader Component := record false ofFields

end Component

end ReportCompiler
