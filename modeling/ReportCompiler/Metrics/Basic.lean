import ReportCompiler.Number.Basic
import ReportCompiler.Number.Reader

/-!
What is counted while the application works. An event makes some samples grow; a sample is a name with
labels. Durations are counted in buckets, and a bucket counts every duration up to its bound.
-/

namespace ReportCompiler

namespace Metrics

structure Sample where
  name : String
  /-- In alphabetical order. -/
  labels : List (String × String)
deriving DecidableEq, Repr

/-- Samples with the amount by which they grew. -/
abbrev Growth := List (Sample × Int)

namespace Growth

def add (growth : Growth) (sample : Sample) (amount : Int) : Growth :=
  if growth.any fun entry => entry.1 == sample then
    growth.map fun entry => if entry.1 == sample then (sample, entry.2 + amount) else entry
  else growth ++ [(sample, amount)]

/-- One amount for each sample, without those that did not grow. -/
def total (parts : Growth) : Growth :=
  (parts.foldl (fun growth part => add growth part.1 part.2) []).filter fun entry => entry.2 != 0

/-- By how much one sample grew. -/
def of (growth : Growth) (sample : Sample) : Int :=
  ((growth.filter fun entry => entry.1 == sample).map Prod.snd).foldr (· + ·) 0

end Growth

/-! ### Durations -/

/-- The bound of a bucket, by the text that names it. -/
structure Bound where
  text : String
  limit : Number
deriving Repr

def bound (text : String) : Bound :=
  { text, limit := .double ((Reader.double? text).getD .nan) }

/-- Bounds of the buckets of an export's duration, in seconds. -/
def exportBounds : List Bound :=
  ["0.005", "0.01", "0.05", "0.1", "0.5", "1.0", "5.0", "10.0", "+Inf"].map bound

/-- Bounds of the buckets of a request's duration, in seconds. -/
def requestBounds : List Bound :=
  ["0.01", "0.05", "0.1", "0.5", "1.0", "2.5", "5.0", "10.0", "+Inf"].map bound

def insertLabel (label : String × String) : List (String × String) → List (String × String)
  | [] => [label]
  | other :: rest =>
      if other.1 < label.1 then other :: insertLabel label rest else label :: other :: rest

/-- A duration counts in every bucket whose bound it does not exceed, and once in all. -/
def observe (name : String) (bounds : List Bound) (labels : List (String × String))
    (duration : Number) : Growth :=
  let reached := bounds.filter fun bound => duration.le bound.limit
  reached.map (fun bound =>
      ({ name := name ++ "_bucket", labels := insertLabel ("le", bound.text) labels }, 1))
    ++ if reached.isEmpty then [] else [({ name := name ++ "_count", labels }, 1)]

/-! ### Events -/

inductive Event where
  | request (method endpoint status : String) (duration : Number)
  | finishedExport (kind status : String) (duration : Number) (widgets : Int)
  | diagnostic (code level : String)
  | asset (isSuccess : Bool)
deriving Repr

namespace Event

def growth : Event → Growth
  | request method endpoint status duration =>
      let place := [("endpoint", endpoint), ("method", method)]
      ({ name := "reportbuilder_http_requests_total",
         labels := place ++ [("status", status)] }, 1)
        :: observe "reportbuilder_http_request_duration_seconds" requestBounds place duration
  | finishedExport kind status duration widgets =>
      ({ name := "reportbuilder_exports_total",
         labels := [("kind", kind), ("status", status)] }, 1)
        :: observe "reportbuilder_export_duration_seconds" exportBounds [("kind", kind)] duration
          ++ if widgets < 0 then []
            else [({ name := "reportbuilder_widgets_rendered_total", labels := [] }, widgets)]
  | diagnostic code level =>
      [({ name := "reportbuilder_diagnostics_total",
          labels := [("code", code), ("level", level)] }, 1)]
  | asset isSuccess =>
      [({ name := "reportbuilder_assets_inlined_total",
          labels := [("status", if isSuccess then "success" else "failed")] }, 1)]

/-- Nothing counts downwards. -/
def fault? : Event → Option Fault
  | finishedExport _ _ _ widgets => if widgets < 0 then some .negativeAmount else none
  | _ => none

end Event

/-- By how much all samples grow through some events. -/
def growth (events : List Event) : Growth := Growth.total (events.flatMap Event.growth)

end Metrics

end ReportCompiler
