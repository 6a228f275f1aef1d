/-!
What can go wrong while a value is used: the causes, each with its wording. A widget that meets a
fault is left out of the report; elsewhere the fault ends the operation.
-/

namespace ReportCompiler

inductive Fault where
  /-- Fields were asked of a value that has none. -/
  | notAnObject
  /-- Characters were asked of a value that is not text. -/
  | notText
  /-- Items were asked of a value that cannot be enumerated. -/
  | notEnumerable
  /-- Arithmetic met a value that is not a number. -/
  | notNumeric
  /-- Text was searched for in a value that is not text. -/
  | notSearchable
  /-- A date pattern that is not text. -/
  | notAPattern
  /-- A list or an object stood where a key is needed. -/
  | notAKey
  /-- A date has no written form in JSON. -/
  | notWritable
  /-- The text does not spell a number. -/
  | badNumber (text : String)
  /-- A negative number of decimal places. -/
  | negativePlaces
  /-- A counter was asked to go down. -/
  | negativeAmount
  /-- A look-up in a closed table failed. -/
  | unknownKey (key : String)
  /-- A value outside a closed set of names. -/
  | unknownName (name : String)
  /-- A log level of no known name. -/
  | unknownLevel (name : String)
  /-- An addition to a log record under a name that the record has already. -/
  | reservedKey (key : String)
  /-- An argument that must be given was left out, or one too many was given. -/
  | wrongArguments
  | numberTooLarge
  | divisionByZero
  /-- A file could not be written because its directory does not exist. -/
  | noSuchDirectory (path : String)
  /-- A file stood where a directory is needed. -/
  | notADirectory (path : String)
  /-- A directory stood where a file is to be written. -/
  | isADirectory (path : String)
  /-- A header value that has characters outside Latin-1. -/
  | notLatin1
  /-- A fault reported from outside, with its own wording. -/
  | raised (message : String)
deriving DecidableEq, Repr, Inhabited

namespace Fault

def message : Fault → String
  | notAnObject => "the value has no fields"
  | notText => "the value is not text"
  | notEnumerable => "the value cannot be enumerated"
  | notNumeric => "the value is not a number"
  | notSearchable => "the value cannot be searched"
  | notAPattern => "the date pattern is not text"
  | notAKey => "the value cannot be a key"
  | notWritable => "a date has no JSON form"
  | badNumber text => "not a number: " ++ text
  | negativePlaces => "the number of decimal places is negative"
  | negativeAmount => "a counter cannot go down"
  | unknownKey key => "unknown key: " ++ key
  | unknownName name => "unknown name: " ++ name
  | unknownLevel name => "unknown log level: " ++ name
  | reservedKey key => "the record has its own " ++ key
  | wrongArguments => "the arguments do not fit"
  | numberTooLarge => "the number is too large"
  | divisionByZero => "division by zero"
  | noSuchDirectory path => "no such directory: " ++ path
  | notADirectory path => "not a directory: " ++ path
  | isADirectory path => "a directory: " ++ path
  | notLatin1 => "a header cannot hold the text"
  | raised message => message

end Fault

end ReportCompiler
