/-!
# Log records

What the library reports while it works.  Records are values: each operation that reports
returns its records, oldest first.
-/

namespace ShaderLoom

/-- The importance of a log record. -/
inductive LogLevel where
  | error
  | info
  | debug
  | trace
  deriving DecidableEq, Repr, Inhabited

/-- The name of a level. -/
def LogLevel.label : LogLevel → String
  | error => "ERROR"
  | info => "INFO"
  | debug => "DEBUG"
  | trace => "TRACE"

/-- One report. -/
structure LogRecord where
  level : LogLevel
  message : String
  deriving DecidableEq, Repr, Inhabited

/-- The line that shows a record. -/
def LogRecord.line (record : LogRecord) : String :=
  s!"{record.level.label}: {record.message}"

end ShaderLoom
