namespace Texel

/-- How much a log line matters, gravest first. -/
inductive Severity where
  | error
  | warn
  | info
  | debug
  | trace
  deriving DecidableEq, Repr, Inhabited

namespace Severity

/-- Every severity, gravest first. -/
def all : List Severity := [.error, .warn, .info, .debug, .trace]

def name : Severity → String
  | .error => "error"
  | .warn => "warn"
  | .info => "info"
  | .debug => "debug"
  | .trace => "trace"

/-- The place of a severity in `all`: the graver, the lower. -/
def rank : Severity → Nat
  | .error => 0
  | .warn => 1
  | .info => 2
  | .debug => 3
  | .trace => 4

def ofName? (text : String) : Option Severity :=
  all.find? fun severity => severity.name == text

/-- A line is shown to a reader whose threshold is at most as grave as the line. -/
def shownAt (severity threshold : Severity) : Bool :=
  severity.rank ≤ threshold.rank

end Severity

/-- What the library reports beside its answers: text of one severity. -/
structure LogLine where
  severity : Severity
  text : String
  deriving DecidableEq, Repr

end Texel
