import CodeSurvey.Text.Casing

namespace CodeSurvey

inductive LogLevel where
  | debug
  | info
  | success
  deriving DecidableEq, Repr

namespace LogLevel

def number : LogLevel → Int
  | debug => 10
  | info => 20
  | success => 25

def word : LogLevel → String
  | debug => "debug"
  | info => "info"
  | success => "success"

def names : List (String × Int) :=
  [("CRITICAL", 50), ("FATAL", 50), ("ERROR", 40), ("WARNING", 30), ("WARN", 30), ("SUCCESS", 25),
   ("INFO", 20), ("DEBUG", 10), ("NOTSET", 0)]

def nameOf (number : Int) : String :=
  match names.find? fun row => row.2 == number with
  | some row => row.1
  | none => s!"Level {number}"

def threshold (setting : String) : Int :=
  (names.lookup (Text.raised setting)).getD 20

def unsetThreshold : Int := 30

def passes (level : LogLevel) (threshold : Int) : Bool :=
  threshold ≤ level.number

end LogLevel

end CodeSurvey
