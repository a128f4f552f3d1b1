import CodeSurvey.Json.Printer
import CodeSurvey.Log.Level

namespace CodeSurvey

structure LogLine where
  time : String
  level : Int
  logger : String
  message : String
  exception : Option String := none
  deriving Repr

inductive LogFormat where
  | text
  | json
  deriving DecidableEq, Repr

def LogFormat.ofSetting (setting : String) : LogFormat :=
  if setting == "json" then json else text

namespace LogLine

def toJson (l : LogLine) : Json :=
  .obj ([("timestamp", .str l.time), ("level", .str (LogLevel.nameOf l.level)),
      ("logger", .str l.logger), ("message", .str l.message)]
    ++ (l.exception.map fun e => ("exception", .str e)).toList)

def plain (l : LogLine) : String :=
  s!"{l.time} {LogLevel.nameOf l.level} {l.logger}: {l.message}"

def render (format : LogFormat) (l : LogLine) : String :=
  match format with
  | .json => l.toJson.text
  | .text => l.plain

end LogLine

def nameColumn : Nat := 16

def Text.padRight (width : Nat) (s : String) : String :=
  String.ofList (s.toList ++ List.replicate (width - s.length) ' ')

end CodeSurvey
