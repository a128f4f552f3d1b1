import CodeSurvey.Json.Basic
import CodeSurvey.Text.Quoted

namespace CodeSurvey

namespace Json

def realWords (d : Double) : String :=
  d.textWith "nan" "inf"

mutual

def shown : Json → String
  | null => "None"
  | bool true => "True"
  | bool false => "False"
  | int n => toString n
  | real d => realWords d
  | str s => Text.quoted s
  | arr items => "[" ++ ", ".intercalate (shownItems items) ++ "]"
  | obj fields => "\x7b" ++ ", ".intercalate (shownFields fields) ++ "\x7d"

def shownItems : List Json → List String
  | [] => []
  | v :: rest => shown v :: shownItems rest

def shownFields : List (String × Json) → List String
  | [] => []
  | (n, v) :: rest => (Text.quoted n ++ ": " ++ shown v) :: shownFields rest

end

def display : Json → String
  | str s => s
  | v => shown v

theorem display_str (s : String) : (str s).display = s := rfl

end Json

end CodeSurvey
