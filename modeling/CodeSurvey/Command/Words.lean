namespace CodeSurvey

inductive OptionKind where
  | valued
  | switch (on : Bool)
  deriving DecidableEq, Repr

structure OptionRule where
  name : String
  spellings : List String
  kind : OptionKind := .valued
  deriving Repr

structure Words where
  values : List (String × String) := []
  switches : List (String × Bool) := []
  arguments : List String := []
  deriving DecidableEq, Repr

namespace Words

def all (w : Words) (name : String) : List String :=
  w.values.filterMap fun v => if v.1 = name then some v.2 else none

def last? (w : Words) (name : String) : Option String := (w.all name).getLast?

def isOn (w : Words) (name : String) : Bool :=
  ((w.switches.filter fun s => s.1 == name).getLast?.map Prod.snd).getD false

def withValue (w : Words) (name value : String) : Words :=
  { w with values := w.values ++ [(name, value)] }

def withSwitch (w : Words) (name : String) (on : Bool) : Words :=
  { w with switches := w.switches ++ [(name, on)] }

def withArguments (w : Words) (more : List String) : Words :=
  { w with arguments := w.arguments ++ more }

def isOption (word : String) : Bool :=
  match word.toList with
  | '-' :: _ :: _ => true
  | _ => false

def isLong (word : String) : Bool := "--".toList.isPrefixOf word.toList

def ruleFor (rules : List OptionRule) (spelling : String) : Option OptionRule :=
  rules.find? fun r => r.spellings.contains spelling

def matching (rules : List OptionRule) (word : String) : Option (OptionRule × Option String) :=
  let cs := word.toList
  if isLong word then
    let name := cs.takeWhile (· != '=')
    (ruleFor rules (String.ofList name)).map fun r =>
      (r,
        if name.length = cs.length then none else some (String.ofList (cs.drop (name.length + 1))))
  else
    (ruleFor rules (String.ofList (cs.take 2))).map fun r =>
      (r, if cs.length ≤ 2 then none else some (String.ofList (cs.drop 2)))

def readFrom (rules : List OptionRule) (w : Words) : List String → Option Words
  | [] => some w
  | "--" :: rest => some (w.withArguments rest)
  | word :: rest =>
      if !isOption word then readFrom rules (w.withArguments [word]) rest
      else match matching rules word with
        | none => none
        | some (r, attached) =>
            match r.kind, attached, rest with
            | .switch on, none, rest => readFrom rules (w.withSwitch r.name on) rest
            | .switch _, some _, _ => none
            | .valued, some value, rest => readFrom rules (w.withValue r.name value) rest
            | .valued, none, value :: rest => readFrom rules (w.withValue r.name value) rest
            | .valued, none, [] => none
termination_by words => words.length

def read (rules : List OptionRule) (words : List String) : Option Words :=
  readFrom rules {} words

end Words

end CodeSurvey
