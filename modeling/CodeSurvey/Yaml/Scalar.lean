import CodeSurvey.Json.Basic
import CodeSurvey.Text.Pieces
import CodeSurvey.Text.Quoted
import CodeSurvey.Yaml.Node

namespace CodeSurvey.Yaml.Scalar

def nulls : List String := ["", "~", "null", "Null", "NULL"]

def trues : List String := ["yes", "Yes", "YES", "true", "True", "TRUE", "on", "On", "ON"]

def falses : List String := ["no", "No", "NO", "false", "False", "FALSE", "off", "Off", "OFF"]

def signed : List Char → Bool × List Char
  | '-' :: rest => (true, rest)
  | '+' :: rest => (false, rest)
  | cs => (false, cs)

def isOctal (c : Char) : Bool := '0' ≤ c && c ≤ '7'

def isBinary (c : Char) : Bool := c == '0' || c == '1'

def withUnderscores (p : Char → Bool) (cs : List Char) : Bool :=
  !cs.isEmpty && cs.all fun c => p c || c == '_'

def withoutUnderscores (cs : List Char) : List Char := cs.filter (· != '_')

def isDigits (cs : List Char) : Bool :=
  cs.head?.any Char.isDigit && withUnderscores Char.isDigit cs

def isSixtieth (cs : List Char) : Bool :=
  match cs with
  | [a] => a.isDigit
  | [a, b] => '0' ≤ a && a ≤ '5' && b.isDigit
  | _ => false

def sixtieths (cs : List Char) : Option (List (List Char)) :=
  match Text.pieces ':' cs with
  | first :: a :: rest =>
      if isDigits first && (a :: rest).all isSixtieth then some (first :: a :: rest) else none
  | _ => none

def maxDigits : Nat := 4300

def wholeIn (base : Nat) (cs : List Char) : Except Fault Nat :=
  let digits := withoutUnderscores cs
  if digits.isEmpty || (base = 10 && maxDigits < digits.length) then .error .invalid
  else .ok (numberIn base digits)

def ofSixtieths (parts : List (List Char)) : Nat :=
  parts.foldl (fun n p => n * 60 + numberIn 10 (withoutUnderscores p)) 0

def whole (cs : List Char) : Option (Except Fault Nat) :=
  match cs with
  | '0' :: 'b' :: rest => if withUnderscores isBinary rest then some (wholeIn 2 rest) else none
  | '0' :: 'x' :: rest => if withUnderscores isHex rest then some (wholeIn 16 rest) else none
  | ['0'] => some (.ok 0)
  | '0' :: rest => if withUnderscores isOctal rest then some (wholeIn 8 ('0' :: rest)) else none
  | cs =>
      if isDigits cs then some (wholeIn 10 cs)
      else (sixtieths cs).map fun parts => .ok (ofSixtieths parts)

def int (cs : List Char) : Option (Except Fault Int) :=
  let (negative, cs) := signed cs
  (whole cs).map fun n => n.map fun n => if negative then -(n : Int) else n

def exponent : List Char → Option Int
  | [] => some 0
  | e :: s :: digits =>
      if (e == 'e' || e == 'E') && !digits.isEmpty && digits.all Char.isDigit then
        if s == '+' then some (numberIn 10 digits)
        else if s == '-' then some (-(numberIn 10 digits : Int))
        else none
      else none
  | _ => none

structure Decimal where
  before : List Char
  after : List Char
  exponent : Int := 0

namespace Decimal

def ofChars (cs : List Char) : Option Decimal := do
  let before := cs.takeWhile (· != '.')
  match cs.drop before.length with
  | '.' :: rest =>
      let after := rest.takeWhile fun c => c.isDigit || c == '_'
      return ⟨before, after, ← Scalar.exponent (rest.drop after.length)⟩
  | _ => none

def double (d : Decimal) : Double :=
  let after := withoutUnderscores d.after
  Double.ofDecimal false (numberIn 10 (withoutUnderscores d.before ++ after))
    (d.exponent - after.length)

end Decimal

def plusWhole (d : Double) (n : Nat) : Double :=
  let (m, q) := d.parts
  let (num, den) :=
    if 0 ≤ q then (m * Nat.pow 2 q.toNat + n, 1)
    else (m + n * Nat.pow 2 (-q).toNat, Nat.pow 2 (-q).toNat)
  if num = 0 then d else Double.ofMagnitude false (Double.magnitudeOfRatio num den)

def addSixtieths : Double → Nat → List (List Char) → Double
  | d, _, [] => d
  | d, base, p :: rest =>
      addSixtieths (plusWhole d (numberIn 10 (withoutUnderscores p) * base)) (base * 60) rest

def sixtiethsReal (cs : List Char) : Option Double := do
  let before := cs.takeWhile (· != '.')
  let after ← match cs.drop before.length with
    | '.' :: rest => if rest.all fun c => c.isDigit || c == '_' then some rest else none
    | _ => none
  match (← sixtieths before).reverse with
  | last :: rest => return addSixtieths (Decimal.double ⟨last, after, 0⟩) 60 rest
  | [] => none

def infinities : List String := [".inf", ".Inf", ".INF"]

def nans : List String := [".nan", ".NaN", ".NAN"]

def unsignedReal (cs : List Char) : Option Double :=
  if infinities.contains (String.ofList cs) then some (Double.infinity false)
  else
    let plain := do
      let d ← Decimal.ofChars cs
      if isDigits d.before then some d.double else none
    plain <|> sixtiethsReal cs

def pointFirst (cs : List Char) : Option Double := do
  let d ← Decimal.ofChars cs
  if d.before.isEmpty && d.after.head?.any Char.isDigit then some d.double else none

def withSign (negative : Bool) (d : Double) : Double := Double.ofMagnitude negative d.magnitude

def real (cs : List Char) : Option Double :=
  let (negative, rest) := signed cs
  if nans.contains (String.ofList cs) then some Double.nan
  else pointFirst cs <|> (unsignedReal rest).map (withSign negative)

def daysIn (year month : Nat) : Nat :=
  if month = 2 then (if (year % 4 = 0 && year % 100 != 0) || year % 400 = 0 then 29 else 28)
  else if [4, 6, 9, 11].contains month then 30
  else 31

def date? (cs : List Char) : Option (Nat × Nat × Nat) :=
  match Text.pieces '-' cs with
  | [y, m, d] =>
      if y.length = 4 && m.length = 2 && d.length = 2 && [y, m, d].all (·.all Char.isDigit) then
        some (numberIn 10 y, numberIn 10 m, numberIn 10 d)
      else none
  | _ => none

def isDay (year month day : Nat) : Bool :=
  1 ≤ year && 1 ≤ month && month ≤ 12 && 1 ≤ day && day ≤ daysIn year month

def plain (text : String) : Except Fault Json :=
  let cs := text.toList
  if nulls.contains text then .ok .null
  else if trues.contains text then .ok (.bool true)
  else if falses.contains text then .ok (.bool false)
  else if text == "<<" || text == "=" then .error .settingsText
  else match real cs, int cs, date? cs with
    | some d, _, _ => .ok (.real d)
    | none, some n, _ => n.map .int
    | none, none, some (y, m, d) => if isDay y m d then .ok (.str text) else .error .invalid
    | none, none, none => .ok (.str text)

def taggedReal (text : String) : Except Fault Json :=
  let cs := text.toList
  match real cs, int cs with
  | some d, _ => .ok (.real d)
  | none, some n => n.map fun n => .real (Double.ofDecimal (n < 0) n.natAbs 0)
  | none, none => .error .invalid

def tagged (tag : Tag) (text : String) : Except Fault Json :=
  match tag with
  | .null => .ok .null
  | .text => .ok (.str text)
  | .bool =>
      let word := String.ofList (text.toList.map Char.toLower)
      if trues.contains word then .ok (.bool true)
      else if falses.contains word then .ok (.bool false)
      else .error (.missingKey (Text.quoted word))
  | .int =>
      match int text.toList with
      | some n => n.map .int
      | none => .error .invalid
  | .real => taggedReal text
  | .timestamp => .ok (.str text)
  | _ => .error .settingsText

end CodeSurvey.Yaml.Scalar
