namespace CodeSurvey

def Double.infinityBits : Nat := 2047 * Nat.pow 2 52

def Double.nanBits : Nat := Double.infinityBits + Nat.pow 2 51

structure Double where
  negative : Bool
  magnitude : Nat
  canonical : magnitude ≤ Double.infinityBits ∨ (negative = false ∧ magnitude = Double.nanBits)
  deriving DecidableEq, Repr

namespace Double

instance : Inhabited Double := ⟨⟨false, 0, .inl (Nat.zero_le _)⟩⟩

def nan : Double := ⟨false, nanBits, .inr ⟨rfl, rfl⟩⟩

def infinity (negative : Bool) : Double := ⟨negative, infinityBits, .inl (Nat.le_refl _)⟩

def ofMagnitude (negative : Bool) (magnitude : Nat) : Double :=
  if h : magnitude ≤ infinityBits then ⟨negative, magnitude, .inl h⟩ else nan

def isNaN (d : Double) : Bool := infinityBits < d.magnitude

def isInfinite (d : Double) : Bool := d.magnitude == infinityBits

def isZero (d : Double) : Bool := d.magnitude == 0

-- The significand `m` and exponent `q` of a finite double: its absolute value is `m * 2 ^ q`.
def parts (d : Double) : Nat × Int :=
  let exponent := d.magnitude / Nat.pow 2 52
  let fraction := d.magnitude % Nat.pow 2 52
  if exponent = 0 then (fraction, -1074) else (Nat.pow 2 52 + fraction, Int.ofNat exponent - 1075)

def roundRatio (num den : Nat) : Nat :=
  let whole := num / den
  let twice := 2 * (num % den)
  if twice < den then whole
  else if den < twice then whole + 1
  else if whole % 2 = 0 then whole else whole + 1

def scaled (num den : Nat) (q : Int) : Nat × Nat :=
  if 0 ≤ q then (num, den * Nat.pow 2 q.toNat) else (num * Nat.pow 2 (-q).toNat, den)

def magnitudeOfRatio (num den : Nat) : Nat :=
  let guess : Int := max ((Nat.log2 num : Int) - Nat.log2 den - 53) (-1074)
  let (a, b) := scaled num den guess
  let q := if Nat.pow 2 53 ≤ a / b then guess + 1 else guess
  let (a, b) := scaled num den q
  let bits := (q + 1074).toNat * Nat.pow 2 52 + roundRatio a b
  min bits infinityBits

def ofDecimal (negative : Bool) (digits : Nat) (exponent : Int) : Double :=
  if digits = 0 then ofMagnitude negative 0
  else
    let top : Int := (Nat.log2 digits : Int) * 3 / 10 + exponent
    if 400 < top then infinity negative
    else if top < -420 then ofMagnitude negative 0
    else if 0 ≤ exponent then
      ofMagnitude negative (magnitudeOfRatio (digits * Nat.pow 10 exponent.toNat) 1)
    else ofMagnitude negative (magnitudeOfRatio digits (Nat.pow 10 (-exponent).toNat))

def compareScales (a : Nat) (q : Int) (d : Nat) (t : Int) : Ordering :=
  let left := a * Nat.pow 2 q.toNat * Nat.pow 10 (-t).toNat
  let right := d * Nat.pow 10 t.toNat * Nat.pow 2 (-q).toNat
  compare left right

def readsBack (m : Nat) (q : Int) (d : Nat) (t : Int) : Bool :=
  let below := if m = Nat.pow 2 52 && -1074 < q then 1 else 2
  let low := compareScales (4 * m - below) (q - 2) d t
  let high := compareScales (4 * m + 2) (q - 2) d t
  if m % 2 = 0 then low != .gt && high != .lt else low == .lt && high == .gt

def nearerBelow (m : Nat) (q : Int) (d : Nat) (t : Int) : Bool :=
  match compareScales (2 * m) q (2 * d + 1) t with
  | .lt => true
  | .gt => false
  | .eq => d % 2 = 0

def decimalTop (m : Nat) (q : Int) : Int :=
  let guess : Int := ((Nat.log2 m : Int) + q) * 30103 / 100000
  if compareScales m q 1 (guess + 1) != .lt then guess + 2
  else if compareScales m q 1 guess != .lt then guess + 1
  else guess

def floorAt (m : Nat) (q t : Int) : Nat :=
  (m * Nat.pow 2 q.toNat * Nat.pow 10 (-t).toNat) / (Nat.pow 10 t.toNat * Nat.pow 2 (-q).toNat)

def shortestAt (m : Nat) (q : Int) (t : Int) : Option Nat :=
  let d := floorAt m q t
  match readsBack m q d t, readsBack m q (d + 1) t with
  | true, true => some (if nearerBelow m q d t then d else d + 1)
  | true, false => some d
  | false, true => some (d + 1)
  | false, false => none

def shortest (m : Nat) (q : Int) : Nat × Int :=
  let top := decimalTop m q
  let scales : List Int := (List.range 17).map fun k => top - 1 - Int.ofNat k
  match scales.findSome? fun t => (shortestAt m q t).map (·, t) with
  | some found => found
  | none => (m, q)

def stripZeros : Nat → Nat → Int → Nat × Int
  | 0, d, t => (d, t)
  | fuel + 1, d, t => if d % 10 = 0 && d != 0 then stripZeros fuel (d / 10) (t + 1) else (d, t)

def zeros (n : Nat) : List Char := List.replicate n '0'

def exponentText (e : Int) : List Char :=
  let digits := Nat.toDigits 10 e.natAbs
  'e' :: (if e < 0 then '-' else '+') :: (if digits.length < 2 then '0' :: digits else digits)

def pointed (digits : List Char) : List Char :=
  if digits.isEmpty then [] else '.' :: digits

structure Written where
  whole : List Char
  fraction : List Char
  exponent : Option Int := none
  deriving Repr

def Written.text (w : Written) : List Char :=
  w.whole ++ pointed w.fraction ++ (w.exponent.map exponentText).getD []

def layout (digits : Nat) (scale : Int) : Written :=
  let text := Nat.toDigits 10 digits
  let point : Int := text.length + scale
  if -4 < point && point ≤ 16 then
    if point ≤ 0 then { whole := ['0'], fraction := zeros (-point).toNat ++ text }
    else if text.length ≤ point.toNat then
      { whole := text ++ zeros (point.toNat - text.length), fraction := ['0'] }
    else { whole := text.take point.toNat, fraction := text.drop point.toNat }
  else { whole := text.take 1, fraction := text.drop 1, exponent := some (point - 1) }

def absText (d : Double) : List Char :=
  if d.isZero then ['0', '.', '0']
  else
    let (m, q) := d.parts
    let (digits, scale) := shortest m q
    let (digits, scale) := stripZeros 20 digits scale
    (layout digits scale).text

def textWith (nanWord infinityWord : String) (d : Double) : String :=
  if d.isNaN then nanWord
  else (if d.negative then "-" else "")
    ++ (if d.isInfinite then infinityWord else String.ofList d.absText)

def truncate (d : Double) : Int :=
  let (m, q) := d.parts
  let whole : Nat := if 0 ≤ q then m * Nat.pow 2 q.toNat else m / Nat.pow 2 (-q).toNat
  if d.negative then -(whole : Int) else whole

end Double

end CodeSurvey
