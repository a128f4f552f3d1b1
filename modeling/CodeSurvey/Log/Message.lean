import CodeSurvey.Fault
import CodeSurvey.Json.Display

namespace CodeSurvey.Message

structure Flags where
  left : Bool := false
  zero : Bool := false
  plus : Bool := false
  blank : Bool := false
  mark : Bool := false
  deriving Repr

def readFlags : List Char → Flags × List Char
  | '-' :: rest => let (f, cs) := readFlags rest; ({ f with left := true }, cs)
  | '0' :: rest => let (f, cs) := readFlags rest; ({ f with zero := true }, cs)
  | '+' :: rest => let (f, cs) := readFlags rest; ({ f with plus := true }, cs)
  | ' ' :: rest => let (f, cs) := readFlags rest; ({ f with blank := true }, cs)
  | '#' :: rest => let (f, cs) := readFlags rest; ({ f with mark := true }, cs)
  | cs => ({}, cs)

def natOf (cs : List Char) : Nat :=
  cs.foldl (fun n c => n * 10 + (c.toNat - 48)) 0

def readNat (cs : List Char) : Nat × List Char :=
  (natOf (cs.takeWhile Char.isDigit), cs.dropWhile Char.isDigit)

structure Hole where
  flags : Flags
  width : Nat
  precision : Option Nat
  kind : Char

def readHole (cs : List Char) : Option (Hole × List Char) :=
  let (flags, cs) := readFlags cs
  let (width, cs) := readNat cs
  let (precision, cs) := match cs with
    | '.' :: rest => let (n, rest) := readNat rest; (some n, rest)
    | cs => (none, cs)
  let cs := match cs with
    | 'h' :: rest | 'l' :: rest | 'L' :: rest => rest
    | cs => cs
  match cs with
  | kind :: rest => some (⟨flags, width, precision, kind⟩, rest)
  | [] => none

def sign (f : Flags) (negative : Bool) : List Char :=
  if negative then ['-'] else if f.plus then ['+'] else if f.blank then [' '] else []

def placed (h : Hole) (lead body : List Char) : List Char :=
  let length := lead.length + body.length
  let gap := h.width - length
  if h.flags.left then lead ++ body ++ List.replicate gap ' '
  else if h.flags.zero then lead ++ List.replicate gap '0' ++ body
  else List.replicate gap ' ' ++ lead ++ body

def textHole (h : Hole) (s : String) : List Char :=
  let cs := match h.precision with
    | some n => s.toList.take n
    | none => s.toList
  placed { h with flags := { h.flags with zero := false } } [] cs

def intHole (h : Hole) (n : Int) (base : Nat) (lead : List Char) (raise : Bool) : List Char :=
  let digits := Nat.toDigits base n.natAbs
  let digits := if raise then digits.map Char.toUpper else digits
  let digits := List.replicate (h.precision.getD 1 - digits.length) '0' ++ digits
  placed h (sign h.flags (n < 0) ++ (if h.flags.mark then lead else [])) digits

def fixed (d : Double) (places : Nat) : List Char :=
  let (m, q) := d.parts
  let scaled : Nat × Nat :=
    if 0 ≤ q then (m * Nat.pow 2 q.toNat * Nat.pow 10 places, 1)
    else (m * Nat.pow 10 places, Nat.pow 2 (-q).toNat)
  let n := Double.roundRatio scaled.1 scaled.2
  let digits := (toString n).toList
  let digits := List.replicate (places + 1 - digits.length) '0' ++ digits
  let whole := digits.take (digits.length - places)
  if places = 0 then whole else whole ++ '.' :: digits.drop (digits.length - places)

def realOf : Json → Option Double
  | .real d => some d
  | .int n => some (Double.ofDecimal (n < 0) n.natAbs 0)
  | .bool b => some (Double.ofDecimal false (if b then 1 else 0) 0)
  | _ => none

def realHole (h : Hole) (d : Double) : List Char :=
  if d.isNaN then
    placed { h with flags := { h.flags with zero := false } } (sign h.flags false) "nan".toList
  else if d.isInfinite then
    placed { h with flags := { h.flags with zero := false } } (sign h.flags d.negative) "inf".toList
  else placed h (sign h.flags d.negative) (fixed d (h.precision.getD 6))

def wholeOf : Json → Except Fault Int
  | .int n => .ok n
  | .bool b => .ok (if b then 1 else 0)
  | .real d => if d.isNaN || d.isInfinite then .error .invalid else .ok d.truncate
  | _ => .error .mistyped

def exactWhole : Json → Except Fault Int
  | .int n => .ok n
  | .bool b => .ok (if b then 1 else 0)
  | _ => .error .mistyped

def filled (h : Hole) (value : Json) : Except Fault (List Char) :=
  match h.kind with
  | 's' => .ok (textHole h value.display)
  | 'r' | 'a' => .ok (textHole h value.shown)
  | 'd' | 'i' | 'u' => do return intHole h (← wholeOf value) 10 [] false
  | 'x' => do return intHole h (← exactWhole value) 16 ['0', 'x'] false
  | 'X' => do return intHole h (← exactWhole value) 16 ['0', 'X'] true
  | 'o' => do return intHole h (← exactWhole value) 8 ['0', 'o'] false
  | 'f' | 'F' =>
      match realOf value with
      | some d => .ok (realHole h d)
      | none => .error .mistyped
  | 'c' =>
      match value with
      | .str s => if s.length = 1 then .ok (textHole h s) else .error .mistyped
      | .int n => .ok (textHole h (String.singleton (Char.ofNat n.toNat)))
      | _ => .error .mistyped
  | _ => .error .invalid

def fill : Nat → List Char → List Json → Except Fault (List Char)
  | 0, _, _ => .ok []
  | _, [], [] => .ok []
  | _, [], _ => .error .mistyped
  | fuel + 1, '%' :: rest, values => do
      match readHole rest with
      | none => .error .invalid
      | some (hole, rest) =>
          if hole.kind == '%' then return '%' :: (← fill fuel rest values)
          match values with
          | [] => .error .mistyped
          | v :: values => return (← filled hole v) ++ (← fill fuel rest values)
  | fuel + 1, c :: rest, values => do return c :: (← fill fuel rest values)

def withValues (message : String) (values : List Json) : Except Fault String := do
  if values.isEmpty then return message
  return String.ofList (← fill (message.length + 1) message.toList values)

end CodeSurvey.Message
