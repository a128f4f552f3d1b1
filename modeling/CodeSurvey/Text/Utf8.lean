namespace CodeSurvey.Text

namespace Utf8

inductive Cause where
  | start
  | continuation
  | endOfData
  deriving DecidableEq, Repr

def Cause.text : Cause → String
  | start => "invalid start byte"
  | continuation => "invalid continuation byte"
  | endOfData => "unexpected end of data"

structure Fault where
  octet : UInt8
  position : Nat
  length : Nat
  cause : Cause
  deriving DecidableEq, Repr

def hexOctet (b : UInt8) : String :=
  let digits := Nat.toDigits 16 b.toNat
  String.ofList (if digits.length < 2 then '0' :: digits else digits)

def Fault.text (f : Fault) : String :=
  if f.length = 1 then
    s!"'utf-8' codec can't decode byte 0x{hexOctet f.octet} in position {f.position}: {f.cause.text}"
  else
    s!"'utf-8' codec can't decode bytes in position {f.position}-{f.position + f.length - 1}: {f.cause.text}"

def isTail (b : UInt8) : Bool := 0x80 ≤ b && b < 0xC0

def isSecond (a b : UInt8) : Bool :=
  isTail b && !(a == 0xE0 && b < 0xA0) && !(a == 0xED && 0xA0 ≤ b) && !(a == 0xF0 && b < 0x90)
    && !(a == 0xF4 && 0x90 ≤ b)

inductive Step where
  | char (c : Char) (length : Nat)
  | fault (length : Nat) (cause : Cause)
  deriving Repr

def low (b : UInt8) : Nat := b.toNat % 64

def step (a : UInt8) (rest : List UInt8) : Step :=
  if a < 0x80 then .char (Char.ofNat a.toNat) 1
  else if a < 0xC2 || 0xF4 < a then .fault 1 .start
  else match rest with
    | [] => .fault 1 .endOfData
    | b :: rest =>
        if !isSecond a b then .fault 1 .continuation
        else if a < 0xE0 then .char (Char.ofNat (a.toNat % 32 * 64 + low b)) 2
        else match rest with
          | [] => .fault 2 .endOfData
          | c :: rest =>
              if !isTail c then .fault 2 .continuation
              else if a < 0xF0 then .char (Char.ofNat (a.toNat % 16 * 4096 + low b * 64 + low c)) 3
              else match rest with
                | [] => .fault 3 .endOfData
                | d :: _ =>
                    if !isTail d then .fault 3 .continuation
                    else .char
                      (Char.ofNat (a.toNat % 8 * 262144 + low b * 4096 + low c * 64 + low d)) 4

def decodeFrom : Nat → Nat → List UInt8 → List Char → Except Fault (List Char)
  | 0, _, _, acc => .ok acc.reverse
  | _, _, [], acc => .ok acc.reverse
  | fuel + 1, position, a :: rest, acc =>
      match step a rest with
      | .char c length => decodeFrom fuel (position + length) (rest.drop (length - 1)) (c :: acc)
      | .fault length cause => .error ⟨a, position, length, cause⟩

def decode (octets : List UInt8) : Except Fault (List Char) :=
  decodeFrom (octets.length + 1) 0 octets []

def encode (s : String) : List UInt8 :=
  s.toUTF8.toList

end Utf8

def unifyLines : List Char → List Char
  | '\r' :: '\n' :: rest => '\n' :: unifyLines rest
  | '\r' :: rest => '\n' :: unifyLines rest
  | c :: rest => c :: unifyLines rest
  | [] => []

end CodeSurvey.Text
