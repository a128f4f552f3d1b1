import CodeSurvey.Fault
import CodeSurvey.Json.Printer

namespace CodeSurvey

namespace Json

inductive Expectation where
  | value
  | name
  | colon
  | comma
  | endOfText
  | closingQuote
  | noControl
  | escape
  | unicodeEscape
  | noByteOrderMark
  deriving DecidableEq, Repr

def Expectation.text : Expectation → String
  | value => "Expecting value"
  | name => "Expecting property name enclosed in double quotes"
  | colon => "Expecting ':' delimiter"
  | comma => "Expecting ',' delimiter"
  | endOfText => "Extra data"
  | closingQuote => "Unterminated string starting at"
  | noControl => "Invalid control character at"
  | escape => "Invalid \\escape"
  | unicodeEscape => "Invalid \\uXXXX escape"
  | noByteOrderMark => "Unexpected UTF-8 BOM (decode using utf-8-sig)"

inductive ReadFault where
  | failed (expected : Expectation) (position : Nat)
  | numberTooLong
  | nestedTooDeep
  deriving DecidableEq, Repr

def lineColumn (text : List Char) (position : Nat) : Nat × Nat :=
  let before := text.take position
  let line := before.filter (· == '\n')
  let column := before.reverse.takeWhile (· != '\n')
  (line.length + 1, column.length + 1)

def faultText (text : List Char) (expected : Expectation) (position : Nat) : String :=
  let (line, column) := lineColumn text position
  s!"{expected.text}: line {line} column {column} (char {position})"

structure Cursor where
  rest : List Char
  position : Nat
  deriving Repr

namespace Cursor

def advance (c : Cursor) (n : Nat) : Cursor :=
  ⟨c.rest.drop n, c.position + n⟩

def isBlank (c : Char) : Bool :=
  c == ' ' || c == '\t' || c == '\n' || c == '\r'

def skipBlanks (c : Cursor) : Cursor :=
  c.advance (c.rest.takeWhile isBlank).length

end Cursor

def hexValue? (c : Char) : Option Nat :=
  if '0' ≤ c && c ≤ '9' then some (c.toNat - '0'.toNat)
  else if 'a' ≤ c && c ≤ 'f' then some (c.toNat - 'a'.toNat + 10)
  else if 'A' ≤ c && c ≤ 'F' then some (c.toNat - 'A'.toNat + 10)
  else none

def hexNumber? (digits : List Char) : Option Nat :=
  digits.foldlM (fun acc c => (hexValue? c).map (acc * 16 + ·)) 0

def isHighSurrogate (n : Nat) : Bool := 0xD800 ≤ n && n < 0xDC00

def isLowSurrogate (n : Nat) : Bool := 0xDC00 ≤ n && n < 0xE000

def replacement : Char := Char.ofNat 0xFFFD

-- Half of a surrogate pair is no character, so this is an approximation: the replacement
-- character stands for it.
def approximateChar (n : Nat) : Char :=
  if isHighSurrogate n || isLowSurrogate n then replacement else Char.ofNat n

def plainEscape? : Char → Option Char
  | '"' => some '"'
  | '\\' => some '\\'
  | '/' => some '/'
  | 'b' => some (Char.ofNat 8)
  | 'f' => some (Char.ofNat 12)
  | 'n' => some '\n'
  | 'r' => some '\r'
  | 't' => some '\t'
  | _ => none

def unicodeUnit (c : Cursor) : Except ReadFault Nat :=
  if c.rest.length ≤ 4 then .error (.failed .unicodeEscape (c.position - 1))
  else match hexNumber? (c.rest.take 4) with
    | some n => .ok n
    | none => .error (.failed .unicodeEscape (c.position - 1))

def secondUnit (c : Cursor) : Except ReadFault (Option Nat) :=
  match c.rest with
  | '\\' :: 'u' :: rest =>
      if rest.length ≤ 4 then .ok none
      else match hexNumber? (rest.take 4) with
        | some n => .ok (some n)
        | none => .error (.failed .unicodeEscape (c.position + 1))
  | _ => .ok none

def unicodeEscape (c : Cursor) : Except ReadFault (Char × Cursor) := do
  let first ← unicodeUnit c
  let next := c.advance 4
  if isHighSurrogate first then
    match ← secondUnit next with
    | some second =>
        if isLowSurrogate second then
          pure (Char.ofNat (0x10000 + (first - 0xD800) * 0x400 + (second - 0xDC00)), next.advance 6)
        else pure (approximateChar first, next)
    | none => pure (approximateChar first, next)
  else pure (approximateChar first, next)

def readQuoted (start : Nat) : Nat → List Char → Cursor → Except ReadFault (String × Cursor)
  | 0, _, _ => .error (.failed .closingQuote start)
  | fuel + 1, acc, c =>
      match c.rest with
      | [] => .error (.failed .closingQuote start)
      | '"' :: _ => .ok (String.ofList acc.reverse, c.advance 1)
      | '\\' :: [] => .error (.failed .closingQuote start)
      | '\\' :: 'u' :: _ => do
          let (char, next) ← unicodeEscape (c.advance 2)
          readQuoted start fuel (char :: acc) next
      | '\\' :: e :: _ =>
          match plainEscape? e with
          | some char => readQuoted start fuel (char :: acc) (c.advance 2)
          | none => .error (.failed .escape c.position)
      | char :: _ =>
          if char.toNat < 32 then .error (.failed .noControl c.position)
          else readQuoted start fuel (char :: acc) (c.advance 1)

def readString (c : Cursor) : Except ReadFault (String × Cursor) :=
  readQuoted c.position (c.rest.length + 1) [] (c.advance 1)

def digitsOf (cs : List Char) : List Char := cs.takeWhile Char.isDigit

def natOfDigits (digits : List Char) : Nat :=
  digits.foldl (fun acc c => acc * 10 + (c.toNat - '0'.toNat)) 0

def wholeOf : List Char → List Char
  | '0' :: _ => ['0']
  | cs => digitsOf cs

def fractionOf : List Char → List Char
  | '.' :: rest => digitsOf rest
  | _ => []

def fractionLength (fraction : List Char) : Nat :=
  if fraction.isEmpty then 0 else fraction.length + 1

def signOf : List Char → List Char
  | '-' :: _ => ['-']
  | '+' :: _ => ['+']
  | _ => []

def exponentOf : List Char → Nat × Int
  | e :: rest =>
      if e == 'e' || e == 'E' then
        let sign := signOf rest
        let digits := digitsOf (rest.drop sign.length)
        if digits.isEmpty then (0, 0)
        else
          let n : Int := natOfDigits digits
          (1 + sign.length + digits.length, if sign = ['-'] then -n else n)
      else (0, 0)
  | [] => (0, 0)

structure Numeral where
  whole : List Char
  fraction : List Char
  exponentLength : Nat
  exponent : Int

namespace Numeral

def ofHead (cs : List Char) : Numeral :=
  let whole := wholeOf cs
  let fraction := fractionOf (cs.drop whole.length)
  let exponent := exponentOf (cs.drop (whole.length + fractionLength fraction))
  ⟨whole, fraction, exponent.1, exponent.2⟩

def length (n : Numeral) : Nat :=
  n.whole.length + fractionLength n.fraction + n.exponentLength

def isWhole (n : Numeral) : Bool :=
  n.fraction.isEmpty && n.exponentLength == 0

def value (maxDigits : Nat) (negative : Bool) (n : Numeral) : Except ReadFault Json :=
  if n.isWhole then
    if maxDigits < n.whole.length then .error .numberTooLong
    else
      let k : Int := natOfDigits n.whole
      .ok (int (if negative then -k else k))
  else .ok (real (Double.ofDecimal negative (natOfDigits (n.whole ++ n.fraction))
    (n.exponent - n.fraction.length)))

end Numeral

def minusOf : List Char → List Char
  | '-' :: _ => ['-']
  | _ => []

def readNumber (maxDigits : Nat) (c : Cursor) : Except ReadFault (Json × Cursor) :=
  let minus := minusOf c.rest
  let n := Numeral.ofHead (c.rest.drop minus.length)
  if n.whole.isEmpty then .error (.failed .value c.position)
  else do
    let v ← n.value maxDigits (!minus.isEmpty)
    pure (v, c.advance (minus.length + n.length))

def startsWith (word : String) (c : Cursor) : Bool :=
  word.toList.isPrefixOf c.rest

def keywords : List (String × Json) :=
  [("null", null), ("true", bool true), ("false", bool false), ("NaN", real Double.nan),
   ("Infinity", real (Double.infinity false)), ("-Infinity", real (Double.infinity true))]

abbrev PartReader (α : Type) := Cursor → Except ReadFault (α × Cursor)

abbrev ValueReader := PartReader Json

def readParts {α : Type} (part : PartReader α) (closing : Char) : Nat → List α → PartReader (List α)
  | 0, _, c => .error (.failed .comma c.position)
  | fuel + 1, acc, c => do
      let (item, next) ← part c
      let next := next.skipBlanks
      match next.rest with
      | ',' :: _ => readParts part closing fuel (item :: acc) (next.advance 1).skipBlanks
      | d :: _ =>
          if d = closing then pure ((item :: acc).reverse, next.advance 1)
          else .error (.failed .comma next.position)
      | [] => .error (.failed .comma next.position)

def readName (c : Cursor) : Except ReadFault (String × Cursor) := do
  match c.rest with
  | '"' :: _ =>
      let (name, next) ← readString c
      let next := next.skipBlanks
      match next.rest with
      | ':' :: _ => pure (name, (next.advance 1).skipBlanks)
      | _ => .error (.failed .colon next.position)
  | _ => .error (.failed .name c.position)

def readField (value : ValueReader) : PartReader (String × Json) := fun c => do
  let (name, next) ← readName c
  let (v, next) ← value next
  pure ((name, v), next)

def readValue (maxDigits : Nat) : Nat → ValueReader
  | 0, _ => .error .nestedTooDeep
  | depth + 1, c =>
      match c.rest with
      | '"' :: _ => do
          let (s, next) ← readString c
          pure (str s, next)
      | '[' :: _ =>
          let inner := (c.advance 1).skipBlanks
          match inner.rest with
          | ']' :: _ => .ok (arr [], inner.advance 1)
          | _ => do
              let (items, next) ← readParts (readValue maxDigits depth) ']'
                (inner.rest.length + 1) [] inner
              pure (arr items, next)
      | '\x7b' :: _ =>
          let inner := (c.advance 1).skipBlanks
          match inner.rest with
          | '\x7d' :: _ => .ok (obj [], inner.advance 1)
          | _ => do
              let (fields, next) ←
                readParts (readField (readValue maxDigits depth)) '\x7d'
                  (inner.rest.length + 1) [] inner
              pure (obj (Fields.putAll [] fields), next)
      | _ =>
          match keywords.find? fun k => startsWith k.1 c with
          | some (word, v) => .ok (v, c.advance word.length)
          | none => readNumber maxDigits c

def maxIntegerDigits : Nat := 4300

-- An approximation: how deep a value can be nested depends on what the stack of the caller has
-- left.
def assumedDepth : Nat := 990

def readChars (cs : List Char) : Except ReadFault Json :=
  match cs with
  | '\uFEFF' :: _ => .error (.failed .noByteOrderMark 0)
  | _ => do
      let (v, next) ← readValue maxIntegerDigits assumedDepth (Cursor.mk cs 0).skipBlanks
      let next := next.skipBlanks
      if next.rest.isEmpty then pure v else .error (.failed .endOfText next.position)

def read (text : String) : Except ReadFault Json :=
  readChars text.toList

def digitCount (n : Int) : Nat := (Nat.toDigits 10 n.natAbs).length

def limits (maxDigits : Nat) : Nat → Json → Except ReadFault Unit
  | 0, _ => .error .nestedTooDeep
  | _ + 1, int n => if maxDigits < digitCount n then .error .numberTooLong else .ok ()
  | depth + 1, arr items => forM items (limits maxDigits depth)
  | depth + 1, obj fields => forM fields fun field => limits maxDigits depth field.2
  | _ + 1, _ => .ok ()

def limitFault : ReadFault → Fault
  | .nestedTooDeep => .nestedTooDeep
  | _ => .invalid

def checkWritable (v : Json) : Except Fault Unit :=
  (limits maxIntegerDigits assumedDepth v).mapError limitFault

end Json

end CodeSurvey
