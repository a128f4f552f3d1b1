namespace CodeSurvey.Digest

def rotate (x : UInt32) (n : UInt32) : UInt32 :=
  (x <<< n) ||| (x >>> (32 - n))

structure State where
  a : UInt32
  b : UInt32
  c : UInt32
  d : UInt32
  e : UInt32
  deriving DecidableEq, Repr

def State.initial : State :=
  ⟨0x67452301, 0xEFCDAB89, 0x98BADCFE, 0x10325476, 0xC3D2E1F0⟩

def State.add (s t : State) : State :=
  ⟨s.a + t.a, s.b + t.b, s.c + t.c, s.d + t.d, s.e + t.e⟩

def State.words (s : State) : List UInt32 := [s.a, s.b, s.c, s.d, s.e]

def mix (round : Nat) (b c d : UInt32) : UInt32 × UInt32 :=
  if round < 20 then ((b &&& c) ||| (~~~b &&& d), 0x5A827999)
  else if round < 40 then (b ^^^ c ^^^ d, 0x6ED9EBA1)
  else if round < 60 then ((b &&& c) ||| (b &&& d) ||| (c &&& d), 0x8F1BBCDC)
  else (b ^^^ c ^^^ d, 0xCA62C1D6)

def advance (s : State) (round : Nat) (word : UInt32) : State :=
  let (f, k) := mix round s.b s.c s.d
  ⟨rotate s.a 5 + f + s.e + k + word, s.a, rotate s.b 30, s.c, s.d⟩

def wordAt (octets : List UInt8) : UInt32 :=
  octets.foldl (fun acc b => (acc <<< 8) ||| b.toUInt32) 0

def schedule : Nat → Array UInt32 → Array UInt32
  | 0, words => words
  | n + 1, words =>
      let i := words.size
      let at' (k : Nat) := words.getD (i - k) 0
      schedule n (words.push (rotate (at' 3 ^^^ at' 8 ^^^ at' 14 ^^^ at' 16) 1))

def blockWords (octets : List UInt8) : Array UInt32 :=
  ((List.range 16).map fun i => wordAt ((octets.drop (4 * i)).take 4)).toArray

def compress (s : State) (octets : List UInt8) : State :=
  let words := schedule 64 (blockWords octets)
  let final := (List.range 80).foldl (fun t i => advance t i (words.getD i 0)) s
  s.add final

def lengthOctets (n : Nat) : List UInt8 :=
  (List.range 8).map fun i => UInt8.ofNat (n / Nat.pow 256 (7 - i) % 256)

def padded (octets : List UInt8) : List UInt8 :=
  let n := octets.length
  octets ++ 0x80 :: List.replicate ((119 - n % 64) % 64) 0 ++ lengthOctets (8 * n)

def compressAll : Nat → State → List UInt8 → State
  | 0, s, _ => s
  | blocks + 1, s, octets => compressAll blocks (compress s (octets.take 64)) (octets.drop 64)

def hexWord (w : UInt32) : List Char :=
  let digits := Nat.toDigits 16 w.toNat
  List.replicate (8 - digits.length) '0' ++ digits

def sha1 (octets : List UInt8) : List Char :=
  let all := padded octets
  (compressAll (all.length / 64) State.initial all).words.flatMap hexWord

end CodeSurvey.Digest
