/-!
# UTF-8

Reading and writing UTF-8 over lists of bytes. The reader tells exactly where a malformed
sequence starts and how many bytes of it could have begun a character, so that errors can be
reported and replaced one maximal piece at a time.

## Main definitions

* `encodeChar`, `encode` - the bytes of a character and of a text
* `Front`, `front` - what stands at the start of a byte sequence
* `decode` - strict reading
* `decodeLossy` - reading with U+FFFD for each malformed piece
-/

namespace RequestBinding.Utf8

/-- The bytes of one character. -/
def encodeChar (c : Char) : List UInt8 :=
  let n := c.toNat
  if n < 0x80 then [UInt8.ofNat n]
  else if n < 0x800 then [UInt8.ofNat (0xC0 + n / 64), UInt8.ofNat (0x80 + n % 64)]
  else if n < 0x10000 then
    [UInt8.ofNat (0xE0 + n / 4096), UInt8.ofNat (0x80 + n / 64 % 64), UInt8.ofNat (0x80 + n % 64)]
  else
    [UInt8.ofNat (0xF0 + n / 262144), UInt8.ofNat (0x80 + n / 4096 % 64),
      UInt8.ofNat (0x80 + n / 64 % 64), UInt8.ofNat (0x80 + n % 64)]

/-- The bytes of a list of characters. -/
def encodeChars (cs : List Char) : List UInt8 := cs.flatMap encodeChar

/-- The bytes of a text. -/
def encode (s : String) : List UInt8 := encodeChars s.toList

/-- What stands at the start of a byte sequence. -/
inductive Front where
  /-- A character; `more` bytes after the first belong to it. -/
  | char (c : Char) (more : Nat)
  /-- A piece that cannot be continued to a character; `more` bytes after the first belong to it. -/
  | malformed (more : Nat)
  /-- All bytes up to the end are the beginning of a character. -/
  | truncated
  deriving Repr, DecidableEq

/-- Whether a byte continues a character. -/
def isContinuation (b : UInt8) : Bool := 0x80 ≤ b.toNat && b.toNat ≤ 0xBF

/-- Whether `b` may follow the lead byte `lead` of a three or four byte sequence. The bounds
exclude overlong forms, surrogates and code points above U+10FFFF. -/
def isSecond (lead : Nat) (b : UInt8) : Bool :=
  (if lead == 0xE0 then 0xA0 else if lead == 0xF0 then 0x90 else 0x80) ≤ b.toNat &&
    b.toNat ≤ (if lead == 0xED then 0x9F else if lead == 0xF4 then 0x8F else 0xBF)

/-- The six low bits of a continuation byte. -/
def payload (b : UInt8) : Nat := b.toNat - 0x80

/-- Reads a two byte sequence after its lead byte. -/
def frontTwo (lead : Nat) : List UInt8 → Front
  | [] => .truncated
  | b :: _ =>
    if isContinuation b then .char (Char.ofNat ((lead - 0xC0) * 64 + payload b)) 1
    else .malformed 0

/-- Reads a three byte sequence after its lead byte. -/
def frontThree (lead : Nat) : List UInt8 → Front
  | [] => .truncated
  | b :: bs =>
    if !isSecond lead b then .malformed 0
    else
      match bs with
      | [] => .truncated
      | c :: _ =>
        if !isContinuation c then .malformed 1
        else .char (Char.ofNat ((lead - 0xE0) * 4096 + payload b * 64 + payload c)) 2

/-- Reads a four byte sequence after its lead byte. -/
def frontFour (lead : Nat) : List UInt8 → Front
  | [] => .truncated
  | b :: bs =>
    if !isSecond lead b then .malformed 0
    else
      match bs with
      | [] => .truncated
      | c :: bs =>
        if !isContinuation c then .malformed 1
        else
          match bs with
          | [] => .truncated
          | d :: _ =>
            if !isContinuation d then .malformed 2
            else
              .char (Char.ofNat ((lead - 0xF0) * 262144 + payload b * 4096 + payload c * 64 +
                payload d)) 3

/-- Reads the start of a byte sequence whose first byte is `b`. -/
def front (b : UInt8) (bs : List UInt8) : Front :=
  let n := b.toNat
  if n < 0x80 then .char (Char.ofNat n) 0
  else if n < 0xC2 then .malformed 0
  else if n < 0xE0 then frontTwo n bs
  else if n < 0xF0 then frontThree n bs
  else if n < 0xF5 then frontFour n bs
  else .malformed 0

/-- Why a byte sequence is no UTF-8: the number of valid bytes before the fault, and the number
of bytes of the malformed piece, or none if the sequence ends within a character. -/
structure Fault where
  validBytes : Nat
  width : Option Nat
  deriving Repr, DecidableEq

/-- The wording of a fault. -/
def Fault.message (f : Fault) : String :=
  match f.width with
  | some w =>
    "invalid utf-8 sequence of " ++ toString w ++ " bytes from index " ++ toString f.validBytes
  | none => "incomplete utf-8 byte sequence from index " ++ toString f.validBytes

/-- Strict reading of the end of an input of `total` bytes. -/
def decodeFrom (total : Nat) : List UInt8 → Except Fault (List Char)
  | [] => .ok []
  | b :: bs =>
    match front b bs with
    | .char c more =>
      match decodeFrom total (bs.drop more) with
      | .ok cs => .ok (c :: cs)
      | .error e => .error e
    | .malformed more => .error ⟨total - (bs.length + 1), some (more + 1)⟩
    | .truncated => .error ⟨total - (bs.length + 1), none⟩
  termination_by bs => bs.length

/-- Strict reading: the characters, or the first fault. -/
def decode (bs : List UInt8) : Except Fault (List Char) := decodeFrom bs.length bs

/-- The character that stands for a malformed piece. -/
def replacement : Char := Char.ofNat 0xFFFD

/-- Reading that replaces each malformed piece by `replacement`. -/
def decodeLossy : List UInt8 → List Char
  | [] => []
  | b :: bs =>
    match front b bs with
    | .char c more => c :: decodeLossy (bs.drop more)
    | .malformed more => replacement :: decodeLossy (bs.drop more)
    | .truncated => [replacement]
  termination_by bs => bs.length

end RequestBinding.Utf8
