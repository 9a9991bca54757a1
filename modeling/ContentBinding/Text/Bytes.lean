/-! Octets, and the Unicode encoding forms. Decoding stops at the first sequence that is not
well-formed and says where it stands and what is wrong with it. -/

namespace ContentBinding.Text

abbrev Bytes := List UInt8

inductive MalformedKind
  | invalidStart | invalidContinuation | unexpectedEnd | truncated
  | illegalSurrogate | illegalEncoding | surrogateCode | outOfRange | undefinedCharacter
  deriving Repr, DecidableEq

/-- Bytes `first` up to before `stop` of a text are not well-formed. -/
structure Malformed where
  encoding : String
  kind : MalformedKind
  first : Nat
  stop : Nat
  byte : UInt8
  deriving Repr, DecidableEq

def MalformedKind.message : MalformedKind → String
  | .invalidStart => "invalid start byte"
  | .invalidContinuation => "invalid continuation byte"
  | .unexpectedEnd => "unexpected end of data"
  | .truncated => "truncated data"
  | .illegalSurrogate => "illegal UTF-16 surrogate"
  | .illegalEncoding => "illegal encoding"
  | .surrogateCode => "code point in surrogate code point range(0xd800, 0xe000)"
  | .outOfRange => "code point not in range(0x110000)"
  | .undefinedCharacter => "character maps to <undefined>"

def hexByte (b : UInt8) : String :=
  String.ofList [Nat.digitChar (b.toNat / 16), Nat.digitChar (b.toNat % 16)]

def Malformed.message (m : Malformed) : String :=
  let place :=
    if m.stop = m.first + 1 then
      "byte 0x" ++ hexByte m.byte ++ " in position " ++ toString m.first
    else
      "bytes in position " ++ toString m.first ++ "-" ++ toString (m.stop - 1)
  "'" ++ m.encoding ++ "' codec can't decode " ++ place ++ ": " ++ m.kind.message

abbrev Decoded := Except Malformed (List Char)

def cons (c : Char) : Decoded → Decoded
  | .ok cs => .ok (c :: cs)
  | .error m => .error m

/-- What stands for a surrogate that is let through alone. Texts are of characters, and a surrogate is
none. -/
def loneSurrogate : Char := '\uFFFD'

/-! UTF-8 -/

def isContinuation (b : UInt8) : Bool :=
  0x80 ≤ b && b < 0xC0

def isSecondOfThree (lead b : UInt8) : Bool :=
  isContinuation b && (lead != 0xE0 || 0xA0 ≤ b) && (lead != 0xED || b < 0xA0)

def isSecondOfFour (lead b : UInt8) : Bool :=
  isContinuation b && (lead != 0xF0 || 0x90 ≤ b) && (lead != 0xF4 || b < 0x90)

def join2 (a b : UInt8) : Char :=
  Char.ofNat (a.toNat % 32 * 64 + b.toNat % 64)

def join3 (a b c : UInt8) : Char :=
  Char.ofNat (a.toNat % 16 * 4096 + b.toNat % 64 * 64 + c.toNat % 64)

def join4 (a b c d : UInt8) : Char :=
  Char.ofNat (a.toNat % 8 * 262144 + b.toNat % 64 * 4096 + c.toNat % 64 * 64 + d.toNat % 64)

def malformed8 (kind : MalformedKind) (pos length : Nat) (b : UInt8) : Decoded :=
  .error ⟨"utf-8", kind, pos, pos + length, b⟩

/-- The characters of UTF-8 text; with `surrogates`, encoded surrogates are let through. -/
def decodeUtf8 (surrogates : Bool) (pos : Nat) : Bytes → Decoded
  | [] => .ok []
  | a :: rest =>
    if a < 0x80 then cons (Char.ofNat a.toNat) (decodeUtf8 surrogates (pos + 1) rest)
    else if a < 0xC2 then malformed8 .invalidStart pos 1 a
    else if a < 0xE0 then
      match rest with
      | [] => malformed8 .unexpectedEnd pos 1 a
      | b :: rest =>
        if isContinuation b then cons (join2 a b) (decodeUtf8 surrogates (pos + 2) rest)
        else malformed8 .invalidContinuation pos 1 a
    else if a < 0xF0 then
      match rest with
      | [] => malformed8 .unexpectedEnd pos 1 a
      | b :: rest =>
        if isSecondOfThree a b then
          match rest with
          | [] => malformed8 .unexpectedEnd pos 2 a
          | c :: rest =>
            if isContinuation c then cons (join3 a b c) (decodeUtf8 surrogates (pos + 3) rest)
            else malformed8 .invalidContinuation pos 2 a
        else if surrogates && a = 0xED && isContinuation b then
          match rest with
          | [] => malformed8 .invalidContinuation pos 1 a
          | c :: rest =>
            if isContinuation c then cons loneSurrogate (decodeUtf8 surrogates (pos + 3) rest)
            else malformed8 .invalidContinuation pos 1 a
        else malformed8 .invalidContinuation pos 1 a
    else if a < 0xF5 then
      match rest with
      | [] => malformed8 .unexpectedEnd pos 1 a
      | b :: rest =>
        if isSecondOfFour a b then
          match rest with
          | [] => malformed8 .unexpectedEnd pos 2 a
          | c :: rest =>
            if isContinuation c then
              match rest with
              | [] => malformed8 .unexpectedEnd pos 3 a
              | d :: rest =>
                if isContinuation d then
                  cons (join4 a b c d) (decodeUtf8 surrogates (pos + 4) rest)
                else malformed8 .invalidContinuation pos 3 a
            else malformed8 .invalidContinuation pos 2 a
        else malformed8 .invalidContinuation pos 1 a
    else malformed8 .invalidStart pos 1 a

def byte (n : Nat) : UInt8 :=
  UInt8.ofNat n

def encodeChar (c : Char) : Bytes :=
  let n := c.toNat
  if n < 0x80 then [byte n]
  else if n < 0x800 then [byte (0xC0 + n / 64), byte (0x80 + n % 64)]
  else if n < 0x10000 then
    [byte (0xE0 + n / 4096), byte (0x80 + n / 64 % 64), byte (0x80 + n % 64)]
  else
    [byte (0xF0 + n / 262144), byte (0x80 + n / 4096 % 64), byte (0x80 + n / 64 % 64),
      byte (0x80 + n % 64)]

/-- Every text can be written, as there is no surrogate in it: with one that stands alone a text has no
UTF-8, and a page with it is not sent or written. What is said of the bytes of a page is said of the
documents without one. -/
def encodeUtf8 (s : String) : Bytes :=
  s.toList.flatMap encodeChar

/-! UTF-16 and UTF-32 -/

inductive ByteOrder
  | little | big
  deriving Repr, DecidableEq

def ByteOrder.suffix : ByteOrder → String
  | .little => "le"
  | .big => "be"

def ByteOrder.pair (o : ByteOrder) (a b : UInt8) : Nat :=
  match o with
  | .little => a.toNat + 256 * b.toNat
  | .big => 256 * a.toNat + b.toNat

def isHighSurrogate (n : Nat) : Bool :=
  0xD800 ≤ n && n < 0xDC00

def isLowSurrogate (n : Nat) : Bool :=
  0xDC00 ≤ n && n < 0xE000

def joinSurrogates (high low : Nat) : Char :=
  Char.ofNat (0x10000 + (high - 0xD800) * 0x400 + (low - 0xDC00))

def decodeUtf16 (o : ByteOrder) (surrogates : Bool) (pos : Nat) : Bytes → Decoded
  | [] => .ok []
  | [a] => .error ⟨"utf-16-" ++ o.suffix, .truncated, pos, pos + 1, a⟩
  | a :: b :: rest =>
    let n := o.pair a b
    let fail := fun (kind : MalformedKind) length =>
      (.error ⟨"utf-16-" ++ o.suffix, kind, pos, pos + length, a⟩ : Decoded)
    if isLowSurrogate n then
      if surrogates then cons loneSurrogate (decodeUtf16 o surrogates (pos + 2) rest)
      else fail .illegalEncoding 2
    else if isHighSurrogate n then
      match rest with
      | c :: d :: more =>
        let m := o.pair c d
        if isLowSurrogate m then
          cons (joinSurrogates n m) (decodeUtf16 o surrogates (pos + 4) more)
        else if surrogates then cons loneSurrogate (decodeUtf16 o surrogates (pos + 2) (c :: d :: more))
        else fail .illegalSurrogate 2
      | [c] =>
        if surrogates then cons loneSurrogate (decodeUtf16 o surrogates (pos + 2) [c])
        else fail .unexpectedEnd 3
      | [] => if surrogates then .ok [loneSurrogate] else fail .unexpectedEnd 2
    else cons (Char.ofNat n) (decodeUtf16 o surrogates (pos + 2) rest)

def ByteOrder.quad (o : ByteOrder) (a b c d : UInt8) : Nat :=
  match o with
  | .little => o.pair a b + 65536 * o.pair c d
  | .big => 65536 * o.pair a b + o.pair c d

def decodeUtf32 (o : ByteOrder) (surrogates : Bool) (pos : Nat) : Bytes → Decoded
  | [] => .ok []
  | a :: b :: c :: d :: rest =>
    let n := o.quad a b c d
    let fail := fun (kind : MalformedKind) =>
      (.error ⟨"utf-32-" ++ o.suffix, kind, pos, pos + 4, a⟩ : Decoded)
    if 0x10FFFF < n then fail .outOfRange
    else if 0xD800 ≤ n && n < 0xE000 then
      if surrogates then cons loneSurrogate (decodeUtf32 o surrogates (pos + 4) rest)
      else fail .surrogateCode
    else cons (Char.ofNat n) (decodeUtf32 o surrogates (pos + 4) rest)
  | a :: rest => .error ⟨"utf-32-" ++ o.suffix, .truncated, pos, pos + 1 + rest.length, a⟩

/-- The text after a byte order mark, in the order that the mark gives. -/
def decodeMarked16 (surrogates : Bool) : Bytes → Decoded
  | 0xFF :: 0xFE :: rest => decodeUtf16 .little surrogates 2 rest
  | 0xFE :: 0xFF :: rest => decodeUtf16 .big surrogates 2 rest
  | bs => decodeUtf16 .little surrogates 0 bs

def decodeMarked32 (surrogates : Bool) : Bytes → Decoded
  | 0xFF :: 0xFE :: 0 :: 0 :: rest => decodeUtf32 .little surrogates 4 rest
  | 0 :: 0 :: 0xFE :: 0xFF :: rest => decodeUtf32 .big surrogates 4 rest
  | bs => decodeUtf32 .little surrogates 0 bs

end ContentBinding.Text
