import ContentBinding.Json.Reader

/-! JSON from bytes: the encoding form is seen from a byte order mark or from the zero bytes among
the first four. -/

namespace ContentBinding.Json

inductive ByteError
  | malformed (m : Text.Malformed)
  | syntactic (e : Error)
  deriving Repr, DecidableEq

def ByteError.message : ByteError → String
  | .malformed m => m.message
  | .syntactic e => e.message

/-- The characters of a document. A second byte order mark is a character like others. -/
def decodeBytes (bs : Text.Bytes) : Text.Decoded :=
  match bs with
  | 0 :: 0 :: 0xFE :: 0xFF :: _ => Text.decodeMarked32 true bs
  | 0xFF :: 0xFE :: 0 :: 0 :: _ => Text.decodeMarked32 true bs
  | 0xFE :: 0xFF :: _ => Text.decodeMarked16 true bs
  | 0xFF :: 0xFE :: _ => Text.decodeMarked16 true bs
  | 0xEF :: 0xBB :: 0xBF :: rest => Text.decodeUtf8 true 0 rest
  | a :: b :: c :: d :: _ =>
    if a = 0 then
      if b = 0 then Text.decodeUtf32 .big true 0 bs else Text.decodeUtf16 .big true 0 bs
    else if b = 0 then
      if c = 0 && d = 0 then Text.decodeUtf32 .little true 0 bs
      else Text.decodeUtf16 .little true 0 bs
    else Text.decodeUtf8 true 0 bs
  | [a, b] =>
    if a = 0 then Text.decodeUtf16 .big true 0 bs
    else if b = 0 then Text.decodeUtf16 .little true 0 bs
    else Text.decodeUtf8 true 0 bs
  | _ => Text.decodeUtf8 true 0 bs

def ByteError.isDepth : ByteError → Bool
  | .malformed _ => false
  | .syntactic e => e.isDepth

def parseBytes (bs : Text.Bytes) (room : Nat := standardRoom) : Except ByteError Value :=
  match decodeBytes bs with
  | .error m => .error (.malformed m)
  | .ok cs =>
    match parseChars cs room with
    | .ok v => .ok v
    | .error e => .error (.syntactic e)

end ContentBinding.Json
