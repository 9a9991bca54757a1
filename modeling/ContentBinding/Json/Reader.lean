import ContentBinding.Json.Value
import ContentBinding.Text.Bytes
import ContentBinding.Text.Digits
import ContentBinding.Text.Hex

/-! Reading JSON text. A failure says what was expected and how much of the text was left. Values
inside each other are read by calls inside each other, and for these there is only so much room. -/

namespace ContentBinding.Json

/-- What a call is for. -/
inductive Call
  | object | array | helper
  deriving Repr, DecidableEq

def Call.purpose : Call → String
  | object => " while decoding a JSON object from a unicode string"
  | array => " while decoding a JSON array from a unicode string"
  | helper => ""

inductive Fault
  | value | propertyName | colon | comma | extra | unterminated | control | escape | unicodeEscape
  | byteOrderMark
  | overlong (e : Text.Overlong)
  | noRoom (c : Call)
  deriving Repr, DecidableEq

def Fault.message : Fault → String
  | .value => "Expecting value"
  | .propertyName => "Expecting property name enclosed in double quotes"
  | .colon => "Expecting ':' delimiter"
  | .comma => "Expecting ',' delimiter"
  | .extra => "Extra data"
  | .unterminated => "Unterminated string starting at"
  | .control => "Invalid control character at"
  | .escape => "Invalid \\escape"
  | .unicodeEscape => "Invalid \\uXXXX escape"
  | .byteOrderMark => "Unexpected UTF-8 BOM (decode using utf-8-sig)"
  | .overlong e => e.message
  | .noRoom c => "maximum recursion depth exceeded" ++ c.purpose

/-- Whether the message says where the fault is. -/
def Fault.isLocated : Fault → Bool
  | .overlong _ | .noRoom _ => false
  | _ => true

/-- How many calls inside each other it takes to tell of a fault: of most there where they are found,
of a missing value and of what is left over at the outside. -/
def Fault.calls : Fault → Nat
  | .byteOrderMark | .overlong _ | .noRoom _ => 0
  | .extra => 1
  | .value => 2
  | _ => 3

namespace Reader

/-- What is wrong, and the number of characters from there to the end of the text. -/
structure Failure where
  fault : Fault
  left : Nat

abbrev Result (α : Type) := Except Failure (α × List Char)

def fail {α : Type} (fault : Fault) (cs : List Char) : Result α :=
  .error ⟨fault, cs.length⟩

/-- A failure as it is told with so much room. -/
def Failure.within (room : Nat) (f : Failure) : Failure :=
  if f.fault.calls ≤ room then f
  else { f with fault := .noRoom .helper }

/-- What comes out of a value: of a missing one the outside tells. -/
def told {α : Type} (room : Nat) (r : Result α) : Result α :=
  r.mapError fun f => if f.fault = .value then f else f.within room

def isSpace (c : Char) : Bool :=
  c = ' ' || c = '\t' || c = '\n' || c = '\r'

def skipSpaces (cs : List Char) : List Char :=
  cs.dropWhile isSpace

/-! Numbers -/

/-- The digits of an integer part: a single zero, or digits that do not begin with one. -/
def takeInteger (cs : List Char) : List Char × List Char :=
  match cs with
  | '0' :: rest => (['0'], rest)
  | _ => (cs.takeWhile Char.isDigit, cs.dropWhile Char.isDigit)

/-- The digits after a point; a point without digits is not part of the number. -/
def takeFraction (cs : List Char) : Option (List Char) × List Char :=
  match cs with
  | '.' :: rest =>
    let ds := rest.takeWhile Char.isDigit
    if ds.isEmpty then (none, cs) else (some ds, rest.dropWhile Char.isDigit)
  | _ => (none, cs)

def takeSign (cs : List Char) : Bool × List Char :=
  match cs with
  | '-' :: rest => (true, rest)
  | '+' :: rest => (false, rest)
  | _ => (false, cs)

def takeExponent (cs : List Char) : Option Int × List Char :=
  match cs with
  | c :: rest =>
    if c = 'e' || c = 'E' then
      let (negative, rest) := takeSign rest
      let ds := rest.takeWhile Char.isDigit
      if ds.isEmpty then (none, cs)
      else
        let n : Int := Text.natOf ds
        (some (if negative then -n else n), rest.dropWhile Char.isDigit)
    else (none, cs)
  | [] => (none, cs)

/-- A number is an integer unless it has a fraction or an exponent. -/
def numberValue (negative : Bool) (whole : List Char) (fraction : Option (List Char))
    (exponent : Option Int) : Except Fault Value :=
  match fraction, exponent with
  | none, none =>
    match Text.overlong? whole with
    | some e => .error (.overlong e)
    | none => .ok (.int (if negative then -(Text.natOf whole : Int) else Text.natOf whole))
  | _, _ =>
    let ds := whole ++ fraction.getD []
    .ok (.double (Number.Double.ofDecimal negative (Text.natOf ds)
      (exponent.getD 0 - (fraction.getD []).length)))

/-- A number after its sign; none without digits. -/
def takeNumber (negative : Bool) (cs : List Char) : Option (Result Value) :=
  let (whole, rest) := takeInteger cs
  if whole.isEmpty then none
  else
    let (fraction, rest) := takeFraction rest
    let (exponent, rest) := takeExponent rest
    match numberValue negative whole fraction exponent with
    | .ok v => some (.ok (v, rest))
    | .error f => some (fail f cs)

/-! Strings -/

def hex4? : List Char → Option Nat
  | [a, b, c, d] => do
    return (← Text.hexValue? a) * 4096 + (← Text.hexValue? b) * 256 + (← Text.hexValue? c) * 16 +
      (← Text.hexValue? d)
  | _ => none

def simpleEscape? : Char → Option Char
  | '"' => some '"'
  | '\\' => some '\\'
  | '/' => some '/'
  | 'b' => some '\x08'
  | 'f' => some '\x0c'
  | 'n' => some '\n'
  | 'r' => some '\r'
  | 't' => some '\t'
  | _ => none

def codeChar (n : Nat) : Char :=
  if Text.isHighSurrogate n || Text.isLowSurrogate n then Text.loneSurrogate else Char.ofNat n

/-- A code after `\u`. The string's end has to come later, so at least one more character must
follow. A high surrogate takes the low one that follows it. -/
def takeUnicode (cs : List Char) : Result Char :=
  if cs.length ≤ 4 then .error ⟨.unicodeEscape, cs.length + 1⟩
  else
    match hex4? (cs.take 4) with
    | none => .error ⟨.unicodeEscape, cs.length + 1⟩
    | some n =>
      let rest := cs.drop 4
      if Text.isHighSurrogate n && 6 < rest.length then
        match rest with
        | '\\' :: 'u' :: more =>
          match hex4? (more.take 4) with
          | none => .error ⟨.unicodeEscape, more.length + 1⟩
          | some m =>
            if Text.isLowSurrogate m then .ok (Text.joinSurrogates n m, more.drop 4)
            else .ok (codeChar n, rest)
        | _ => .ok (codeChar n, rest)
      else .ok (codeChar n, rest)

/-- The characters up to the closing quote. `opened` counts the text from the opening quote on;
`fuel` is at least the length of the rest. -/
def takeString (opened : Nat) : Nat → List Char → List Char → Result String
  | 0, _, _ => .error ⟨.unterminated, opened⟩
  | _, _, [] => .error ⟨.unterminated, opened⟩
  | fuel + 1, acc, c :: rest =>
    if c = '"' then .ok (String.ofList acc.reverse, rest)
    else if c = '\\' then
      match rest with
      | [] => .error ⟨.unterminated, opened⟩
      | 'u' :: more =>
        match takeUnicode more with
        | .ok (d, more) => takeString opened fuel (d :: acc) more
        | .error e => .error e
      | d :: more =>
        match simpleEscape? d with
        | some e => takeString opened fuel (e :: acc) more
        | none => fail .escape (c :: rest)
    else if c.toNat < 32 then fail .control (c :: rest)
    else takeString opened fuel (c :: acc) rest

/-! Values -/

def dropLiteral (word : String) (cs : List Char) : Option (List Char) :=
  if word.toList.isPrefixOf cs then some (cs.drop word.length) else none

def literals : List (String × Value) :=
  [("null", .null), ("true", .bool true), ("false", .bool false)]

/-- Words for doubles, which are looked up by a call. -/
def constants : List (String × Value) :=
  [("NaN", .double .nan), ("Infinity", .double (.infinite false)),
    ("-Infinity", .double (.infinite true))]

def takeWord (words : List (String × Value)) (cs : List Char) : Option (Value × List Char) :=
  words.findSome? fun (w, v) => (dropLiteral w cs).map fun rest => (v, rest)

def takeScalar (room : Nat) (cs : List Char) : Result Value :=
  match takeWord literals cs, takeWord constants cs with
  | some r, _ => .ok r
  | none, some r => if room = 0 then fail (.noRoom .helper) cs else .ok r
  | none, none =>
    let number :=
      match cs with
      | '-' :: rest => takeNumber true rest
      | _ => takeNumber false cs
    number.getD (fail .value cs)

mutual

/-- A value; `fuel` is more than the length of the text. -/
def takeValue : Nat → Nat → List Char → Result Value
  | 0, _, cs => fail .value cs
  | fuel + 1, room, cs =>
    match cs with
    | '"' :: rest =>
      match told room (takeString cs.length (rest.length + 1) [] rest) with
      | .error e => .error e
      | .ok (s, rest) => .ok (.str s, rest)
    | '{' :: rest =>
      match room with
      | 0 => fail (.noRoom .object) cs
      | room + 1 =>
        match skipSpaces rest with
        | '}' :: rest => .ok (.obj [], rest)
        | rest => takeMembers fuel room [] rest
    | '[' :: rest =>
      match room with
      | 0 => fail (.noRoom .array) cs
      | room + 1 =>
        match skipSpaces rest with
        | ']' :: rest => .ok (.arr [], rest)
        | rest => takeItems fuel room [] rest
    | _ => takeScalar room cs

/-- The members of an object from a key on. -/
def takeMembers : Nat → Nat → List (String × Value) → List Char → Result Value
  | 0, _, _, cs => fail .value cs
  | fuel + 1, room, acc, cs =>
    match cs with
    | '"' :: rest =>
      match told room (takeString cs.length (rest.length + 1) [] rest) with
      | .error e => .error e
      | .ok (key, rest) =>
        match skipSpaces rest with
        | ':' :: rest =>
          match takeValue fuel room (skipSpaces rest) with
          | .error e => .error e
          | .ok (v, rest) =>
            match skipSpaces rest with
            | '}' :: rest => .ok (.obj (Value.insertMember key v acc), rest)
            | ',' :: rest => takeMembers fuel room (Value.insertMember key v acc) (skipSpaces rest)
            | rest => told room (fail .comma rest)
        | rest => told room (fail .colon rest)
    | _ => told room (fail .propertyName cs)

/-- The items of an array from a value on; `acc` is in reverse order. -/
def takeItems : Nat → Nat → List Value → List Char → Result Value
  | 0, _, _, cs => fail .value cs
  | fuel + 1, room, acc, cs =>
    match takeValue fuel room cs with
    | .error e => .error e
    | .ok (v, rest) =>
      match skipSpaces rest with
      | ']' :: rest => .ok (.arr (v :: acc).reverse, rest)
      | ',' :: rest => takeItems fuel room (v :: acc) (skipSpaces rest)
      | rest => told room (fail .comma rest)

end

end Reader

/-- What is wrong with a text, and where: line and column count from one. -/
structure Error where
  fault : Fault
  line : Nat
  column : Nat
  offset : Nat
  deriving Repr, DecidableEq

def Error.message (e : Error) : String :=
  if e.fault.isLocated then
    e.fault.message ++ ": line " ++ toString e.line ++ " column " ++ toString e.column ++
      " (char " ++ toString e.offset ++ ")"
  else e.fault.message

/-- Whether there was no room to read the text, whatever it is. -/
def Error.isDepth (e : Error) : Bool :=
  e.fault matches .noRoom _

def Error.ofFailure (cs : List Char) (f : Reader.Failure) : Error :=
  let offset := cs.length - f.left
  let before := cs.take offset
  { fault := f.fault
    line := before.count '\n' + 1
    column := (before.reverse.takeWhile (· != '\n')).length + 1
    offset := offset }

/-- The calls that are left, as a rule. -/
def standardRoom : Nat := 900

/-- What is read of a text up to its end. -/
def readChars (cs : List Char) (room : Nat) : Except Reader.Failure Value := do
  let (v, rest) ← Reader.takeValue (2 * cs.length + 2) room (Reader.skipSpaces cs)
  let rest := Reader.skipSpaces rest
  if rest.isEmpty then return v
  else .error ⟨.extra, rest.length⟩

/-- Reads a whole text, whatever it begins with. -/
def parseChars (cs : List Char) (room : Nat := standardRoom) : Except Error Value :=
  match readChars cs room with
  | .ok v => .ok v
  | .error f => .error (Error.ofFailure cs (f.within room))

/-- Reads a text, which has no byte order mark: marks are for bytes. -/
def parse (text : String) (room : Nat := standardRoom) : Except Error Value :=
  let cs := text.toList
  if cs.head? = some '\uFEFF' then .error (Error.ofFailure cs ⟨.byteOrderMark, cs.length⟩)
  else parseChars cs room

end ContentBinding.Json
