import ContentBinding.Text.Digits
import ContentBinding.Toml.Value

/-! Texts, numbers and moments in settings files. Each reader takes its part from the front of the
text and gives what is left, or none when there is no such part. -/

namespace ContentBinding.Toml

abbrev Taken (α : Type) := Option (α × List Char)

/-- Why a settings text cannot be read. -/
inductive Problem
  | malformed
  | overlong (e : Text.Overlong)
  deriving Repr, DecidableEq

/-- What a reader takes that may meet an integer with too many digits. -/
abbrev Reading (α : Type) := Except Problem (α × List Char)

def Taken.orMalformed {α : Type} (t : Taken α) : Reading α :=
  t.elim (.error .malformed) .ok

namespace Scalar

def isHexDigit (c : Char) : Bool :=
  c.isDigit || ('a' ≤ c && c ≤ 'f') || ('A' ≤ c && c ≤ 'F')

def digitValue (c : Char) : Nat :=
  if c.isDigit then c.toNat - '0'.toNat
  else if 'a' ≤ c then c.toNat - 'a'.toNat + 10
  else c.toNat - 'A'.toNat + 10

def natOf (base : Nat) (ds : List Char) : Nat :=
  ds.foldl (fun n c => base * n + digitValue c) 0

/-- What follows a text at the front. -/
def after? (start cs : List Char) : Option (List Char) :=
  if start.isPrefixOf cs then some (cs.drop start.length) else none

/-! Texts -/

/-- Control characters, which no text and no comment may hold; lines only where there may be some. -/
def isForbidden (lines : Bool) (c : Char) : Bool :=
  (c.toNat < 32 && c != '\t' && !(lines && c = '\n')) || c.toNat = 127

def isBlank (c : Char) : Bool :=
  c = ' ' || c = '\t'

def isBlankOrLine (c : Char) : Bool :=
  isBlank c || c = '\n'

def simpleEscape? : Char → Option Char
  | 'b' => some '\x08'
  | 't' => some '\t'
  | 'n' => some '\n'
  | 'f' => some '\x0c'
  | 'r' => some '\r'
  | '"' => some '"'
  | '\\' => some '\\'
  | _ => none

/-- A character by its number, in so many hexadecimal digits. -/
def takeCode (width : Nat) (cs : List Char) : Taken (List Char) :=
  let ds := cs.take width
  let n := natOf 16 ds
  if ds.length = width && ds.all isHexDigit && (n < 0xD800 || (0xE000 ≤ n && n < 0x110000)) then
    some ([Char.ofNat n], cs.drop width)
  else none

/-- A backslash at the end of a line takes away the line's end and all blanks after it. -/
def takeLineEscape (cs : List Char) : Taken (List Char) :=
  match cs.dropWhile isBlank with
  | [] => some ([], [])
  | '\n' :: rest => some ([], rest.dropWhile isBlankOrLine)
  | _ => none

/-- What an escape stands for; `cs` follows its backslash. -/
def takeEscape (lines : Bool) (cs : List Char) : Taken (List Char) :=
  match cs with
  | [] => none
  | 'u' :: rest => takeCode 4 rest
  | 'U' :: rest => takeCode 8 rest
  | c :: rest =>
    if lines && isBlankOrLine c then takeLineEscape cs
    else (simpleEscape? c).map fun e => ([e], rest)

def appendTaken (start : List Char) : Taken (List Char) → Taken (List Char)
  | some (more, rest) => some (start ++ more, rest)
  | none => none

/-- A text with escapes up to its end mark; `fuel` bounds its length. -/
def takeBasic (lines : Bool) : Nat → List Char → Taken (List Char)
  | 0, _ => none
  | fuel + 1, cs =>
    match cs with
    | [] => none
    | '"' :: rest =>
      if !lines then some ([], rest)
      else
        match rest with
        | '"' :: '"' :: rest => some ([], rest)
        | _ => appendTaken ['"'] (takeBasic lines fuel rest)
    | '\\' :: rest =>
      match takeEscape lines rest with
      | some (e, rest) => appendTaken e (takeBasic lines fuel rest)
      | none => none
    | c :: rest =>
      if isForbidden lines c then none else appendTaken [c] (takeBasic lines fuel rest)

/-- A text that stands for itself, up to its end mark. -/
def takeLiteral (mark : List Char) : List Char → Taken (List Char)
  | [] => none
  | c :: rest =>
    match after? mark (c :: rest) with
    | some rest => some ([], rest)
    | none =>
      if isForbidden (mark.length = 3) c then none else appendTaken [c] (takeLiteral mark rest)

/-- One or two marks right after the end of a text of several lines belong to the text. -/
def takeExtraMarks (mark : Char) (t : Taken (List Char)) : Taken (List Char) :=
  match t with
  | none => none
  | some (text, rest) =>
    let extra := (rest.take 2).takeWhile (· = mark)
    some (text ++ extra, rest.drop extra.length)

/-- A line's end right after the opening marks is not part of the text. -/
def skipFirstLine (cs : List Char) : List Char :=
  match cs with
  | '\n' :: rest => rest
  | _ => cs

def takeOneLineBasic (cs : List Char) : Taken (List Char) :=
  match cs with
  | '"' :: rest => takeBasic false (rest.length + 1) rest
  | _ => none

def takeOneLineLiteral (cs : List Char) : Taken (List Char) :=
  match cs with
  | '\'' :: rest => takeLiteral ['\''] rest
  | _ => none

def takeText (cs : List Char) : Taken (List Char) :=
  match cs with
  | '"' :: '"' :: '"' :: rest =>
    let rest := skipFirstLine rest
    takeExtraMarks '"' (takeBasic true (rest.length + 1) rest)
  | '\'' :: '\'' :: '\'' :: rest => takeExtraMarks '\'' (takeLiteral ['\'', '\'', '\''] (skipFirstLine rest))
  | '"' :: _ => takeOneLineBasic cs
  | _ => takeOneLineLiteral cs

/-! Numbers -/

/-- The digits after a digit, each with an underscore before it or without. -/
def takeMoreDigits (isDigit : Char → Bool) : List Char → List Char × List Char
  | '_' :: d :: rest =>
    if isDigit d then
      let (ds, left) := takeMoreDigits isDigit rest
      (d :: ds, left)
    else ([], '_' :: d :: rest)
  | d :: rest =>
    if isDigit d then
      let (ds, left) := takeMoreDigits isDigit rest
      (d :: ds, left)
    else ([], d :: rest)
  | [] => ([], [])

/-- Digits with single underscores between them, and what follows; the underscores are dropped. -/
def takeDigits (isDigit : Char → Bool) (cs : List Char) : List Char × List Char :=
  match cs with
  | [] => ([], [])
  | d :: rest =>
    if isDigit d then
      let (ds, left) := takeMoreDigits isDigit rest
      (d :: ds, left)
    else ([], cs)

def takeSign (cs : List Char) : Bool × List Char :=
  match cs with
  | '-' :: rest => (true, rest)
  | '+' :: rest => (false, rest)
  | _ => (false, cs)

/-- A number in base 16, 8 or 2, after its first zero. -/
def takeBased (cs : List Char) : Taken Value :=
  let take (base : Nat) (isDigit : Char → Bool) (cs : List Char) : Taken Value :=
    let (ds, rest) := takeDigits isDigit cs
    if ds.isEmpty then none else some (.int (natOf base ds), rest)
  match cs with
  | '0' :: 'x' :: rest => take 16 isHexDigit rest
  | '0' :: 'o' :: rest => take 8 (fun c => '0' ≤ c && c ≤ '7') rest
  | '0' :: 'b' :: rest => take 2 (fun c => c = '0' || c = '1') rest
  | _ => none

/-- The digits after a mark, if there are any. -/
def takeFraction (cs : List Char) : Taken (List Char) :=
  match cs with
  | '.' :: rest =>
    let (ds, left) := takeDigits Char.isDigit rest
    if ds.isEmpty then none else some (ds, left)
  | _ => none

def takeExponent (cs : List Char) : Taken Int :=
  match cs with
  | c :: rest =>
    if c = 'e' || c = 'E' then
      let (negative, rest) := takeSign rest
      let (ds, left) := takeDigits Char.isDigit rest
      if ds.isEmpty then none
      else some (if negative then -(natOf 10 ds : Int) else natOf 10 ds, left)
    else none
  | [] => none

/-- An integer part has no zero before other digits. -/
def takeWhole (cs : List Char) : List Char × List Char :=
  match cs with
  | '0' :: rest => (['0'], rest)
  | _ => takeDigits Char.isDigit cs

/-- A number with decimal digits, if there is one. -/
def takeDecimal (cs : List Char) : Option (Reading Value) :=
  let (negative, rest) := takeSign cs
  let (whole, rest) := takeWhole rest
  if whole.isEmpty then none
  else
    let fraction := takeFraction rest
    let rest := match fraction with | some (_, left) => left | none => rest
    let ds := match fraction with | some (ds, _) => ds | none => []
    let exponent := takeExponent rest
    let rest := match exponent with | some (_, left) => left | none => rest
    let e := match exponent with | some (e, _) => e | none => 0
    if fraction.isNone && exponent.isNone then
      let n : Int := natOf 10 whole
      match Text.overlong? whole with
      | some e => some (.error (.overlong e))
      | none => some (.ok (.int (if negative then -n else n), rest))
    else
      some (.ok (.float (.ofDecimal negative (natOf 10 (whole ++ ds)) (e - ds.length)), rest))

def takeNumber (cs : List Char) : Option (Reading Value) :=
  match takeBased cs with
  | some t => some (.ok t)
  | none => takeDecimal cs

/-- Infinity, and what is no number. -/
def takeSpecial (cs : List Char) : Taken Value :=
  let (negative, rest) := takeSign cs
  match rest with
  | 'i' :: 'n' :: 'f' :: rest => some (.float (.infinite negative), rest)
  | 'n' :: 'a' :: 'n' :: rest => some (.float .nan, rest)
  | _ => none

/-! Moments -/

/-- So many decimal digits, as a number. -/
def takeFixed (width : Nat) (cs : List Char) : Taken Nat :=
  let ds := cs.take width
  if ds.length = width && ds.all Char.isDigit then some (natOf 10 ds, cs.drop width) else none

/-- A number of two digits up to a bound, after a mark. -/
def takeUpTo (mark : List Char) (bound : Nat) (cs : List Char) : Option (List Char) :=
  match after? mark cs with
  | none => none
  | some rest =>
    match takeFixed 2 rest with
    | some (n, rest) => if n ≤ bound then some rest else none
    | none => none

def skipSecondFraction (cs : List Char) : List Char :=
  match cs with
  | '.' :: d :: rest => if d.isDigit then rest.dropWhile Char.isDigit else cs
  | _ => cs

/-- What follows a time of day. -/
def afterTime? (cs : List Char) : Option (List Char) :=
  (((takeUpTo [] 23 cs).bind (takeUpTo [':'] 59)).bind (takeUpTo [':'] 59)).map skipSecondFraction

/-- What follows the distance to universal time, which may be missing. -/
def afterOffset (cs : List Char) : List Char :=
  match cs with
  | [] => []
  | c :: rest =>
    if c = 'Z' || c = 'z' then rest
    else if c = '+' || c = '-' then
      ((takeUpTo [] 23 rest).bind (takeUpTo [':'] 59)).getD cs
    else cs

def isLeapYear (y : Nat) : Bool :=
  y % 4 = 0 && (y % 100 != 0 || y % 400 = 0)

def monthLength (y m : Nat) : Nat :=
  if m = 2 then if isLeapYear y then 29 else 28
  else if m = 4 || m = 6 || m = 9 || m = 11 then 30
  else 31

/-- The parts of a date as written: months up to 12 and days up to 31. -/
def takeDate (cs : List Char) : Taken (Nat × Nat × Nat) :=
  match takeFixed 4 cs with
  | some (y, '-' :: rest) =>
    match takeFixed 2 rest with
    | some (m, '-' :: rest) =>
      match takeFixed 2 rest with
      | some (d, rest) =>
        if 1 ≤ m && m ≤ 12 && 1 ≤ d && d ≤ 31 then some ((y, m, d), rest) else none
      | none => none
    | _ => none
  | _ => none

def isDay (date : Nat × Nat × Nat) : Bool :=
  let (y, m, d) := date
  1 ≤ y && d ≤ monthLength y m

/-- The time and the distance after a date, if they are there. -/
def afterDate (cs : List Char) : List Char :=
  match cs with
  | c :: rest =>
    if c = 'T' || c = 't' || c = ' ' then
      match afterTime? rest with
      | some rest => afterOffset rest
      | none => cs
    else cs
  | [] => []

def momentOf (cs rest : List Char) : Value :=
  .moment (String.ofList (cs.take (cs.length - rest.length)))

/-- A date, with or without a time, or a time. A date that no calendar has is none. -/
def takeMoment (cs : List Char) : Option (Taken Value) :=
  match takeDate cs with
  | some (date, rest) =>
    let rest := afterDate rest
    some (if isDay date then some (momentOf cs rest, rest) else none)
  | none =>
    match afterTime? cs with
    | some rest => some (some (momentOf cs rest, rest))
    | none => none

def takeBool (cs : List Char) : Taken Value :=
  match cs with
  | 't' :: 'r' :: 'u' :: 'e' :: rest => some (.bool true, rest)
  | 'f' :: 'a' :: 'l' :: 's' :: 'e' :: rest => some (.bool false, rest)
  | _ => none

/-- A value that holds no others. -/
def take (cs : List Char) : Reading Value :=
  match cs with
  | [] => .error .malformed
  | c :: _ =>
    if c = '"' || c = '\'' then
      Taken.orMalformed ((takeText cs).map fun (s, rest) => (.str (String.ofList s), rest))
    else
      match takeBool cs with
      | some t => .ok t
      | none =>
        match takeMoment cs with
        | some t => t.orMalformed
        | none => (takeNumber cs).getD (takeSpecial cs).orMalformed

end Scalar
end ContentBinding.Toml
