import ContentBinding.Text.Charset.Wide

/-! Character sets in which some bytes say what the bytes after them mean. A text is read byte by byte;
what was said and the bytes that are no character yet are kept on the way. -/

namespace ContentBinding.Text.Charset

inductive Shifted
  | utf7 | hz | iso2022Jp | iso2022Kr
  deriving Repr, DecidableEq

/-- The text of bytes. Every byte comes to some characters and to a state in which the next is read. -/
def readSteps {σ : Type} (step : σ → UInt8 → Option (List Char × σ)) (mayEnd : σ → Bool) :
    σ → Bytes → Option (List Char)
  | s, [] => if mayEnd s then some [] else none
  | s, b :: rest =>
    match step s b with
    | some (cs, s) => (readSteps step mayEnd s rest).map (cs ++ ·)
    | none => none

def asChar (b : UInt8) : Char :=
  Char.ofNat b.toNat

/-! UTF-7 -/

inductive Utf7State
  | direct
  /-- Right behind a plus sign. -/
  | opened
  /-- So many bits of the next unit were read; a high surrogate waits for the low one. -/
  | inside (count bits : Nat) (high : Option Nat)

namespace Utf7State

def digit? (b : UInt8) : Option Nat :=
  let n := b.toNat
  if between 0x41 0x5A n then some (n - 0x41)
  else if between 0x61 0x7A n then some (26 + (n - 0x61))
  else if between 0x30 0x39 n then some (52 + (n - 0x30))
  else if n = 0x2B then some 62
  else if n = 0x2F then some 63
  else none

def stepDirect (b : UInt8) : Option (List Char × Utf7State) :=
  if b = 0x2B then some ([], opened)
  else if b < 0x80 then some ([asChar b], direct)
  else none

/-- A unit that is complete, behind a high surrogate or none. -/
def takeUnit (high : Option Nat) (unit : Nat) : List Char × Option Nat :=
  match high with
  | some h =>
    if isLowSurrogate unit then ([joinSurrogates h unit], none)
    else if isHighSurrogate unit then ([loneSurrogate], some unit)
    else ([loneSurrogate, Char.ofNat unit], none)
  | none =>
    if isHighSurrogate unit then ([], some unit)
    else if isLowSurrogate unit then ([loneSurrogate], none)
    else ([Char.ofNat unit], none)

def stepDigit (count bits : Nat) (high : Option Nat) (d : Nat) : List Char × Utf7State :=
  let bits := 64 * bits + d
  let count := count + 6
  if 16 ≤ count then
    let left := count - 16
    let (cs, high) := takeUnit high (bits / Nat.pow 2 left)
    (cs, inside left (bits % Nat.pow 2 left) high)
  else ([], inside count bits high)

/-- Bits that are left over are zeros, and too few for a digit. -/
def isPadding (count bits : Nat) : Bool :=
  count < 6 && bits = 0

def step : Utf7State → UInt8 → Option (List Char × Utf7State)
  | direct, b => stepDirect b
  | opened, b =>
    if b = 0x2D then some (['+'], direct) else (digit? b).map fun d => stepDigit 0 0 none d
  | inside count bits high, b =>
    match digit? b with
    | some d => some (stepDigit count bits high d)
    | none =>
      if !isPadding count bits then none
      else
        let alone := if high.isSome && b < 0x80 then [loneSurrogate] else []
        if b = 0x2D then some (alone, direct)
        else (stepDirect b).map fun (cs, s) => (alone ++ cs, s)

def mayEnd : Utf7State → Bool
  | inside count bits high => high.isNone && isPadding count bits
  | _ => true

end Utf7State

/-! HZ -/

structure HzState where
  inPairs : Bool := false
  held : Option UInt8 := none

namespace HzState

def tilde : UInt8 := 0x7E

def stepEscape (inPairs : Bool) (b : UInt8) : Option (List Char × HzState) :=
  if inPairs then
    if b = 0x7D then some ([], {}) else none
  else if b = tilde then some (['~'], {})
  else if b = 0x7B then some ([], { inPairs := true })
  else if b = 0x0A then some ([], {})
  else none

def step (s : HzState) (b : UInt8) : Option (List Char × HzState) :=
  match s.held with
  | some a =>
    if a = tilde then stepEscape s.inPairs b
    else
      (Row.find? gb2312Rows (a.toNat + 0x80) (b.toNat + 0x80)).map fun c => ([c], { s with held := none })
  | none =>
    if b = tilde then some ([], { s with held := some b })
    else if 0x80 ≤ b then none
    else if s.inPairs then some ([], { s with held := some b })
    else some ([asChar b], s)

def mayEnd (s : HzState) : Bool :=
  s.held.isNone

end HzState

/-! ISO 2022 -/

/-- What bytes below 0x80 stand for. -/
inductive Plane
  | ascii | roman | jis | ks
  deriving DecidableEq

/-- An escape sequence, the place that it sets, and the plane that it puts there. -/
structure Designation where
  bytes : Bytes
  shifted : Bool
  plane : Plane

structure Iso2022State where
  plane : Plane := .ascii
  shiftedPlane : Plane := .ascii
  isShifted : Bool := false
  /-- Behind an escape that is not known the text goes on unread up to the end of that. -/
  isThrough : Bool := false
  held : Bytes := []

namespace Iso2022State

def escape : UInt8 := 0x1B

def designations : Shifted → List Designation
  | .iso2022Kr =>
    [⟨[escape, 0x28, 0x42], false, .ascii⟩, ⟨[escape, 0x29, 0x42], true, .ascii⟩,
      ⟨[escape, 0x24, 0x43], false, .ks⟩, ⟨[escape, 0x24, 0x28, 0x43], false, .ks⟩,
      ⟨[escape, 0x24, 0x29, 0x43], true, .ks⟩]
  | _ =>
    [⟨[escape, 0x28, 0x42], false, .ascii⟩, ⟨[escape, 0x29, 0x42], true, .ascii⟩,
      ⟨[escape, 0x28, 0x4A], false, .roman⟩, ⟨[escape, 0x29, 0x4A], true, .roman⟩,
      ⟨[escape, 0x24, 0x40], false, .jis⟩, ⟨[escape, 0x24, 0x42], false, .jis⟩,
      ⟨[escape, 0x24, 0x28, 0x40], false, .jis⟩, ⟨[escape, 0x24, 0x28, 0x42], false, .jis⟩,
      ⟨[escape, 0x24, 0x29, 0x40], true, .jis⟩, ⟨[escape, 0x24, 0x29, 0x42], true, .jis⟩]

def romanChar (b : UInt8) : Char :=
  if b = 0x5C then '\u00A5' else if b = 0x7E then '\u203E' else asChar b

/-- The character of two bytes; the filler of Korean syllables is one. -/
def pair? (p : Plane) (lead trail : Nat) : Option Char :=
  match p with
  | .ks =>
    if lead = 0xA4 && trail = 0xD4 then some hangulFiller else Row.find? ksRows lead trail
  | _ => Row.find? jisRows lead trail

def endsEscape (b : UInt8) : Bool :=
  between 0x40 0x5A b.toNat

/-- The bytes behind the first three of an escape, where these say which edition of the Japanese set
follows. -/
def afterEdition? (sequence : Bytes) : Option Bytes :=
  match sequence with
  | _ :: mark :: b :: rest =>
    if endsEscape b && !(mark = 0x26 && b = 0x40) then none else some rest
  | _ => none

def stepThrough (s : Iso2022State) (b : UInt8) : Iso2022State :=
  { s with isThrough := !endsEscape b, held := [] }

def stepPlain (set : Shifted) (s : Iso2022State) (b : UInt8) : Option (List Char × Iso2022State) :=
  if s.isThrough then some ([asChar b], s.stepThrough b)
  else if b = escape then some ([], { s with held := [b] })
  else if set = .iso2022Kr && (b = 0x0E || b = 0x0F) then some ([], { s with isShifted := b = 0x0E })
  else if b = 0x0A then some (['\n'], { s with isShifted := false })
  else if b < 0x20 then some ([asChar b], s)
  else if 0x80 ≤ b then none
  else
    match if s.isShifted then s.shiftedPlane else s.plane with
    | .ascii => some ([asChar b], s)
    | .roman => some ([romanChar b], s)
    | _ => some ([], { s with held := [b] })

def designate (s : Iso2022State) (d : Designation) : Iso2022State :=
  if d.shifted then { s with shiftedPlane := d.plane, held := [] }
  else { s with plane := d.plane, held := [] }

/-- One byte more of an escape. -/
def stepEscape (set : Shifted) (s : Iso2022State) (b : UInt8) : Option (List Char × Iso2022State) :=
  let sequence := s.held ++ [b]
  let marks : Bytes := [0x24, 0x26, 0x28, 0x29, 0x2E]
  if sequence.length = 2 && !marks.contains b then
    some ([asChar escape, asChar b], s.stepThrough b)
  else
    let japanese : Designation := ⟨[escape, 0x24, 0x42], false, .jis⟩
    let behind := if set = .iso2022Jp then afterEdition? sequence else none
    match (designations set).find? (·.bytes = sequence) with
    | some d => some ([], s.designate d)
    | none =>
      if behind = some japanese.bytes then some ([], s.designate japanese)
      else if behind.any (·.isPrefixOf japanese.bytes) ||
          (designations set).any (sequence.isPrefixOf ·.bytes) || sequence.length = 2 then
        some ([], { s with held := sequence })
      else none

def step (set : Shifted) (s : Iso2022State) (b : UInt8) : Option (List Char × Iso2022State) :=
  match s.held with
  | [] => s.stepPlain set b
  | a :: _ =>
    if a = escape then s.stepEscape set b
    else
      let plane := if s.isShifted then s.shiftedPlane else s.plane
      (pair? plane (a.toNat + 0x80) (b.toNat + 0x80)).map fun c => ([c], { s with held := [] })

def mayEnd (s : Iso2022State) : Bool :=
  s.held.isEmpty

end Iso2022State

namespace Shifted

/-- The text of bytes, if all of them are in the set. -/
def decode? (set : Shifted) (bs : Bytes) : Option (List Char) :=
  match set with
  | utf7 => readSteps Utf7State.step Utf7State.mayEnd .direct bs
  | hz => readSteps HzState.step HzState.mayEnd {} bs
  | iso2022Jp | iso2022Kr => readSteps (Iso2022State.step set) Iso2022State.mayEnd {} bs

def names : List (String × Shifted) :=
  [("utf_7", utf7), ("hz", hz), ("iso2022_jp", iso2022Jp), ("iso2022_kr", iso2022Kr)]

end Shifted
end ContentBinding.Text.Charset
