import ContentBinding.Text.Bytes
import ContentBinding.Text.Charset.Big5
import ContentBinding.Text.Charset.Extensions
import ContentBinding.Text.Charset.Gb2312
import ContentBinding.Text.Charset.JisX0208
import ContentBinding.Text.Charset.KsX1001

/-! Character sets in which several bytes may be one character. Each of them says what bytes that
belong together come to; ASCII is a part of all of them. -/

namespace ContentBinding.Text.Charset

inductive Wide
  | gb2312 | gbk | gb18030 | big5 | cp950 | eucKr | cp949 | shiftJis | cp932 | eucJp
  deriving Repr, DecidableEq

/-- What the first bytes of a text come to. -/
inductive Reading
  | char (c : Char)
  /-- More bytes belong to them. -/
  | more
  | bad

def Reading.ofChar? : Option Char → Reading
  | some c => .char c
  | none => .bad

/-- The text of bytes, of which some are held that are no character yet. -/
def decodeWith (read : List Nat → Reading) : List Nat → Bytes → Option (List Char)
  | [], [] => some []
  | _ :: _, [] => none
  | held, b :: rest =>
    match read (held ++ [b.toNat]) with
    | .char c => (decodeWith read [] rest).map (c :: ·)
    | .more => decodeWith read (held ++ [b.toNat]) rest
    | .bad => none

/-- ASCII in one byte, everything else in two. -/
def readPair (isLead : Nat → Bool) (pair : Nat → Nat → Option Char) : List Nat → Reading
  | [a] => if a < 0x80 then .char (Char.ofNat a) else if isLead a then .more else .bad
  | [a, b] => .ofChar? (pair a b)
  | _ => .bad

def between (low high n : Nat) : Bool :=
  low ≤ n && n ≤ high

def isHighLead (n : Nat) : Bool :=
  between 0xA1 0xFE n

/-! Chinese -/

/-- A second byte counted without the one place that is left out. -/
def trailIndex (trail : Nat) : Nat :=
  if 0x7F < trail then trail - 0x41 else trail - 0x40

def isGbkTrail (n : Nat) : Bool :=
  between 0x40 0xFE n && n != 0x7F

/-- Ideographs from the first to the last that a set adds in order, without those that it has. -/
def missingFrom (rows : List Row) (first count : Nat) : Array Char :=
  let taken := rows.foldl
    (fun (taken : Array Bool) r => r.chars.toList.foldl
      (fun taken c =>
        if first ≤ c.toNat && c.toNat < first + count then taken.setIfInBounds (c.toNat - first) true
        else taken)
      taken)
    (Array.replicate count false)
  (((List.range count).filter fun i => !taken.getD i false).map fun i => Char.ofNat (first + i)).toArray

/-- The ideographs that GBK adds, in order. -/
def gbkIdeographs : Unit → Array Char :=
  fun _ => missingFrom gb2312Rows 0x4E00 0x51A6

/-- The place among the added ideographs. -/
def gbkIndex? (lead trail : Nat) : Option Nat :=
  if !isGbkTrail trail then none
  else if between 0x81 0xA0 lead then some (190 * (lead - 0x81) + trailIndex trail)
  else if between 0xAA 0xFE lead && trail ≤ 0xA0 then
    some (6080 + 96 * (lead - 0xAA) + trailIndex trail)
  else none

def gbkPair (ideographs : Array Char) (lead trail : Nat) : Option Char :=
  ((Row.find? gbkRows lead trail).or (Row.find? gb2312Rows lead trail)).or
    ((gbkIndex? lead trail).bind fun i => ideographs[i]?)

/-- Private characters that fill the places of users, in order. -/
def gbUserChar? (lead trail : Nat) : Option Char :=
  if between 0xA1 0xA7 lead && trail < 0xA1 then
    some (Char.ofNat (0xE4C6 + 96 * (lead - 0xA1) + trailIndex trail))
  else if between 0xAA 0xAF lead && 0xA1 ≤ trail then
    some (Char.ofNat (0xE000 + 94 * (lead - 0xAA) + (trail - 0xA1)))
  else if between 0xF8 0xFE lead && 0xA1 ≤ trail then
    some (Char.ofNat (0xE234 + 94 * (lead - 0xF8) + (trail - 0xA1)))
  else none

/-- All places of two bytes, in order. -/
def gbPlaces : Unit → List (Nat × Nat) :=
  fun _ => (List.range 126).flatMap fun l =>
    ((List.range 191).filter fun t => t != 0x3F).map fun t => (0x81 + l, 0x40 + t)

/-- The places that are left over, which private characters fill in order. -/
def gbLeftOver (ideographs : Array Char) : List (Nat × Nat) :=
  (gbPlaces ()).filter fun (l, t) =>
    (gbkPair ideographs l t).isNone && (gbUserChar? l t).isNone

/-- The characters of two bytes in GB 18030, by place. -/
def gb18030Pairs : Unit → Array (Option Char) :=
  fun _ =>
    let ideographs := gbkIdeographs ()
    let left := gbLeftOver ideographs
    let start : Array (Option Char) := Array.replicate (126 * 191) none
    let place (l t : Nat) : Nat := 191 * (l - 0x81) + (t - 0x40)
    let pairs := (gbPlaces ()).foldl
      (fun pairs (l, t) => pairs.setIfInBounds (place l t)
        ((gbkPair ideographs l t).or (gbUserChar? l t))) start
    let filled := (left.zipIdx).foldl
      (fun pairs (p, i) => pairs.setIfInBounds (place p.1 p.2) (some (Char.ofNat (0xE766 + i)))) pairs
    gb18030Rows.foldl
      (fun pairs r => (r.chars.toList.zipIdx).foldl
        (fun pairs (c, i) =>
          if c = Row.hole then pairs else pairs.setIfInBounds (place r.lead (r.start + i)) (some c))
        pairs)
      filled

def gb18030Pair (pairs : Array (Option Char)) (lead trail : Nat) : Option Char :=
  if between 0x81 0xFE lead && isGbkTrail trail then
    (pairs[191 * (lead - 0x81) + (trail - 0x40)]?).join
  else none

/-- The characters of the first plane that have no two bytes, in order. -/
def gb18030Rest (pairs : Array (Option Char)) : Array Char :=
  let taken := pairs.foldl
    (fun (taken : Array Bool) c => match c with
      | some c => taken.setIfInBounds c.toNat true
      | none => taken)
    (Array.replicate 0x10000 false)
  (((List.range 0x10000).filter fun n => 0x80 ≤ n && !between 0xD800 0xDFFF n && !taken.getD n false).map
    Char.ofNat).toArray

/-- Four bytes count through the rest of the first plane and through the planes after it. -/
def gb18030Quad (rest : Array Char) (a b c d : Nat) : Option Char :=
  if between 0x81 0xFE c && between 0x30 0x39 d then
    let n := ((10 * (a - 0x81) + (b - 0x30)) * 126 + (c - 0x81)) * 10 + (d - 0x30)
    if n < rest.size then rest[n]?
    else if 189000 ≤ n && n < 189000 + 0x100000 then some (Char.ofNat (0x10000 + (n - 189000)))
    else none
  else none

def readGb18030 (pairs : Array (Option Char)) (rest : Array Char) : List Nat → Reading
  | [a] => if a < 0x80 then .char (Char.ofNat a) else if between 0x81 0xFE a then .more else .bad
  | [a, b] => if between 0x30 0x39 b then .more else .ofChar? (gb18030Pair pairs a b)
  | [_, _, c] => if between 0x81 0xFE c then .more else .bad
  | [a, b, c, d] => .ofChar? (gb18030Quad rest a b c d)
  | _ => .bad

/-! Korean -/

/-- The syllables that code page 949 adds, in order. -/
def addedSyllables : Unit → Array Char :=
  fun _ => missingFrom ksRows 0xAC00 11172

/-- The place of a second byte among small letters, capital letters and high bytes. -/
def syllableTrail? (trail : Nat) : Option Nat :=
  if between 0x41 0x5A trail then some (trail - 0x41)
  else if between 0x61 0x7A trail then some (26 + (trail - 0x61))
  else if between 0x81 0xFE trail then some (52 + (trail - 0x81))
  else none

def syllableIndex? (lead trail : Nat) : Option Nat :=
  match syllableTrail? trail with
  | none => none
  | some t =>
    if between 0x81 0xA0 lead then some (178 * (lead - 0x81) + t)
    else if between 0xA1 0xC6 lead && t < 84 then some (5696 + 84 * (lead - 0xA1) + t)
    else none

def hangulFiller : Char := '\u3164'

/-- The places of single letters among the first, the middle and the last ones of syllables. -/
def firstLetters : List Nat :=
  [0xA1, 0xA2, 0xA4, 0xA7, 0xA8, 0xA9, 0xB1, 0xB2, 0xB3, 0xB5, 0xB6, 0xB7, 0xB8, 0xB9, 0xBA, 0xBB,
    0xBC, 0xBD, 0xBE]

def lastLetters : List Nat :=
  [0xD4, 0xA1, 0xA2, 0xA3, 0xA4, 0xA5, 0xA6, 0xA7, 0xA9, 0xAA, 0xAB, 0xAC, 0xAD, 0xAE, 0xAF, 0xB0,
    0xB1, 0xB2, 0xB4, 0xB5, 0xB6, 0xB7, 0xB8, 0xBA, 0xBB, 0xBC, 0xBD, 0xBE]

/-- A syllable that is put together of three letters, behind a filler. -/
def composed? (first middle last : Nat) : Option Char :=
  match firstLetters.idxOf? first, lastLetters.idxOf? last with
  | some i, some k =>
    if between 0xBF 0xD3 middle then some (Char.ofNat (0xAC00 + 588 * i + 28 * (middle - 0xBF) + k))
    else none
  | _, _ => none

/-- Four pairs make up a syllable where the first one is the filler. -/
def readEucKr : List Nat → Reading
  | [0xA4, 0xD4] | [0xA4, 0xD4, _] | [0xA4, 0xD4, _, _] | [0xA4, 0xD4, _, _, _]
  | [0xA4, 0xD4, _, _, _, _] | [0xA4, 0xD4, _, _, _, _, _] => .more
  | [0xA4, 0xD4, 0xA4, first, 0xA4, middle, 0xA4, last] => .ofChar? (composed? first middle last)
  | held => readPair isHighLead (Row.find? ksRows) held

def cp949Pair (syllables : Array Char) (lead trail : Nat) : Option Char :=
  if lead = 0xA4 && trail = 0xD4 then some hangulFiller
  else (Row.find? ksRows lead trail).or ((syllableIndex? lead trail).bind fun i => syllables[i]?)

/-! Japanese -/

/-- The narrow syllables, one byte each. -/
def narrow? (n : Nat) : Option Char :=
  if between 0xA1 0xDF n then some (Char.ofNat (0xFF61 + (n - 0xA1))) else none

/-- Two rows of the standard share a first byte. -/
def shiftJisPair (lead trail : Nat) : Option Char :=
  let l := if lead < 0xA0 then lead - 0x81 else lead - 0xC1
  let t := trailIndex trail
  if between 0x40 0xFC trail && trail != 0x7F then
    Row.find? jisRows (0xA1 + 2 * l + t / 94) (0xA1 + t % 94)
  else none

def isShiftJisLead (n : Nat) : Bool :=
  between 0x81 0x9F n || between 0xE0 0xFC n

def cp932Pair (lead trail : Nat) : Option Char :=
  if between 0xF0 0xF9 lead then
    if between 0x40 0xFC trail && trail != 0x7F then
      some (Char.ofNat (0xE000 + 188 * (lead - 0xF0) + trailIndex trail))
    else none
  else (Row.find? cp932Rows lead trail).or (shiftJisPair lead trail)

/-- Single bytes beyond ASCII in code page 932. -/
def cp932Single? (n : Nat) : Option Char :=
  if n = 0x80 then some '\x80'
  else if n = 0xA0 then some '\uF8F0'
  else if 0xFD ≤ n then some (Char.ofNat (0xF8F1 + (n - 0xFD)))
  else narrow? n

/-- Sets with narrow syllables, or other characters, of one high byte. -/
def readNarrow (single : Nat → Option Char) (pair : Nat → Nat → Option Char) : List Nat → Reading
  | [a] =>
    if a < 0x80 then .char (Char.ofNat a)
    else
      match single a with
      | some c => .char c
      | none => if isShiftJisLead a then .more else .bad
  | [a, b] => .ofChar? (pair a b)
  | _ => .bad

def eucJpPair (lead trail : Nat) : Option Char :=
  if lead = 0x8E then narrow? trail else Row.find? jisRows lead trail

/-! All of them -/

def isGbkLead (n : Nat) : Bool :=
  between 0x81 0xFE n

namespace Wide

/-- The text of bytes, if all of them are in the set. -/
def decode? (w : Wide) (bs : Bytes) : Option (List Char) :=
  match w with
  | gb2312 => decodeWith (readPair isHighLead (Row.find? gb2312Rows)) [] bs
  | gbk =>
    let ideographs := gbkIdeographs ()
    decodeWith (readPair isGbkLead (gbkPair ideographs)) [] bs
  | gb18030 =>
    let pairs := gb18030Pairs ()
    let rest := gb18030Rest pairs
    decodeWith (readGb18030 pairs rest) [] bs
  | big5 => decodeWith (readPair isHighLead (Row.find? big5Rows)) [] bs
  | cp950 => decodeWith (readPair isHighLead (Row.find? (cp950Rows ++ big5Rows))) [] bs
  | eucKr => decodeWith readEucKr [] bs
  | cp949 =>
    let syllables := addedSyllables ()
    decodeWith (readPair isGbkLead (cp949Pair syllables)) [] bs
  | shiftJis => decodeWith (readNarrow narrow? shiftJisPair) [] bs
  | cp932 => decodeWith (readNarrow cp932Single? cp932Pair) [] bs
  | eucJp => decodeWith (readPair (fun n => n = 0x8E || isHighLead n) eucJpPair) [] bs

def names : List (String × Wide) :=
  [("gb2312", gb2312), ("gbk", gbk), ("gb18030", gb18030), ("big5", big5), ("cp950", cp950),
    ("euc_kr", eucKr), ("cp949", cp949), ("shift_jis", shiftJis), ("cp932", cp932), ("euc_jp", eucJp)]

end Wide
end ContentBinding.Text.Charset
