import ContentBinding.Json.Value
import ContentBinding.Number.Layout

/-! Writing JSON values without blanks. -/

namespace ContentBinding.Json

namespace Printer

def layout : Number.Layout :=
  { Number.Layout.document with nan := "NaN", infinity := "Infinity" }

def escapeChar (c : Char) : List Char :=
  match c with
  | '"' => ['\\', '"']
  | '\\' => ['\\', '\\']
  | '\n' => ['\\', 'n']
  | '\r' => ['\\', 'r']
  | '\t' => ['\\', 't']
  | '\x0c' => ['\\', 'f']
  | '\x08' => ['\\', 'b']
  | _ =>
    if c.toNat < 32 then
      ['\\', 'u', '0', '0', Nat.digitChar (c.toNat / 16), Nat.digitChar (c.toNat % 16)]
    else [c]

def quote (s : String) : String :=
  "\"" ++ String.ofList (s.toList.flatMap escapeChar) ++ "\""

end Printer

mutual

def Value.print : Value → String
  | .null => "null"
  | .bool b => if b then "true" else "false"
  | .int n => toString n
  | .double d => Printer.layout.write d
  | .str s => Printer.quote s
  | .arr items => "[" ++ ",".intercalate (Value.printItems items) ++ "]"
  | .obj members => "\x7b" ++ ",".intercalate (Value.printMembers members) ++ "\x7d"

def Value.printItems : List Value → List String
  | [] => []
  | v :: rest => v.print :: Value.printItems rest

def Value.printMembers : List (String × Value) → List String
  | [] => []
  | (k, v) :: rest => (Printer.quote k ++ ":" ++ v.print) :: Value.printMembers rest

end

end ContentBinding.Json
