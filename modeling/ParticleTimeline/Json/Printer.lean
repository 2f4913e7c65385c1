import ParticleTimeline.Json.Value
import ParticleTimeline.Number.Text
/-!
# JSON text out

Two layouts: `compact` has no blanks; `pretty` puts every element on a line
of its own, two blanks deeper than what holds it, and writes an empty array
or object as its two brackets. Only quotes, backslashes and controls below
the space are escaped in strings.
-/

namespace ParticleTimeline

namespace Json

/-- One character inside a JSON string. -/
def escapeCharacter (c : Char) : String :=
  if c = '"' then "\\\""
  else if c = '\\' then "\\\\"
  else if c = '\n' then "\\n"
  else if c = '\r' then "\\r"
  else if c = '\t' then "\\t"
  else if c = '\x08' then "\\b"
  else if c = '\x0c' then "\\f"
  else if c.toNat < 0x20 then
    "\\u00" ++ String.ofList [Nat.digitChar (c.toNat / 16), Nat.digitChar (c.toNat % 16)]
  else c.toString

/-- A string in quotes. -/
def quote (s : String) : String :=
  "\"" ++ s.toList.foldl (fun out c => out ++ escapeCharacter c) "" ++ "\""

/-- A number in the spelling of its kind. -/
def numberText : JsonNumber → String
  | .natural n => toString n.toNat
  | .negative n => toString n.toInt
  | .double x => FloatText.json x
  | .single x => FloatText.json32 x

mutual

/-- The value on one line, without blanks. -/
def compact : Json → String
  | .null => "null"
  | .bool b => if b then "true" else "false"
  | .number n => numberText n
  | .text s => quote s
  | .array items => "[" ++ compactItems items ++ "]"
  | .object entries => "\x7b" ++ compactEntries entries ++ "\x7d"

def compactItems : List Json → String
  | [] => ""
  | [v] => compact v
  | v :: rest => compact v ++ "," ++ compactItems rest

def compactEntries : List (String × Json) → String
  | [] => ""
  | [(name, v)] => quote name ++ ":" ++ compact v
  | (name, v) :: rest => quote name ++ ":" ++ compact v ++ "," ++ compactEntries rest

end

/-- A line break and the blanks of a nesting depth. -/
def newline (depth : Nat) : String := "\n" ++ String.ofList (List.replicate (2 * depth) ' ')

mutual

/-- The value over several lines, at a nesting depth. -/
def prettyAt (depth : Nat) : Json → String
  | .null => "null"
  | .bool b => if b then "true" else "false"
  | .number n => numberText n
  | .text s => quote s
  | .array [] => "[]"
  | .array items => "[" ++ prettyItems (depth + 1) items ++ newline depth ++ "]"
  | .object [] => "\x7b\x7d"
  | .object entries => "\x7b" ++ prettyEntries (depth + 1) entries ++ newline depth ++ "\x7d"

def prettyItems (depth : Nat) : List Json → String
  | [] => ""
  | [v] => newline depth ++ prettyAt depth v
  | v :: rest => newline depth ++ prettyAt depth v ++ "," ++ prettyItems depth rest

def prettyEntries (depth : Nat) : List (String × Json) → String
  | [] => ""
  | [(name, v)] => newline depth ++ quote name ++ ": " ++ prettyAt depth v
  | (name, v) :: rest =>
    newline depth ++ quote name ++ ": " ++ prettyAt depth v ++ "," ++ prettyEntries depth rest

end

/-- The value over several lines. -/
def pretty (v : Json) : String := prettyAt 0 v

end Json

end ParticleTimeline
