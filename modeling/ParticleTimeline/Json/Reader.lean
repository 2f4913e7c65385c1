import ParticleTimeline.Json.Value
/-!
# JSON text in

A strict reader. It accepts exactly the grammar (no comments, no trailing
commas, no leading zeros, no raw controls in strings), and beyond the
grammar it asks that surrogates come in pairs, that numbers fit a double and
that nesting stays below `maxDepth`. `members` and `elements` read an object
or an array and hand every part to a visitor, so that a caller can look at
the parts as they come; `value` reads a whole value.

A reader of a record looks only at the names it knows. What stands under any
other name is held to the grammar alone: `Outline` says which parts of a
text are looked at.
-/

namespace ParticleTimeline

namespace Json

/-- What is wrong with a text. -/
inductive Complaint where
  | endInArray
  | endInObject
  | endInString
  | endInValue
  | colonExpected
  | arrayCommaOrEndExpected
  | objectCommaOrEndExpected
  | wordExpected
  | valueExpected
  | invalidEscape
  | invalidNumber
  | numberOutOfRange
  | controlInString
  | keyNotString
  | loneSurrogate
  | endOfHexEscape
  | trailingComma
  | trailingCharacters
  | tooDeep
  /-- The text is well formed, but not what is wanted. -/
  | unwanted (message : String)
deriving DecidableEq

def Complaint.message : Complaint → String
  | endInArray => "EOF while parsing a list"
  | endInObject => "EOF while parsing an object"
  | endInString => "EOF while parsing a string"
  | endInValue => "EOF while parsing a value"
  | colonExpected => "expected \x60:\x60"
  | arrayCommaOrEndExpected => "expected \x60,\x60 or \x60]\x60"
  | objectCommaOrEndExpected => "expected \x60,\x60 or \x60\x7d\x60"
  | wordExpected => "expected ident"
  | valueExpected => "expected value"
  | invalidEscape => "invalid escape"
  | invalidNumber => "invalid number"
  | numberOutOfRange => "number out of range"
  | controlInString => "control character (\\u0000-\\u001F) found while parsing a string"
  | keyNotString => "key must be a string"
  | loneSurrogate => "lone leading surrogate in hex escape"
  | endOfHexEscape => "unexpected end of hex escape"
  | trailingComma => "trailing comma"
  | trailingCharacters => "trailing characters"
  | tooDeep => "recursion limit exceeded"
  | unwanted message => message

/-- A complaint, and where: so many bytes into what was still to be read. -/
structure Failure where
  complaint : Complaint
  rest : List Char
  ahead : Nat

/-- A reader takes characters off the front of a text. -/
abbrev Reader (α : Type) := List Char → Except Failure (α × List Char)

namespace Reader

/-- Complains about the character that comes next. -/
def failNext {α : Type} (c : Complaint) (rest : List Char) : Except Failure α :=
  .error ⟨c, rest, if rest.isEmpty then 0 else 1⟩

/-- Complains about what was just taken. -/
def failHere {α : Type} (c : Complaint) (rest : List Char) : Except Failure α :=
  .error ⟨c, rest, 0⟩

/-- The four blanks of the grammar. -/
def isBlank (c : Char) : Bool := c = ' ' || c = '\n' || c = '\t' || c = '\r'

def skipBlanks (cs : List Char) : List Char := cs.dropWhile isBlank

/-- The rest of a literal word after its first letter. -/
def word : List Char → Reader Unit
  | [], cs => .ok ((), cs)
  | _ :: _, [] => failHere .endInValue []
  | w :: ws, c :: cs => if c = w then word ws cs else failNext .wordExpected (c :: cs)

/-! ## Numbers

The digits are gathered into a whole number for as long as it fits 64 bits;
later ones only count as places. A number with a point or an exponent is
that whole number as a double, once multiplied or divided by a power of ten
as a double. -/

/-- The largest number gathered exactly. -/
def maxGathered : Nat := UInt64.size - 1

def digitValue (c : Char) : Nat := c.toNat - '0'.toNat

/-- Gathers digits while the number fits, and gives the number and how many
digits were gathered. -/
def gather (start : Nat) : List Char → Nat × Nat
  | [] => (start, 0)
  | c :: cs =>
    let next := start * 10 + digitValue c
    if next ≤ maxGathered then
      let (n, count) := gather next cs
      (n, count + 1)
    else (start, 0)

/-- A power of ten as a double. -/
def tenTo (k : Nat) : Float := Float.ofScientific 1 false k

/-- A gathered number with an exponent. A power of ten beyond the doubles is
divided by in two steps; what two steps leave nothing of is zero. -/
def scaleByTen (gathered : Nat) (exponent : Int) : Option Float :=
  let x := (UInt64.ofNat gathered).toFloat
  if 308 < exponent then if gathered = 0 then some x else none
  else if 0 ≤ exponent then
    let y := x * tenTo exponent.toNat
    if y.isInf then none else some y
  else if -308 ≤ exponent then some (x / tenTo (-exponent).toNat)
  else if -616 ≤ exponent then some (x / tenTo 308 / tenTo (-(exponent + 308)).toNat)
  else some 0

/-- The largest exponent that is read to its end. -/
def maxExponent : Nat := 2147483647

/-- The value of the digits of an exponent, or the digits left behind the
one that makes it too large. -/
def exponentValue (start : Nat) : List Char → Except (List Char) Nat
  | [] => .ok start
  | c :: cs =>
    let next := start * 10 + digitValue c
    if next ≤ maxExponent then exponentValue next cs else .error cs

def finish (negative : Bool) (gathered : Nat) (exponent : Int) (rest : List Char) :
    Except Failure (JsonNumber × List Char) :=
  match scaleByTen gathered exponent with
  | some x => .ok (.double (if negative then -x else x), rest)
  | none => failHere .numberOutOfRange rest

/-- The digits of an exponent, behind its sign. -/
def exponentDigits (ranged negative : Bool) (gathered : Nat) (places : Int) (down : Bool) :
    Reader JsonNumber := fun cs =>
  let (digits, rest) := cs.span Char.isDigit
  if digits.isEmpty then
    if cs.isEmpty then failHere .endInValue [] else failNext .invalidNumber cs
  else if !ranged then .ok (.double 0, rest)
  else match exponentValue 0 digits with
    | .ok e => finish negative gathered (if down then places - e else places + e) rest
    | .error left =>
      if gathered ≠ 0 && !down then failHere .numberOutOfRange (left ++ rest)
      else .ok (.double (if negative then -0.0 else 0.0), rest)

/-- The exponent, behind its letter. -/
def exponentPart (ranged negative : Bool) (gathered : Nat) (places : Int) : Reader JsonNumber
  | '+' :: cs => exponentDigits ranged negative gathered places false cs
  | '-' :: cs => exponentDigits ranged negative gathered places true cs
  | cs => exponentDigits ranged negative gathered places false cs

/-- What follows the digits behind the point. -/
def scalePart (ranged negative : Bool) (gathered : Nat) (exponent : Int) : Reader JsonNumber
  | 'e' :: cs | 'E' :: cs => exponentPart ranged negative gathered exponent cs
  | cs => if ranged then finish negative gathered exponent cs else .ok (.double 0, cs)

/-- A number that ends behind its whole part. -/
def wholePart (ranged negative : Bool) (gathered places : Nat) : Reader JsonNumber := fun cs =>
  if !ranged then .ok (.double 0, cs)
  else if places ≠ 0 then finish negative gathered places cs
  else if !negative then .ok (.natural (UInt64.ofNat gathered), cs)
  else if gathered = 0 || UInt64.size / 2 < gathered then
    .ok (.double (-(UInt64.ofNat gathered).toFloat), cs)
  else .ok (.negative (Int64.ofInt (-gathered)), cs)

/-- What follows the whole part of a number: `places` digits of it were not
gathered. -/
def fractionPart (ranged negative : Bool) (gathered places : Nat) : Reader JsonNumber
  | '.' :: cs =>
    let (digits, rest) := cs.span Char.isDigit
    if digits.isEmpty then failNext (if cs.isEmpty then .endInValue else .invalidNumber) cs
    else
      let (n, count) := gather gathered digits
      scalePart ranged negative n (places - count) rest
  | 'e' :: cs | 'E' :: cs => exponentPart ranged negative gathered places cs
  | cs => wholePart ranged negative gathered places cs

/-- A number behind its sign. Unless `ranged`, its size does not matter. -/
def number (ranged negative : Bool) : Reader JsonNumber
  | [] => failHere .endInValue []
  | '0' :: cs =>
    match cs with
    | c :: _ => if c.isDigit then failNext .invalidNumber cs
      else fractionPart ranged negative 0 0 cs
    | [] => fractionPart ranged negative 0 0 []
  | c :: cs =>
    if c.isDigit then
      let (digits, rest) := (c :: cs).span Char.isDigit
      let (n, count) := gather 0 digits
      fractionPart ranged negative n (digits.length - count) rest
    else failNext .invalidNumber (c :: cs)

/-! ## Strings -/

def hexValue? (c : Char) : Option Nat :=
  if c.isDigit then some (c.toNat - '0'.toNat)
  else if 'a' ≤ c ∧ c ≤ 'f' then some (c.toNat - 'a'.toNat + 10)
  else if 'A' ≤ c ∧ c ≤ 'F' then some (c.toNat - 'A'.toNat + 10)
  else none

/-- How many bytes characters take. -/
def byteSize (cs : List Char) : Nat := cs.foldr (fun c n => c.utf8Size + n) 0

/-- Four hexadecimal digits. -/
def hex4 (cs : List Char) : Except Failure (Nat × List Char) :=
  match cs with
  | a :: b :: c :: d :: rest =>
    match hexValue? a, hexValue? b, hexValue? c, hexValue? d with
    | some a, some b, some c, some d => .ok (((a * 16 + b) * 16 + c) * 16 + d, rest)
    | _, _, _, _ => .error ⟨.invalidEscape, cs, 4⟩
  | _ =>
    if byteSize cs < 4 then failHere .endInString []
    else .error ⟨.invalidEscape, cs, 4⟩

/-- The character of a numeric escape, behind its `u`. One of a pair of
surrogates has to be followed by an escape of the other; unless `paired`,
nothing is asked of surrogates. -/
def unicodeEscape (paired : Bool) (cs : List Char) : Except Failure (Char × List Char) := do
  let (n, rest) ← hex4 cs
  if !paired then return (Char.ofNat n, rest)
  if 0xDC00 ≤ n ∧ n ≤ 0xDFFF then failHere .loneSurrogate rest
  else if n < 0xD800 ∨ 0xDBFF < n then return (Char.ofNat n, rest)
  else match rest with
    | [] => failHere .endInString []
    | '\\' :: rest =>
      match rest with
      | [] => failHere .endInString []
      | 'u' :: rest =>
        let (low, rest) ← hex4 rest
        if 0xDC00 ≤ low ∧ low ≤ 0xDFFF then
          return (Char.ofNat ((n - 0xD800) * 0x400 + (low - 0xDC00) + 0x10000), rest)
        else failHere .loneSurrogate rest
      | _ => failNext .endOfHexEscape rest
    | _ => failNext .endOfHexEscape rest

/-- A string behind its opening quote. Every step takes a character, so as
many steps as there are characters are enough. -/
def stringSteps (paired : Bool) : (fuel : Nat) → (taken : List Char) → Reader String
  | 0, _, cs => failHere .endInString cs
  | _ + 1, _, [] => failHere .endInString []
  | n + 1, taken, c :: cs =>
    if c = '"' then .ok (String.ofList taken.reverse, cs)
    else if c = '\\' then
      match cs with
      | [] => failHere .endInString []
      | e :: cs =>
        if e = 'u' then do
          let (c, rest) ← unicodeEscape paired cs
          stringSteps paired n (c :: taken) rest
        else
          let plain? : Option Char :=
            if e = '"' || e = '\\' || e = '/' then some e
            else if e = 'b' then some '\x08'
            else if e = 'f' then some '\x0c'
            else if e = 'n' then some '\n'
            else if e = 'r' then some '\r'
            else if e = 't' then some '\t'
            else none
          match plain? with
          | some c => stringSteps paired n (c :: taken) cs
          | none => failNext .invalidEscape (e :: cs)
    else if c.toNat < 0x20 then failNext .controlInString (c :: cs)
    else stringSteps paired n (c :: taken) cs

/-- A string behind its opening quote. -/
def string (paired : Bool) : Reader String := fun cs =>
  stringSteps paired (cs.length + 1) [] cs

/-! ## Objects and arrays -/

/-- The members of an object behind its opening brace, each value read by
`visit`, which is told the name. -/
def membersSteps {σ : Type} (paired : Bool) (visit : σ → String → Reader σ) :
    (fuel : Nat) → (first : Bool) → σ → Reader σ
  | 0, _, _, cs => failNext .valueExpected cs
  | n + 1, first, s, cs =>
    let member (cs : List Char) : Except Failure (σ × List Char) := do
      let (name, cs) ← string paired cs
      match skipBlanks cs with
      | [] => failHere .endInObject []
      | ':' :: cs =>
        let (s, cs) ← visit s name cs
        membersSteps paired visit n false s cs
      | cs => failNext .colonExpected cs
    match skipBlanks cs with
    | [] => failHere .endInObject []
    | '\x7d' :: cs => .ok (s, cs)
    | c :: cs =>
      if first then
        if c = '"' then member cs else failNext .keyNotString (c :: cs)
      else if c = ',' then
        match skipBlanks cs with
        | [] => failHere .endInValue []
        | d :: cs =>
          if d = '"' then member cs
          else if d = '\x7d' then failNext .trailingComma (d :: cs)
          else failNext .keyNotString (d :: cs)
      else failNext .objectCommaOrEndExpected (c :: cs)

/-- The members of an object behind its opening brace. -/
def members {σ : Type} (paired : Bool) (visit : σ → String → Reader σ) (s : σ) : Reader σ :=
  fun cs => membersSteps paired visit (cs.length + 1) true s cs

/-- The elements of an array behind its opening bracket, each read by
`visit`. -/
def elementsSteps {σ : Type} (visit : σ → Reader σ) :
    (fuel : Nat) → (first : Bool) → σ → Reader σ
  | 0, _, _, cs => failNext .valueExpected cs
  | n + 1, first, s, cs =>
    match skipBlanks cs with
    | [] => failHere .endInArray []
    | ']' :: cs => .ok (s, cs)
    | c :: cs =>
      if first then do
        let (s, cs) ← visit s (c :: cs)
        elementsSteps visit n false s cs
      else if c = ',' then
        match skipBlanks cs with
        | [] => failHere .endInValue []
        | ']' :: cs => failNext .trailingComma (']' :: cs)
        | cs => do
          let (s, cs) ← visit s cs
          elementsSteps visit n false s cs
      else failNext .arrayCommaOrEndExpected (c :: cs)

/-- The elements of an array behind its opening bracket. -/
def elements {σ : Type} (visit : σ → Reader σ) (s : σ) : Reader σ :=
  fun cs => elementsSteps visit (cs.length + 1) true s cs

/-! ## Values -/

/-- Arrays and objects may nest to one less than this. -/
def maxDepth : Nat := 128

/-- Any value, up to a nesting depth. Unless `strict`, it is held to the
grammar alone. -/
def value (strict : Bool) : (depth : Nat) → Reader Json
  | 0, cs => failNext .tooDeep cs
  | depth + 1, cs =>
    match skipBlanks cs with
    | [] => failHere .endInValue []
    | c :: cs =>
      if c = 'n' then do let (_, cs) ← word ['u', 'l', 'l'] cs; return (.null, cs)
      else if c = 't' then do let (_, cs) ← word ['r', 'u', 'e'] cs; return (.bool true, cs)
      else if c = 'f' then do
        let (_, cs) ← word ['a', 'l', 's', 'e'] cs; return (.bool false, cs)
      else if c = '-' then do let (n, cs) ← number strict true cs; return (.number n, cs)
      else if c.isDigit then do
        let (n, cs) ← number strict false (c :: cs); return (.number n, cs)
      else if c = '"' then do let (s, cs) ← string strict cs; return (.text s, cs)
      else if c = '[' then
        if depth = 0 then failNext .tooDeep (c :: cs)
        else do
          let (items, cs) ← elements
            (fun items cs => do let (v, cs) ← value strict depth cs; return (v :: items, cs)) [] cs
          return (.array items.reverse, cs)
      else if c = '\x7b' then
        if depth = 0 then failNext .tooDeep (c :: cs)
        else do
          let (entries, cs) ← members strict
            (fun entries name cs => do
              let (v, cs) ← value strict depth cs
              return ((name, v) :: entries, cs)) [] cs
          return (.object entries.reverse, cs)
      else failNext .valueExpected (c :: cs)

/-- Nothing but blanks may follow. -/
def endOfText (cs : List Char) : Except Failure Unit :=
  match skipBlanks cs with
  | [] => .ok ()
  | cs => failNext .trailingCharacters cs

/-- A text that is one value. -/
def whole (cs : List Char) : Except Failure Json := do
  let (v, cs) ← value true maxDepth cs
  endOfText cs
  return v

/-- Which parts of a text are looked at: all of it; of a record, what stands
under the names it knows, or at their places when it is given as an array;
or the elements of an array, each by one outline. -/
inductive Outline where
  | all
  | record (fields : List (String × Outline))
  | each (element : Outline)

/-- Any value, by an outline. Members under a name that the outline does not
have are passed over and left out. -/
def outlined : (o : Outline) → (depth : Nat) → Reader Json
  | .all, depth, cs => value true depth cs
  | .each element, depth, cs =>
    match depth, skipBlanks cs with
    | depth + 2, '[' :: cs => do
      let (items, cs) ← elements
        (fun items cs => do
          let (v, cs) ← outlined element (depth + 1) cs
          return (v :: items, cs)) [] cs
      return (.array items.reverse, cs)
    | depth, cs => value true depth cs
  | .record fields, depth, cs =>
    match depth, skipBlanks cs with
    | depth + 2, '\x7b' :: cs => do
      let (entries, cs) ← members true
        (fun entries name cs =>
          match member fields name (depth + 1) cs with
          | some read => do let (v, cs) ← read; return ((name, v) :: entries, cs)
          | none => do let (_, cs) ← value false (cs.length + 1) cs; return (entries, cs)) [] cs
      return (.object entries.reverse, cs)
    | depth + 2, '[' :: cs => do
      let (items, cs) ← elements
        (fun items cs => do
          let (v, cs) ← place fields items.length (depth + 1) cs
          return (v :: items, cs)) [] cs
      return (.array items.reverse, cs)
    | depth, cs => value true depth cs
where
  /-- What stands under a name that the record knows. -/
  member : List (String × Outline) → String → Nat →
      List Char → Option (Except Failure (Json × List Char))
    | [], _, _, _ => none
    | (known, o) :: rest, name, depth, cs =>
      if known = name then some (outlined o depth cs) else member rest name depth cs
  /-- What stands at a place of a record given as an array. -/
  place : List (String × Outline) → Nat → Nat → Reader Json
    | [], _, depth, cs => value true depth cs
    | (_, o) :: _, 0, depth, cs => outlined o depth cs
    | _ :: rest, n + 1, depth, cs => place rest n depth cs

/-- A text that is one value, by an outline. -/
def wholeOutlined (o : Outline) (cs : List Char) : Except Failure Json := do
  let (v, cs) ← outlined o maxDepth cs
  endOfText cs
  return v

end Reader

/-! ## Texts -/

/-- The line and the column that a failure points at, counted in bytes from
the start of a text: the number of the line, and how far into it. -/
def Failure.place (text : String) (f : Failure) : Nat × Nat :=
  let bytes := text.toUTF8.toList
  let before := bytes.take
    (bytes.length - Reader.byteSize f.rest + f.ahead)
  let column := (before.reverse.takeWhile (· != 10)).length
  (before.count 10 + 1, column)

/-- A message with its place. -/
def Failure.placed (said : String) (place : Nat × Nat) : String :=
  said ++ " at line " ++ toString place.1 ++ " column " ++ toString place.2

/-- A message that ends with a line and a column of 64 bits, taken apart. -/
def Failure.unplaced? (said : String) : Option (String × Nat × Nat) := do
  let (column, rest) := said.toList.reverse.span Char.isDigit
  let (line, stem) ← number? rest " column "
  let stem ← behind? stem " at line "
  let line ← word? line
  let column ← word? column
  return (String.ofList stem.reverse, line, column)
where
  /-- What stands before some words, read from the back. -/
  behind? (back : List Char) (words : String) : Option (List Char) :=
    let words := words.toList.reverse
    if words.isPrefixOf back then some (back.drop words.length) else none
  /-- The digits before some words, read from the back, and what is before
  them. -/
  number? (back : List Char) (words : String) : Option (List Char × List Char) :=
    (behind? back words).map (List.span Char.isDigit)
  /-- A number of 64 bits, from its digits read from the back. -/
  word? (digits : List Char) : Option Nat := do
    let n ← (String.ofList digits.reverse).toNat?
    guard (n < UInt64.size)
    return n

/-- The message of a failure ends with its place. When the text it quotes
ends with one already, that one is kept, unless its line is zero. -/
def Failure.message (text : String) (f : Failure) : String :=
  match unplaced? f.complaint.message with
  | none => placed f.complaint.message (f.place text)
  | some (stem, 0, _) => placed stem (f.place text)
  | some (stem, line, column) => placed stem (line, column)

/-- The value that a text is. -/
def read (text : String) : Except Failure Json := Reader.whole text.toList

/-- The value that a text is, as far as an outline looks at it. -/
def readOutlined (o : Reader.Outline) (text : String) : Except Failure Json :=
  Reader.wholeOutlined o text.toList

end Json

end ParticleTimeline
