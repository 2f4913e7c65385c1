import ParticleTimeline.Number.Shortest
/-!
# Floats as text

Three layouts of a float. `plain` is positional with no exponent and no
point behind an integer; `json` always has a point or an exponent and is
positional only for moderate sizes, which depend on the width; `literal` is
a number that a shader reads as a float: plain, with `.0` behind an integer,
which is written out in full.
-/

namespace ParticleTimeline

namespace FloatText

open Float.Model (UnpackedFloat)
open Shortest (Decimal Tie)

/-- A float as text is made of: a word for what is no number, else a sign
and a decimal, none for zero. -/
inductive Written where
  | nan
  | infinite (negative : Bool)
  | finite (negative : Bool) (size : Option Decimal)
deriving Repr

/-- Both widths at once: `shorten` gives the decimal of a positive number. -/
def written (shorten : Nat → Int → Decimal) : Binary.Parts → Written
  | .notANumber => .nan
  | .infinity s => .infinite (s == .negative)
  | .zero s => .finite (s == .negative) none
  | .finite s m e _ => .finite (s == .negative) (some (shorten m e))

def sign (negative : Bool) : String := if negative then "-" else ""

def zeros (n : Nat) : String := String.ofList (List.replicate n '0')

/-- A decimal in positional notation, with nothing behind an integer. -/
def positional (d : Decimal) : String :=
  let text := (toString d.digits).toList
  if 0 ≤ d.exponent then String.ofList text ++ zeros d.exponent.toNat
  else
    let places := (-d.exponent).toNat
    if places < text.length then
      String.ofList (text.take (text.length - places)) ++ "."
        ++ String.ofList (text.drop (text.length - places))
    else "0." ++ zeros (places - text.length) ++ String.ofList text

/-- How many digits stand before the point: the value is below ten to this
number, and not below a tenth of that. -/
def magnitude (d : Decimal) : Int := (toString d.digits).length + d.exponent

/-- One digit, a point and the others, and a signed exponent. -/
def scientific (d : Decimal) : String :=
  let power := magnitude d - 1
  let head := match (toString d.digits).toList with
    | [] => ""
    | [c] => String.ofList [c]
    | c :: rest => String.ofList (c :: '.' :: rest)
  head ++ "e" ++ (if power < 0 then "-" else "+") ++ toString power.natAbs

/-- The layout with neither exponent nor trailing point. A tie between two
shortest decimals goes up. -/
def layPlain : Written → String
  | .nan => "NaN"
  | .infinite negative => sign negative ++ "inf"
  | .finite negative none => sign negative ++ "0"
  | .finite negative (some d) => sign negative ++ positional d

/-- Which magnitudes are written without an exponent in JSON. -/
structure Window where
  least : Int
  most : Int

/-- A double is positional from 0.00001 up to ten to the sixteenth. -/
def Window.double : Window := ⟨-4, 16⟩

/-- A single is positional from 0.000001 up to ten to the thirteenth. -/
def Window.single : Window := ⟨-5, 13⟩

/-- The JSON layout: always a point or an exponent, and `null` for what is
no number. -/
def layJson (w : Window) : Written → String
  | .nan | .infinite _ => "null"
  | .finite negative none => sign negative ++ "0.0"
  | .finite negative (some d) =>
    sign negative ++
      (if w.least ≤ magnitude d ∧ magnitude d ≤ w.most then
        positional d ++ (if 0 ≤ d.exponent then ".0" else "")
      else scientific d)

/-- A double without exponent, such as `0.1`, `1000` or `-inf`. -/
def plain (x : Float) : String := layPlain (written (Shortest.double .up) (Binary.ofDouble x))

/-- A single without exponent. -/
def plain32 (x : Float32) : String := layPlain (written (Shortest.single .up) (Binary.ofSingle x))

/-- A double in JSON. A tie between two shortest decimals goes to the even
last digit. -/
def json (x : Float) : String :=
  layJson .double (written (Shortest.double .even) (Binary.ofDouble x))

/-- A single in JSON. -/
def json32 (x : Float32) : String :=
  layJson .single (written (Shortest.single .even) (Binary.ofSingle x))

/-- A number that a shader reads as a float: an integral value is written
out in full and given a point, any other stands as in `plain`. -/
def literal (x : Float) : String :=
  match Binary.integer? (Binary.ofDouble x) with
  | some (negative, n) => sign negative ++ toString n ++ ".0"
  | none => plain x

end FloatText

end ParticleTimeline
