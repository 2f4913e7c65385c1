/-!
# Whole numbers from text

A whole number is one decimal digit or more, perhaps behind a plus sign, and
has a bound. The digits are taken from the left; the first that is no digit,
or that takes the number to the bound, decides what is wrong with the text.
-/

namespace ParticleTimeline

/-- Why a text is no whole number. -/
inductive WholeError where
  | empty
  | invalidDigit
  | tooLarge
deriving DecidableEq, Repr

def WholeError.message : WholeError → String
  | empty => "cannot parse integer from empty string"
  | invalidDigit => "invalid digit found in string"
  | tooLarge => "number too large to fit in target type"

namespace Whole

/-- Takes digits onto a number, as long as it stays below the bound. -/
def gather (bound : Nat) (n : Nat) : List Char → Except WholeError Nat
  | [] => .ok n
  | c :: cs =>
    if !c.isDigit then .error .invalidDigit
    else
      let next := 10 * n + (c.toNat - '0'.toNat)
      if next < bound then gather bound next cs else .error .tooLarge

/-- The number of a text, if it is below the bound. -/
def parse (bound : Nat) (text : String) : Except WholeError Nat :=
  match text.toList with
  | [] => .error .empty
  | ['+'] => .error .invalidDigit
  | '+' :: digits => gather bound 0 digits
  | digits => gather bound 0 digits

/-- A number of 32 bits. -/
def parse32 (text : String) : Except WholeError UInt32 :=
  (parse UInt32.size text).map UInt32.ofNat

/-- A number of 64 bits. -/
def parse64 (text : String) : Except WholeError UInt64 :=
  (parse UInt64.size text).map UInt64.ofNat

end Whole

end ParticleTimeline
