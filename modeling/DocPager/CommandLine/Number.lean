/-!
Whole numbers on the command line: a sign, which may be missing, and decimal digits.  The number
must fit into 64 bits.
-/

namespace DocPager.CommandLine

inductive NumberError where
  | empty
  | invalidDigit
  | tooLarge
  | tooSmall
  deriving DecidableEq, Repr

namespace NumberError

def message : NumberError → String
  | .empty => "cannot parse integer from empty string"
  | .invalidDigit => "invalid digit found in string"
  | .tooLarge => "number too large to fit in target type"
  | .tooSmall => "number too small to fit in target type"

end NumberError

/-- Reads digits on from `value`.  The first fault from the left is the one that is reported. -/
def digitsFrom (negative : Bool) (value : Int) : List Char → Except NumberError Int
  | [] => .ok value
  | c :: rest =>
    if !c.isDigit then .error .invalidDigit
    else
      let digit : Int := c.toNat - '0'.toNat
      let value := 10 * value + (if negative then -digit else digit)
      if Int64.maxValue.toInt < value then .error .tooLarge
      else if value < Int64.minValue.toInt then .error .tooSmall
      else digitsFrom negative value rest

def number (s : List Char) : Except NumberError Int :=
  match s with
  | [] => .error .empty
  | ['+'] | ['-'] => .error .invalidDigit
  | '+' :: digits => digitsFrom false 0 digits
  | '-' :: digits => digitsFrom true 0 digits
  | digits => digitsFrom false 0 digits

end DocPager.CommandLine
