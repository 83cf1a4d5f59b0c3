import DocPager.Toml.Binary

/-!
Values that are single words: numbers, booleans, dates and times.
-/

namespace DocPager.Toml

inductive Scalar where
  | integer (n : Int)
  | decimal (b : Binary)
  | infinity (negative : Bool)
  | notANumber
  | boolean (b : Bool)
  /-- A date, a time or both, as it is written. -/
  | moment (text : String)
  deriving DecidableEq, Repr

namespace Scalar

/-- The characters that these values are made of. -/
def isWordChar (c : Char) : Bool := c.isAlphanum || "_+-.:".contains c

/-- The digits of a group in which single underscores may stand between digits. -/
def ungroup (isDigit : Char → Bool) : List Char → Option (List Char)
  | [] => none
  | [c] => if isDigit c then some [c] else none
  | c :: '_' :: rest => if isDigit c then (ungroup isDigit rest).map (c :: ·) else none
  | c :: rest => if isDigit c then (ungroup isDigit rest).map (c :: ·) else none

/-- Takes a sign off a number; the first part tells if it is negative. -/
def splitSign : List Char → Bool × List Char
  | '-' :: rest => (true, rest)
  | '+' :: rest => (false, rest)
  | s => (false, s)

/-- The digits of a decimal number, which has no zero before other digits. -/
def decimalDigits? (s : List Char) : Option (List Char) :=
  (ungroup Char.isDigit s).filter fun digits => digits.length = 1 || digits.head? != some '0'

def digitValue (c : Char) : Nat :=
  if c.isDigit then c.toNat - '0'.toNat else c.toLower.toNat - 'a'.toNat + 10

def isDigitOf (base : Nat) (c : Char) : Bool :=
  (c.isDigit || ('a' ≤ c.toLower && c.toLower ≤ 'f')) && digitValue c < base

def ofBase? (base : Nat) (s : List Char) : Option Nat :=
  (ungroup (isDigitOf base) s).map fun digits =>
    digits.foldl (fun n c => base * n + digitValue c) 0

def minInteger : Int := Int64.minValue.toInt

def maxInteger : Int := Int64.maxValue.toInt

def integer? (s : List Char) : Option Int :=
  let value : Option Int :=
    match s with
    | '0' :: 'x' :: rest => (ofBase? 16 rest).map Int.ofNat
    | '0' :: 'o' :: rest => (ofBase? 8 rest).map Int.ofNat
    | '0' :: 'b' :: rest => (ofBase? 2 rest).map Int.ofNat
    | _ =>
      let (negative, digits) := splitSign s
      (decimalDigits? digits).map fun digits =>
        if negative then -(Binary.ofDigits digits : Int) else Binary.ofDigits digits
  value.filter fun n => minInteger ≤ n && n ≤ maxInteger

/-- The parts of a text before and behind the first character that `p` holds of. -/
def splitAt? (p : Char → Bool) (s : List Char) : Option (List Char × List Char) :=
  match s.dropWhile fun c => !p c with
  | _ :: rest => some (s.takeWhile fun c => !p c, rest)
  | [] => none

/-- The number with this sign, whole part, fraction and exponent. -/
def assemble? (negative : Bool) (whole fraction : List Char) (exponent : Int) : Option Binary :=
  Binary.ofDecimal? negative (whole ++ fraction) (exponent - fraction.length)

/-- The exponent of ten behind the letter `e`. -/
def exponent? (s : List Char) : Option Int :=
  let (negative, digits) := splitSign s
  (ungroup Char.isDigit digits).map fun digits =>
    if negative then -(Binary.ofDigits digits : Int) else Binary.ofDigits digits

def decimal? (s : List Char) : Option Binary := do
  let (negative, s) := splitSign s
  let (number, exponent, hasExponent) ←
    match splitAt? (fun c => c = 'e' || c = 'E') s with
    | some (number, e) => (exponent? e).map fun e => (number, e, true)
    | none => some (s, 0, false)
  match splitAt? (· == '.') number with
  | some (whole, fraction) =>
    assemble? negative (← decimalDigits? whole) (← ungroup Char.isDigit fraction) exponent
  | none => if hasExponent then assemble? negative (← decimalDigits? number) [] exponent else none

/-- The number that a text of exactly `n` digits stands for. -/
def fixed? (n : Nat) (s : List Char) : Option Nat :=
  if s.length = n && s.all Char.isDigit then some (Binary.ofDigits s) else none

def isLeapYear (y : Nat) : Bool := y % 4 = 0 && (y % 100 != 0 || y % 400 = 0)

def daysIn (year month : Nat) : Nat :=
  if month = 2 then if isLeapYear year then 29 else 28
  else if [4, 6, 9, 11].contains month then 30
  else 31

def isDate (s : List Char) : Bool :=
  match fixed? 4 (s.take 4), fixed? 2 ((s.drop 5).take 2), fixed? 2 (s.drop 8) with
  | some year, some month, some day =>
    s[4]? = some '-' && s[7]? = some '-' && 1 ≤ month && month ≤ 12 && 1 ≤ day &&
      day ≤ daysIn year month
  | _, _, _ => false

/-- Whether a text is an hour and a minute. -/
def isHourMinute (s : List Char) : Bool :=
  match fixed? 2 (s.take 2), fixed? 2 (s.drop 3) with
  | some hour, some minute => s[2]? = some ':' && hour ≤ 23 && minute ≤ 59
  | _, _ => false

/-- Whether a text is a time of day.  There may be a leap second, and digits of a second. -/
def isTime (s : List Char) : Bool :=
  let fraction := s.drop 8
  isHourMinute (s.take 5) && s[5]? = some ':' && (fixed? 2 ((s.drop 6).take 2)).any (· ≤ 60) &&
    (fraction.isEmpty ||
      (fraction.head? = some '.' && !fraction.tail.isEmpty && fraction.tail.all Char.isDigit))

/-- Whether a text is a time of day with an offset from Greenwich or without one. -/
def isOffsetTime (s : List Char) : Bool :=
  match splitAt? (fun c => c = 'Z' || c = 'z') s with
  | some (time, rest) => isTime time && rest.isEmpty
  | none =>
    match splitAt? (fun c => c = '+' || c = '-') s with
    | some (time, offset) => isTime time && isHourMinute offset
    | none => isTime s

/-- Whether a text is a date, a time, or a date and a time with a letter between them. -/
def isMoment (s : List Char) : Bool :=
  isDate s || isTime s ||
    (isDate (s.take 10) && (s[10]? = some 'T' || s[10]? = some 't') && isOffsetTime (s.drop 11))

def ofWord? (s : List Char) : Option Scalar :=
  let (negative, unsigned) := splitSign s
  if s = "true".toList then some (.boolean true)
  else if s = "false".toList then some (.boolean false)
  else if unsigned = "inf".toList then some (.infinity negative)
  else if unsigned = "nan".toList then some .notANumber
  else if isMoment s then some (.moment (String.ofList s))
  else
    match integer? s with
    | some n => some (.integer n)
    | none => (decimal? s).map .decimal

/-- Reads the word at the start of a text.  A date and a time may also have a space between
them. -/
def read? (s : List Char) : Option (Scalar × List Char) :=
  let word := s.takeWhile isWordChar
  let rest := s.dropWhile isWordChar
  let joined :=
    match rest with
    | ' ' :: c :: _ => isDate word && c.isDigit
    | _ => false
  if joined then
    let time := rest.tail.takeWhile isWordChar
    (ofWord? (word ++ 'T' :: time)).map fun v => (v, rest.tail.dropWhile isWordChar)
  else (ofWord? word).map fun v => (v, rest)

end Scalar
end DocPager.Toml
