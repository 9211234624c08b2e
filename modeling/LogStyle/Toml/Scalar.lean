import LogStyle.Text.Digits
import LogStyle.Toml.Value

/-!
# Numbers, dates and times

These are read from a maximal run of letters, digits and the signs that may occur in them.
-/

namespace LogStyle.Toml

def isDigit (c : Char) : Bool := Text.isDigitIn 10 c

/-- The value of digits that have been checked. -/
def number (base : Nat) (digits : List Char) : Nat := (Text.number? base digits).getD 0

/-- Digits of a base with single underscores between them; gives the digits. -/
def digitRun? (base : Nat) : List Char → Option (List Char)
  | [] => none
  | [c] => if Text.isDigitIn base c then some [c] else none
  | c :: '_' :: rest =>
    if Text.isDigitIn base c then (digitRun? base rest).map (c :: ·) else none
  | c :: rest => if Text.isDigitIn base c then (digitRun? base rest).map (c :: ·) else none

/-- A sign, if there is one: whether it is negative, and what follows. -/
def sign : List Char → Bool × List Char
  | '-' :: rest => (true, rest)
  | '+' :: rest => (false, rest)
  | cs => (false, cs)

/-- Decimal digits without leading zeros. -/
def decimal? (cs : List Char) : Option (List Char) := do
  let digits ← digitRun? 10 cs
  match digits with
  | ['0'] => if cs = ['0'] then some digits else none
  | '0' :: _ => none
  | _ => some digits

/-- The least and the greatest integer. -/
def integerBounds : Int × Int := (-9223372036854775808, 9223372036854775807)

def bounded? (n : Int) : Option Value :=
  if integerBounds.1 ≤ n && n ≤ integerBounds.2 then some (.integer n) else none

def integer? (cs : List Char) : Option Value :=
  match cs with
  | '0' :: 'x' :: rest => do bounded? (number 16 (← digitRun? 16 rest))
  | '0' :: 'o' :: rest => do bounded? (number 8 (← digitRun? 8 rest))
  | '0' :: 'b' :: rest => do bounded? (number 2 (← digitRun? 2 rest))
  | _ => do
    let (negative, rest) := sign cs
    let n : Int := number 10 (← decimal? rest)
    bounded? (if negative then -n else n)

/-- Whether the decimal number with the given digits and exponent is too large for a float: at
least halfway from the largest float to the next power of two. -/
def isTooLarge (digits : List Char) (exponent : Int) : Bool :=
  let mantissa := number 10 digits
  let size : Int := (digits.dropWhile (· = '0')).length + exponent
  if mantissa = 0 || size < 300 then false
  else if size > 320 then true
  else
    let bound := Nat.pow 2 1024 - Nat.pow 2 970
    let scale := Nat.pow 10 exponent.natAbs
    if exponent < 0 then bound * scale ≤ mantissa else bound ≤ mantissa * scale

/-- Cuts at the first character that satisfies a condition. -/
def cut (stop : Char → Bool) (cs : List Char) : List Char × Option (List Char) :=
  match cs.dropWhile (!stop ·) with
  | [] => (cs, none)
  | _ :: rest => (cs.takeWhile (!stop ·), some rest)

/-- The exponent of a float. -/
def exponent? (cs : List Char) : Option Int := do
  let (negative, rest) := sign cs
  let n : Int := number 10 (← digitRun? 10 rest)
  some (if negative then -n else n)

/-- A number with a fraction or an exponent, or a name of one. -/
def float? (cs : List Char) : Option Value := do
  let (negative, rest) := sign cs
  if rest = ['i', 'n', 'f'] || rest = ['n', 'a', 'n'] then some (.float (String.ofList cs))
  else
    let (mantissa, power) := cut (fun c => c = 'e' || c = 'E') rest
    let (whole, fraction) := cut (· = '.') mantissa
    if power.isNone && fraction.isNone then none
    else
      let whole ← decimal? whole
      let fraction ← match fraction with
        | none => some []
        | some part => digitRun? 10 part
      let exponent ← match power with
        | none => some 0
        | some part => exponent? part
      if !negative && isTooLarge (whole ++ fraction) (exponent - fraction.length) then none
      else some (.float (String.ofList cs))

/-- A fixed number of digits whose value lies within bounds. -/
def field? (width lo hi : Nat) (cs : List Char) : Option (Nat × List Char) :=
  let digits := cs.take width
  let n := number 10 digits
  if digits.length = width && digits.all isDigit && lo ≤ n && n ≤ hi then some (n, cs.drop width)
  else none

/-- A given character. -/
def sign? (c : Char) : List Char → Option (List Char)
  | d :: rest => if c = d then some rest else none
  | [] => none

def isLeapYear (year : Nat) : Bool := year % 4 = 0 && (year % 100 ≠ 0 || year % 400 = 0)

def daysIn (year month : Nat) : Nat :=
  match month with
  | 2 => if isLeapYear year then 29 else 28
  | 4 | 6 | 9 | 11 => 30
  | _ => 31

/-- A date, and what follows it. -/
def date? (cs : List Char) : Option (List Char) := do
  let (year, rest) ← field? 4 0 9999 cs
  let rest ← sign? '-' rest
  let (month, rest) ← field? 2 1 12 rest
  let rest ← sign? '-' rest
  let (_, rest) ← field? 2 1 (daysIn year month) rest
  some rest

/-- A time of day, and what follows it. -/
def time? (cs : List Char) : Option (List Char) := do
  let (_, rest) ← field? 2 0 23 cs
  let rest ← sign? ':' rest
  let (_, rest) ← field? 2 0 59 rest
  let rest ← sign? ':' rest
  let (_, rest) ← field? 2 0 60 rest
  match rest with
  | '.' :: rest =>
    if (rest.takeWhile isDigit).isEmpty then none else some (rest.dropWhile isDigit)
  | rest => some rest

/-- The distance of a local time from the universal time, at the end of a run. -/
def isOffset (cs : List Char) : Bool :=
  match cs with
  | [] => true
  | ['Z'] => true
  | ['z'] => true
  | c :: rest =>
    (c = '+' || c = '-') && (do
      let (_, rest) ← field? 2 0 23 rest
      let rest ← sign? ':' rest
      let (_, rest) ← field? 2 0 59 rest
      if rest.isEmpty then some () else none : Option Unit).isSome

/-- A time of day with the distance from the universal time, as a whole run. -/
def isZonedTime (cs : List Char) : Bool := (time? cs).any isOffset

/-- A date, a time or both, as a whole run. -/
def datetime? (cs : List Char) : Option Value :=
  let good : Bool := match date? cs with
    | some [] => true
    | some (c :: rest) => (c = 'T' || c = 't') && isZonedTime rest
    | none => (time? cs).any (·.isEmpty)
  if good then some (.datetime (String.ofList cs)) else none

/-- The characters of numbers, dates and times. -/
def isScalarChar (c : Char) : Bool :=
  c.isAlphanum || c = '+' || c = '-' || c = '.' || c = '_' || c = ':'

/-- The value of a run. -/
def scalar? (cs : List Char) : Option Value :=
  match cs with
  | ['t', 'r', 'u', 'e'] => some (.boolean true)
  | ['f', 'a', 'l', 's', 'e'] => some (.boolean false)
  | _ => (datetime? cs).or ((float? cs).or (integer? cs))

/-- A number, a truth value, a date or a time. A space may stand between a date and a time. -/
def scalarPrefix? (cs : List Char) : Option (Value × List Char) :=
  let run := cs.takeWhile isScalarChar
  let rest := cs.dropWhile isScalarChar
  match date? run, rest with
  | some [], ' ' :: more =>
    if (more.head?.map isDigit).getD false then
      let clock := more.takeWhile isScalarChar
      if isZonedTime clock then
        some (.datetime (String.ofList (run ++ ' ' :: clock)), more.dropWhile isScalarChar)
      else none
    else (scalar? run).map (·, rest)
  | _, _ => (scalar? run).map (·, rest)

end LogStyle.Toml
