/-!
# Digits

Numbers written in a base up to sixteen.

* `digit?`, `number?`: reading; a character that is no digit of the base is refused.
* `hexDigit`, `hexDigits`: writing in base sixteen.
* `charOf?`, `hexChar?`: the character whose code point is given.
-/

namespace LogStyle.Text

/-- The value of a digit, sixteen for any other character. -/
def digitValue (c : Char) : Nat :=
  let n := c.toNat
  if 48 ≤ n && n ≤ 57 then n - 48
  else if 97 ≤ n && n ≤ 102 then n - 87
  else if 65 ≤ n && n ≤ 70 then n - 55
  else 16

/-- The value of a digit in a base up to sixteen. -/
def digit? (base : Nat) (c : Char) : Option Nat :=
  if digitValue c < base then some (digitValue c) else none

def isDigitIn (base : Nat) (c : Char) : Bool := (digit? base c).isSome

/-- The number written by some digits, most significant first. -/
def number? (base : Nat) (digits : List Char) : Option Nat :=
  digits.foldlM (fun value c => (digit? base c).map (value * base + ·)) 0

/-- The character with a code point, if there is one. -/
def charOf? (n : Nat) : Option Char :=
  if h : n.isValidChar then some (Char.ofNatAux n h) else none

/-- The character whose code point the digits give in base sixteen. -/
def hexChar? (digits : List Char) : Option Char := (number? 16 digits).bind charOf?

/-- The digit of a value below sixteen. -/
def hexDigit (n : Nat) : Char := Char.ofNat (if n < 10 then 48 + n else 87 + n)

/-- A number in base sixteen with a fixed number of digits. -/
def hexDigits : (width : Nat) → Nat → List Char
  | 0, _ => []
  | width + 1, n => hexDigits width (n / 16) ++ [hexDigit (n % 16)]

/-- What is written is read back. -/
theorem digit?_hexDigit : ∀ n < 16, digit? 16 (hexDigit n) = some n := by decide

/-- **A number with enough digits is read back.** -/
theorem number?_hexDigits (width n : Nat) (h : n < Nat.pow 16 width) :
    number? 16 (hexDigits width n) = some n := by
  induction width generalizing n with
  | zero =>
    have : n = 0 := by simpa using h
    subst this
    rfl
  | succ width ih =>
    have hq : n / 16 < Nat.pow 16 width :=
      Nat.div_lt_of_lt_mul (Nat.mul_comm .. ▸ h)
    have hr : n % 16 < 16 := Nat.mod_lt _ (by decide)
    have step := ih (n / 16) hq
    simp only [number?] at step
    simp only [number?, hexDigits, List.foldlM_append, step]
    simp only [List.foldlM_cons, List.foldlM_nil, digit?_hexDigit _ hr, Option.map_some]
    simp [bind, pure]
    omega

end LogStyle.Text
