import LogStyle.Text.Digits
import LogStyle.Text.Utf8

/-!
# String literals

Go writes a string either between double quotes, with escapes, or between backquotes, as it is.
`Literal.decode?` computes the value of a literal from its source text and `Literal.encode` writes
a text as a literal between double quotes.

* `Item`: what one written unit between double quotes stands for, a character or a bare byte.
* `items?`: the units of a body; it refuses anything outside the grammar of literals.
* `decode?`: the value of a literal, if its bytes are well-formed UTF-8.
* `encode`: the literal of a text, with every invisible character escaped.
-/

namespace LogStyle.Literal

/-- What one written unit between double quotes stands for. -/
inductive Item where
  | char (c : Char)
  | byte (b : UInt8)
  deriving DecidableEq, Repr

/-- The bytes that a unit contributes to the value. -/
def Item.bytes : Item → List UInt8
  | .char c => String.utf8EncodeChar c
  | .byte b => [b]

/-- The byte written by some digits, if it is one. -/
def byte? (base : Nat) (digits : List Char) : Option Item := do
  let n ← Text.number? base digits
  if n < 256 then some (.byte (UInt8.ofNat n)) else none

/-- The character whose code point the digits give, if there is one. -/
def codePoint? (digits : List Char) : Option Item := (Text.hexChar? digits).map .char

/-- The character that a one-letter escape names. -/
def named? : Char → Option Char
  | 'a' => some '\x07'
  | 'b' => some '\x08'
  | 'f' => some '\x0c'
  | 'n' => some '\n'
  | 'r' => some '\r'
  | 't' => some '\t'
  | 'v' => some '\x0b'
  | '\\' => some '\\'
  | '"' => some '"'
  | _ => none

/-- The units of a body between double quotes. A bare quote, a line break, an unknown escape and an
escape that is cut short are refused. -/
def items? : List Char → Option (List Item)
  | [] => some []
  | c :: rest =>
    if c = '"' ∨ c = '\n' then none
    else if c ≠ '\\' then (items? rest).map (.char c :: ·)
    else match rest with
      | [] => none
      | e :: rest =>
        match named? e with
        | some named => (items? rest).map (.char named :: ·)
        | none =>
          if e = 'x' then
            match rest with
            | d1 :: d2 :: rest => do
              let item ← byte? 16 [d1, d2]
              (items? rest).map (item :: ·)
            | _ => none
          else if e = 'u' then
            match rest with
            | d1 :: d2 :: d3 :: d4 :: rest => do
              let item ← codePoint? [d1, d2, d3, d4]
              (items? rest).map (item :: ·)
            | _ => none
          else if e = 'U' then
            match rest with
            | d1 :: d2 :: d3 :: d4 :: d5 :: d6 :: d7 :: d8 :: rest => do
              let item ← codePoint? [d1, d2, d3, d4, d5, d6, d7, d8]
              (items? rest).map (item :: ·)
            | _ => none
          else
            match rest with
            | d2 :: d3 :: rest => do
              let item ← byte? 8 [e, d2, d3]
              (items? rest).map (item :: ·)
            | _ => none

/-- The body of a literal that starts and ends with the same delimiter. -/
def body? (delimiter : Char) : List Char → Option (List Char)
  | [] => none
  | c :: rest =>
    if c = delimiter ∧ rest.getLast? = some delimiter then some rest.dropLast else none

/-- The value of a literal between backquotes: all of it but the carriage returns. -/
def decodeRaw? (body : List Char) : Option (List Char) :=
  if body.contains '\x60' then none else some (body.filter (· ≠ '\r'))

/-- The value of a literal between double quotes. -/
def decodeQuoted? (body : List Char) : Option (List Char) := do
  let items ← items? body
  Text.decode? (items.flatMap Item.bytes)

/-- The value of a string literal, given its source text with the delimiters. -/
def decode? (source : List Char) : Option (List Char) :=
  match body? '\x60' source with
  | some body => decodeRaw? body
  | none => (body? '"' source).bind decodeQuoted?

/-- Characters that a reader of the source would not see. -/
def isInvisible (c : Char) : Bool :=
  let n := c.toNat
  n < 0x20 || (0x7f ≤ n && n ≤ 0x9f) || n = 0xad || (0x200b ≤ n && n ≤ 0x200f)
    || (0x2028 ≤ n && n ≤ 0x202e) || (0x2060 ≤ n && n ≤ 0x2064) || n = 0xfeff

/-- One character as it is written between double quotes. -/
def encodeChar (c : Char) : List Char :=
  if c = '"' then ['\\', '"']
  else if c = '\\' then ['\\', '\\']
  else if c = '\x07' then ['\\', 'a']
  else if c = '\x08' then ['\\', 'b']
  else if c = '\x0c' then ['\\', 'f']
  else if c = '\n' then ['\\', 'n']
  else if c = '\r' then ['\\', 'r']
  else if c = '\t' then ['\\', 't']
  else if c = '\x0b' then ['\\', 'v']
  else if c.toNat < 0x20 || c.toNat = 0x7f then '\\' :: 'x' :: Text.hexDigits 2 c.toNat
  else if isInvisible c then
    if c.toNat > 0xffff then '\\' :: 'U' :: Text.hexDigits 8 c.toNat
    else '\\' :: 'u' :: Text.hexDigits 4 c.toNat
  else [c]

/-- A text as a literal between double quotes. -/
def encode (text : List Char) : List Char := '"' :: text.flatMap encodeChar ++ ['"']

/-- `decode?` on strings. -/
def value? (source : String) : Option String := (decode? source.toList).map String.ofList

/-- `encode` on strings. -/
def quote (text : String) : String := String.ofList (encode text.toList)

end LogStyle.Literal
