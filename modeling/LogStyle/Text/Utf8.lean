/-!
# Texts and their bytes

Offsets and lengths in reports count bytes of the UTF-8 encoding, while texts are handled as lists
of characters. This module relates the two.

* `byteLength`: the number of bytes of a text.
* `splitBytes?`: cuts a text at a byte offset that falls on a character boundary.
* `decode?`: reads bytes as UTF-8 and refuses ill-formed ones; `decodeLossy` replaces them.
-/

namespace LogStyle.Text

/-- The number of bytes that a text takes. -/
def byteLength (cs : List Char) : Nat := cs.foldr (fun c n => c.utf8Size + n) 0

/-- The bytes of a text. -/
def encode (cs : List Char) : List UInt8 := cs.flatMap String.utf8EncodeChar

/-- Cuts a text after `n` bytes, if a character ends there. -/
def splitBytes? : Nat → List Char → Option (List Char × List Char)
  | 0, cs => some ([], cs)
  | _ + 1, [] => none
  | n + 1, c :: rest =>
    if c.utf8Size ≤ n + 1 then
      (splitBytes? (n + 1 - c.utf8Size) rest).map fun (front, back) => (c :: front, back)
    else none

/-- The piece of a text between two byte offsets. -/
def slice? (start stop : Nat) (cs : List Char) : Option (List Char) :=
  if start ≤ stop then do
    let (_, back) ← splitBytes? start cs
    let (piece, _) ← splitBytes? (stop - start) back
    some piece
  else none

/-- A byte that continues a character. -/
def isContinuation (b : UInt8) : Bool := 0x80 ≤ b.toNat && b.toNat ≤ 0xbf

/-- The character of a code point in the given bounds that is not a surrogate. -/
def scalar? (lo hi n : Nat) : Option Char :=
  if lo ≤ n && n ≤ hi && !(0xd800 ≤ n && n ≤ 0xdfff) then some (Char.ofNat n) else none

/-- Reads well-formed UTF-8. Overlong forms, surrogates and stray bytes are refused. -/
def decode? : List UInt8 → Option (List Char)
  | [] => some []
  | b0 :: rest =>
    if b0.toNat < 0x80 then (decode? rest).map (Char.ofNat b0.toNat :: ·)
    else match rest with
      | [] => none
      | b1 :: rest =>
        if !isContinuation b1 then none
        else if b0.toNat < 0xe0 then do
          let c ← scalar? 0x80 0x7ff ((b0.toNat - 0xc0) * 64 + (b1.toNat - 0x80))
          if 0xc0 ≤ b0.toNat then (decode? rest).map (c :: ·) else none
        else match rest with
          | [] => none
          | b2 :: rest =>
            if !isContinuation b2 then none
            else if b0.toNat < 0xf0 then do
              let c ← scalar? 0x800 0xffff
                ((b0.toNat - 0xe0) * 4096 + (b1.toNat - 0x80) * 64 + (b2.toNat - 0x80))
              (decode? rest).map (c :: ·)
            else match rest with
              | [] => none
              | b3 :: rest =>
                if !isContinuation b3 then none
                else do
                  let c ← scalar? 0x10000 0x10ffff
                    ((b0.toNat - 0xf0) * 262144 + (b1.toNat - 0x80) * 4096
                      + (b2.toNat - 0x80) * 64 + (b3.toNat - 0x80))
                  (decode? rest).map (c :: ·)

/-- How many continuation bytes a leading byte asks for, with the bounds on the first of them. -/
def leading (b : UInt8) : Option (Nat × Nat × Nat) :=
  let n := b.toNat
  if 0xc2 ≤ n && n ≤ 0xdf then some (1, 0x80, 0xbf)
  else if n = 0xe0 then some (2, 0xa0, 0xbf)
  else if n = 0xed then some (2, 0x80, 0x9f)
  else if 0xe1 ≤ n && n ≤ 0xef then some (2, 0x80, 0xbf)
  else if n = 0xf0 then some (3, 0x90, 0xbf)
  else if n = 0xf4 then some (3, 0x80, 0x8f)
  else if 0xf1 ≤ n && n ≤ 0xf3 then some (3, 0x80, 0xbf)
  else none

/-- Reads bytes as UTF-8. Each maximal ill-formed start of a character becomes one U+FFFD.
`pending` holds the bytes of the character being read (in reverse), `more` the number of bytes it
still needs, the next one between `lo` and `hi`. -/
def decodeLossyFrom (pending : List UInt8) (more lo hi : Nat) : List UInt8 → List Char
  | [] => if pending.isEmpty then [] else ['\ufffd']
  | b :: rest =>
    if pending.isEmpty || !(lo ≤ b.toNat && b.toNat ≤ hi) then
      let lost : List Char := if pending.isEmpty then [] else ['\ufffd']
      if b.toNat < 0x80 then lost ++ Char.ofNat b.toNat :: decodeLossyFrom [] 0 0 0 rest
      else match leading b with
        | some (more, lo, hi) => lost ++ decodeLossyFrom [b] more lo hi rest
        | none => lost ++ '\ufffd' :: decodeLossyFrom [] 0 0 0 rest
    else if more ≤ 1 then
      ((decode? (b :: pending).reverse).getD ['\ufffd']) ++ decodeLossyFrom [] 0 0 0 rest
    else decodeLossyFrom (b :: pending) (more - 1) 0x80 0xbf rest

def decodeLossy (bytes : List UInt8) : List Char := decodeLossyFrom [] 0 0 0 bytes

end LogStyle.Text
