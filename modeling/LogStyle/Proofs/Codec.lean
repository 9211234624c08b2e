import LogStyle.Go.Token
import LogStyle.Literal

/-!
# Literals are read back

* `Text.decode?_encode`: the bytes of a text are read back as the text.
* `Written`: the forms in which `encodeChar` may write a character (`encodeChar_written`).
* `items?_written`, `delimited?_written`: each form is one unit of a body, and a scan for the
  closing quote passes over it. Both hold whatever follows, so no form runs into the next one.
* `quote_selfDelimiting`: **a text is read back from its literal, and the literal ends where a scan
  says it ends.**
-/

namespace LogStyle

namespace Text

/-! ## Bytes -/

theorem toNat_lt_or (c : Char) : c.toNat < 0xd800 ∨ (0xdfff < c.toNat ∧ c.toNat < 0x110000) :=
  c.valid

theorem scalar?_toNat {c : Char} {lo hi : Nat} (hlo : lo ≤ c.toNat) (hhi : c.toNat ≤ hi) :
    scalar? lo hi c.toNat = some c := by
  have hv := toNat_lt_or c
  have hs : (!(decide (0xd800 ≤ c.toNat) && decide (c.toNat ≤ 0xdfff))) = true := by
    simp only [Bool.not_eq_true', Bool.and_eq_false_iff, decide_eq_false_iff_not]
    omega
  simp only [scalar?, hlo, hhi, hs, decide_true, Bool.and_self, if_true, Char.ofNat_toNat]

/-- The bound is written out here, for `omega`. -/
theorem toNat_ofNat_lt {n : Nat} (h : n < 256) : (UInt8.ofNat n).toNat = n :=
  UInt8.toNat_ofNat_of_lt' h

theorem isContinuation_ofNat (n : Nat) : isContinuation (UInt8.ofNat (n % 64 + 0x80)) = true := by
  have hn : n % 64 < 64 := Nat.mod_lt _ (by decide)
  unfold isContinuation
  rw [toNat_ofNat_lt (by omega)]
  simp only [Bool.and_eq_true, decide_eq_true_eq]
  omega

/-- A character is read back from the front of any bytes. -/
theorem decode?_utf8EncodeChar (c : Char) (rest : List UInt8) :
    decode? (String.utf8EncodeChar c ++ rest) = (decode? rest).map (c :: ·) := by
  have hv := toNat_lt_or c
  have hc : c.val.toNat = c.toNat := rfl
  unfold String.utf8EncodeChar
  simp only [hc]
  -- one case for each number of bytes
  split
  · rw [List.cons_append, decode?.eq_def]
    simp only [List.nil_append]
    rw [toNat_ofNat_lt (by omega), if_pos (by omega), Char.ofNat_toNat]
  split
  · rw [List.cons_append, decode?.eq_def]
    simp only [List.cons_append, List.nil_append]
    rw [isContinuation_ofNat, toNat_ofNat_lt (by omega), toNat_ofNat_lt (by omega),
      if_neg (by omega), if_neg (by simp), if_pos (by omega),
      show (c.toNat / 64 % 32 + 0xc0 - 0xc0) * 64 + (c.toNat % 64 + 0x80 - 0x80) = c.toNat by omega,
      scalar?_toNat (by omega) (by omega)]
    simp
  split
  · rw [List.cons_append, decode?.eq_def]
    simp only [List.cons_append, List.nil_append]
    rw [isContinuation_ofNat, isContinuation_ofNat, toNat_ofNat_lt (by omega),
      toNat_ofNat_lt (by omega), toNat_ofNat_lt (by omega), if_neg (by omega), if_neg (by simp),
      if_neg (by omega), if_neg (by simp), if_pos (by omega),
      show (c.toNat / 4096 % 16 + 0xe0 - 0xe0) * 4096 + (c.toNat / 64 % 64 + 0x80 - 0x80) * 64
        + (c.toNat % 64 + 0x80 - 0x80) = c.toNat by omega,
      scalar?_toNat (by omega) (by omega)]
    simp
  · rw [List.cons_append, decode?.eq_def]
    simp only [List.cons_append, List.nil_append]
    rw [isContinuation_ofNat, isContinuation_ofNat, isContinuation_ofNat,
      toNat_ofNat_lt (by omega), toNat_ofNat_lt (by omega), toNat_ofNat_lt (by omega),
      toNat_ofNat_lt (by omega), if_neg (by omega), if_neg (by simp), if_neg (by omega),
      if_neg (by simp), if_neg (by omega), if_neg (by simp),
      show (c.toNat / 262144 % 8 + 0xf0 - 0xf0) * 262144 + (c.toNat / 4096 % 64 + 0x80 - 0x80) * 4096
        + (c.toNat / 64 % 64 + 0x80 - 0x80) * 64 + (c.toNat % 64 + 0x80 - 0x80) = c.toNat by omega,
      scalar?_toNat (by omega) (by omega)]
    simp

/-- **The bytes of a text are read back.** -/
theorem decode?_encode (text : List Char) : decode? (encode text) = some text := by
  unfold encode
  induction text with
  | nil => rfl
  | cons c rest ih => rw [List.flatMap_cons, decode?_utf8EncodeChar, ih, Option.map_some]

/-! ## Digits -/

theorem hexChar?_hexDigits {width : Nat} (c : Char) (h : c.toNat < Nat.pow 16 width) :
    hexChar? (hexDigits width c.toNat) = some c := by
  have hc : c.toNat.isValidChar := c.valid
  rw [hexChar?, number?_hexDigits width _ h, Option.bind_some, charOf?, dif_pos hc]
  rfl

theorem hexDigit_plain : ∀ n < 16, hexDigit n ≠ '\\' ∧ hexDigit n ≠ '"' ∧ hexDigit n ≠ '\n' := by
  decide

theorem hexDigits_plain (width n : Nat) :
    ∀ d ∈ hexDigits width n, d ≠ '\\' ∧ d ≠ '"' ∧ d ≠ '\n' := by
  induction width generalizing n with
  | zero => simp [hexDigits]
  | succ width ih =>
    intro d hd
    rcases List.mem_append.1 hd with h | h
    · exact ih _ d h
    · rw [List.mem_singleton.1 h]; exact hexDigit_plain _ (Nat.mod_lt _ (by decide))

end Text

namespace Literal

/-! ## The forms of a character -/

/-- The forms in which a character may be written between double quotes. -/
inductive Written (c : Char) : List Char → Prop where
  | named {e : Char} : named? e = some c → Written c ['\\', e]
  | byte : c.toNat < 0x80 → Written c ('\\' :: 'x' :: Text.hexDigits 2 c.toNat)
  | short : c.toNat ≤ 0xffff → Written c ('\\' :: 'u' :: Text.hexDigits 4 c.toNat)
  | long : Written c ('\\' :: 'U' :: Text.hexDigits 8 c.toNat)
  | plain : c ≠ '"' → c ≠ '\\' → c ≠ '\n' → Written c [c]

theorem encodeChar_written (c : Char) : Written c (encodeChar c) := by
  fun_cases encodeChar c with
  | case10 _ _ _ _ _ _ _ _ _ h =>
    simp only [Bool.or_eq_true, decide_eq_true_eq] at h
    exact .byte (by omega)
  | case11 => exact .long
  | case12 => exact .short (by omega)
  | case13 hq hb _ _ _ hn => exact .plain hq hb hn
  | _ => subst_vars; exact .named rfl

/-! ## Reading -/

section Reading

variable {c : Char} {item : Item}

theorem items?_named {e : Char} (he : named? e = some c) (rest : List Char) :
    items? ('\\' :: e :: rest) = (items? rest).map (.char c :: ·) := by
  rw [items?.eq_def]
  simp [he]

theorem items?_byte {d₁ d₂ : Char} (h : byte? 16 [d₁, d₂] = some item) (rest : List Char) :
    items? ('\\' :: 'x' :: d₁ :: d₂ :: rest) = (items? rest).map (item :: ·) := by
  rw [items?.eq_def]
  simp [named?, h]

theorem items?_short {d₁ d₂ d₃ d₄ : Char} (h : codePoint? [d₁, d₂, d₃, d₄] = some item)
    (rest : List Char) :
    items? ('\\' :: 'u' :: d₁ :: d₂ :: d₃ :: d₄ :: rest) = (items? rest).map (item :: ·) := by
  rw [items?.eq_def]
  simp [named?, h]

theorem items?_long {d₁ d₂ d₃ d₄ d₅ d₆ d₇ d₈ : Char}
    (h : codePoint? [d₁, d₂, d₃, d₄, d₅, d₆, d₇, d₈] = some item) (rest : List Char) :
    items? ('\\' :: 'U' :: d₁ :: d₂ :: d₃ :: d₄ :: d₅ :: d₆ :: d₇ :: d₈ :: rest) =
      (items? rest).map (item :: ·) := by
  rw [items?.eq_def]
  simp [named?, h]

theorem items?_plain (hq : c ≠ '"') (hb : c ≠ '\\') (hn : c ≠ '\n') (rest : List Char) :
    items? (c :: rest) = (items? rest).map (.char c :: ·) := by
  rw [items?.eq_def]
  simp [hq, hb, hn]

end Reading

/-- Each form is one unit of a body, whatever follows, and stands for the character's bytes. -/
theorem items?_written {c : Char} {w : List Char} (h : Written c w) :
    ∃ item : Item, item.bytes = String.utf8EncodeChar c ∧
      ∀ rest, items? (w ++ rest) = (items? rest).map (item :: ·) := by
  cases h with
  | named he => exact ⟨.char c, rfl, items?_named he⟩
  | byte h =>
    refine ⟨.byte (UInt8.ofNat c.toNat), ?_, items?_byte ?_⟩
    · simp only [Item.bytes, String.utf8EncodeChar]
      rw [if_pos (show c.val.toNat ≤ 0x7f from Nat.le_of_lt_succ h)]; rfl
    · show byte? 16 (Text.hexDigits 2 c.toNat) = _
      have hwidth : c.toNat < Nat.pow 16 2 := Nat.lt_trans h (by decide)
      rw [byte?, Text.number?_hexDigits 2 _ hwidth]
      simp only [Option.bind_eq_bind, Option.bind_some]
      rw [if_pos (by omega)]
  | short h =>
    refine ⟨.char c, rfl, items?_short ?_⟩
    have hwidth : c.toNat < Nat.pow 16 4 := Nat.lt_succ_of_le h
    show (Text.hexChar? (Text.hexDigits 4 c.toNat)).map Item.char = _
    rw [Text.hexChar?_hexDigits c hwidth]; rfl
  | long =>
    refine ⟨.char c, rfl, items?_long ?_⟩
    have hv := Text.toNat_lt_or c
    have hwidth : c.toNat < Nat.pow 16 8 := Nat.lt_trans (show c.toNat < 0x110000 by omega) (by decide)
    show (Text.hexChar? (Text.hexDigits 8 c.toNat)).map Item.char = _
    rw [Text.hexChar?_hexDigits c hwidth]; rfl
  | plain hq hb hn => exact ⟨.char c, rfl, items?_plain hq hb hn⟩

theorem items?_flatMap_encodeChar (text : List Char) :
    ∃ items, items? (text.flatMap encodeChar) = some items ∧
      items.flatMap Item.bytes = Text.encode text := by
  induction text with
  | nil => exact ⟨[], rfl, rfl⟩
  | cons c rest ih =>
    obtain ⟨items, hi, hb⟩ := ih
    obtain ⟨item, hbytes, hitem⟩ := items?_written (encodeChar_written c)
    refine ⟨item :: items, ?_, ?_⟩
    · rw [List.flatMap_cons, hitem, hi]; rfl
    · rw [List.flatMap_cons, hbytes, hb]; rfl

theorem body?_encode (text : List Char) : body? '"' (encode text) = some (text.flatMap encodeChar) := by
  unfold encode body?
  simp

/-- **A text is read back from its literal.** -/
theorem decode?_encode (text : List Char) : decode? (encode text) = some text := by
  obtain ⟨items, hi, hb⟩ := items?_flatMap_encodeChar text
  have hraw : body? '\x60' (encode text) = none := by simp [encode, body?]
  unfold decode?
  rw [hraw, body?_encode]
  simp only [Option.bind_some, decodeQuoted?, hi, hb, Option.bind_eq_bind, Text.decode?_encode]

/-- `decode?_encode` on strings. -/
@[simp]
theorem value?_quote (text : String) : value? (quote text) = some text := by
  simp [value?, quote, decode?_encode]

/-! ## Scanning -/

theorem delimited?_cons {c stop : Char} (hb : c ≠ '\\') (hs : c ≠ stop) (hn : c ≠ '\n')
    (rest : List Char) :
    Go.delimited? stop (c :: rest) = (Go.delimited? stop rest).map fun p => (c :: p.1, p.2) := by
  rw [Go.delimited?.eq_3]
  · simp [hs, hn]
  · simp [hb]

theorem delimited?_plain {w : List Char} (hw : ∀ d ∈ w, d ≠ '\\' ∧ d ≠ '"' ∧ d ≠ '\n')
    (rest : List Char) :
    Go.delimited? '"' (w ++ rest) = (Go.delimited? '"' rest).map fun p => (w ++ p.1, p.2) := by
  induction w with
  | nil => simp
  | cons d w ih =>
    obtain ⟨hb, hq, hn⟩ := hw d List.mem_cons_self
    rw [List.cons_append, delimited?_cons hb hq hn, ih fun x hx => hw x (List.mem_cons_of_mem _ hx),
      Option.map_map]
    rfl

/-- A scan for the closing quote passes over each form, whatever follows. -/
theorem delimited?_written {c : Char} {w : List Char} (h : Written c w) (rest : List Char) :
    Go.delimited? '"' (w ++ rest) = (Go.delimited? '"' rest).map fun p => (w ++ p.1, p.2) := by
  cases h with
  | named _ => rfl
  | byte _ | short _ | long =>
    simp only [List.cons_append, Go.delimited?]
    rw [delimited?_plain (Text.hexDigits_plain _ _), Option.map_map]
    rfl
  | plain hq hb hn => exact delimited?_plain (by simp [hq, hb, hn]) rest

theorem delimited?_encode (text rest : List Char) :
    Go.delimited? '"' (text.flatMap encodeChar ++ '"' :: rest) =
      some (text.flatMap encodeChar ++ ['"'], rest) := by
  induction text with
  | nil => simp [Go.delimited?]
  | cons c text ih =>
    rw [List.flatMap_cons, List.append_assoc, delimited?_written (encodeChar_written c), ih]
    simp

theorem newline_notMem_written {c : Char} {w : List Char} (h : Written c w) : '\n' ∉ w := by
  cases h with
  | @named e he =>
    have hn : named? '\n' = none := rfl
    rw [List.mem_cons, List.mem_singleton]
    rintro (h | rfl)
    · exact absurd h (by decide)
    · rw [hn] at he; cases he
  | byte _ | short _ | long =>
    simp only [List.mem_cons, not_or]
    exact ⟨by decide, by decide, fun h => (Text.hexDigits_plain _ _ _ h).2.2 rfl⟩
  | plain _ _ hn => simpa using hn.symm

theorem newline_notMem_encode (text : List Char) : '\n' ∉ encode text := by
  simp only [encode, List.mem_append, List.mem_cons, List.mem_flatMap, not_or, not_exists, not_and]
  exact ⟨⟨by decide, fun c _ => newline_notMem_written (encodeChar_written c)⟩, by decide, by simp⟩

/-- **A literal is read back and ends where a scan says it ends.** After the opening quote, the scan
in which a backslash takes the next character along, a bare quote closes and a line break is an
error takes exactly the rest of the literal, whatever follows, and meets no line break. -/
theorem quote_selfDelimiting (text : String) (rest : List Char) :
    value? (quote text) = some text ∧
      ∃ body, (quote text).toList = '"' :: body ∧
        Go.delimited? '"' (body ++ rest) = some (body, rest) ∧ '\n' ∉ body := by
  refine ⟨value?_quote text, text.toList.flatMap encodeChar ++ ['"'], ?_, ?_, ?_⟩
  · simp [quote, encode]
  · rw [List.append_assoc]; exact delimited?_encode text.toList rest
  · exact fun h => newline_notMem_encode text.toList (List.mem_cons_of_mem _ h)

end Literal

end LogStyle
