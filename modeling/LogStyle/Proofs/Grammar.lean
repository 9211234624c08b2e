import LogStyle.Proofs.Codec
import Mathlib.Algebra.Group.Nat.Defs
import Mathlib.Data.List.Basic
import Mathlib.Data.List.Induction

/-!
# The grammar of literals

The reader of literals is compared with the grammar that it reads.

* `Text.Numeral`: digits in a base with the number that they write.
* `Spelled`, `Body`, `Denotes`: one unit between double quotes, a sequence of them, and a literal,
  each with what it stands for.
* `Text.decode?_eq_some_iff`: bytes are read as a text exactly if they are its bytes.
* `body_of_items?`, `exists_items?`: the units that are read are those of the grammar.
* `Takes`: the digits that are taken for one number while a body is read.
* `value?_exact`: **a literal has a value exactly if the grammar gives it that value, and no number
  that is read on the way needs more than 32 bits.**
-/

namespace LogStyle

namespace Text

/-! ## Bytes -/

theorem charOf?_eq_some_iff {n : Nat} {c : Char} : charOf? n = some c ↔ c.toNat = n := by
  unfold charOf?
  constructor
  · intro h
    by_cases hvalid : n.isValidChar
    · rw [dif_pos hvalid] at h
      cases h
      rfl
    · rw [dif_neg hvalid] at h
      cases h
  · rintro rfl
    rw [dif_pos (show c.toNat.isValidChar from c.valid)]
    rfl

theorem toNat_of_scalar? {lo hi n : Nat} {c : Char} (h : scalar? lo hi n = some c) (hhi : hi < 0x110000) :
    c.toNat = n ∧ lo ≤ n ∧ n ≤ hi := by
  simp only [scalar?, Option.ite_none_right_eq_some, Bool.and_eq_true, decide_eq_true_eq,
    Bool.not_eq_true', Bool.and_eq_false_iff, decide_eq_false_iff_not, Option.some.injEq] at h
  obtain ⟨⟨⟨hlo, hle⟩, hsurrogate⟩, rfl⟩ := h
  have hvalid : n.isValidChar := by
    unfold Nat.isValidChar
    omega
  refine ⟨?_, hlo, hle⟩
  rw [Char.ofNat, dif_pos hvalid]
  rfl

theorem of_isContinuation {b : UInt8} (h : ¬(!isContinuation b) = true) :
    0x80 ≤ b.toNat ∧ b.toNat ≤ 0xbf := by
  simpa [isContinuation] using h

theorem eq_ofNat {b : UInt8} {n : Nat} (h : b.toNat = n) : b = UInt8.ofNat n := by
  rw [← h, UInt8.ofNat_toNat]

/-- Bytes that are read as a text are the bytes of the text. -/
theorem eq_encode_of_decode? {bytes : List UInt8} {text : List Char} (h : decode? bytes = some text) :
    bytes = encode text := by
  -- one case for each number of bytes of the first character, the others are refused
  fun_induction decode? bytes generalizing text with
  | case1 =>
    cases h
    rfl
  | case2 b₀ rest h₀ ih =>
    obtain ⟨text, htext, rfl⟩ := Option.map_eq_some_iff.1 h
    have hvalid : b₀.toNat.isValidChar := Or.inl (by omega)
    have hv : (Char.ofNat b₀.toNat).val.toNat = b₀.toNat := by
      rw [Char.ofNat, dif_pos hvalid]
      rfl
    rw [ih htext]
    simp only [encode, List.flatMap_cons, String.utf8EncodeChar, hv]
    rw [if_pos (by omega), UInt8.ofNat_toNat]
    rfl
  | case5 b₀ h₀ b₁ rest h₁ hlt ih =>
    simp only [Option.bind_eq_bind, Option.bind_eq_some_iff, Option.ite_none_right_eq_some,
      Option.map_eq_some_iff] at h
    obtain ⟨c, hc, hle, text, htext, rfl⟩ := h
    obtain ⟨hv, hlo, hhi⟩ := toNat_of_scalar? hc (by decide)
    have hb₁ := of_isContinuation h₁
    rw [ih htext]
    simp only [encode, List.flatMap_cons, String.utf8EncodeChar]
    rw [show c.val.toNat = c.toNat from rfl, hv, if_neg (by omega), if_pos hhi,
      ← eq_ofNat (b := b₀) (by omega), ← eq_ofNat (b := b₁) (by omega)]
    rfl
  | case8 b₀ h₀ b₁ h₁ h₀' b₂ rest h₂ hlt ih =>
    simp only [Option.bind_eq_bind, Option.bind_eq_some_iff, Option.map_eq_some_iff] at h
    obtain ⟨c, hc, text, htext, rfl⟩ := h
    obtain ⟨hv, hlo, hhi⟩ := toNat_of_scalar? hc (by decide)
    have hb₁ := of_isContinuation h₁
    have hb₂ := of_isContinuation h₂
    rw [ih htext]
    simp only [encode, List.flatMap_cons, String.utf8EncodeChar]
    rw [show c.val.toNat = c.toNat from rfl, hv, if_neg (by omega), if_neg (by omega), if_pos hhi,
      ← eq_ofNat (b := b₀) (by omega), ← eq_ofNat (b := b₁) (by omega),
      ← eq_ofNat (b := b₂) (by omega)]
    rfl
  | case11 b₀ h₀ b₁ h₁ h₀' b₂ h₂ h₀'' b₃ rest h₃ ih =>
    simp only [Option.bind_eq_bind, Option.bind_eq_some_iff, Option.map_eq_some_iff] at h
    obtain ⟨c, hc, text, htext, rfl⟩ := h
    obtain ⟨hv, hlo, hhi⟩ := toNat_of_scalar? hc (by decide)
    have hb₁ := of_isContinuation h₁
    have hb₂ := of_isContinuation h₂
    have hb₃ := of_isContinuation h₃
    rw [ih htext]
    simp only [encode, List.flatMap_cons, String.utf8EncodeChar]
    rw [show c.val.toNat = c.toNat from rfl, hv, if_neg (by omega), if_neg (by omega),
      if_neg (by omega), ← eq_ofNat (b := b₀) (by omega), ← eq_ofNat (b := b₁) (by omega),
      ← eq_ofNat (b := b₂) (by omega), ← eq_ofNat (b := b₃) (by omega)]
    rfl
  | case3 | case4 | case6 | case7 | case9 | case10 => cases h

/-- **Bytes are read as a text exactly if they are its bytes.** -/
theorem decode?_eq_some_iff {bytes : List UInt8} {text : List Char} :
    decode? bytes = some text ↔ bytes = encode text :=
  ⟨eq_encode_of_decode?, fun h => h ▸ decode?_encode text⟩

/-! ## Numerals -/

/-- A character is the digit of a value, in lower or upper case. -/
def IsDigit (base : Nat) (c : Char) (n : Nat) : Prop :=
  n < base ∧ ("0123456789abcdef".toList[n]? = some c ∨ "0123456789ABCDEF".toList[n]? = some c)

/-- Digits with the number that they write, the most significant first. -/
inductive Numeral (base : Nat) : List Char → Nat → Prop where
  | nil : Numeral base [] 0
  | snoc {digits : List Char} {n : Nat} {d : Char} {k : Nat} : Numeral base digits n →
      IsDigit base d k → Numeral base (digits ++ [d]) (n * base + k)

theorem digitValue_of_getElem? : ∀ n < 16, ∀ c : Char,
    "0123456789abcdef".toList[n]? = some c ∨ "0123456789ABCDEF".toList[n]? = some c →
      digitValue c = n := by
  intro n hn c hc
  have hdigits : ∀ n < 16,
      ("0123456789abcdef".toList[n]?.map digitValue = some n) ∧
        ("0123456789ABCDEF".toList[n]?.map digitValue = some n) := by decide
  obtain ⟨hlower, hupper⟩ := hdigits n hn
  rcases hc with hc | hc
  · rw [hc] at hlower
    exact Option.some.inj hlower
  · rw [hc] at hupper
    exact Option.some.inj hupper

theorem getElem?_digitValue {c : Char} (h : digitValue c < 16) :
    "0123456789abcdef".toList[digitValue c]? = some c ∨
      "0123456789ABCDEF".toList[digitValue c]? = some c := by
  have hlower : ∀ n < 16,
      "0123456789abcdef".toList[n]? = some (Char.ofNat (if n < 10 then n + 48 else n + 87)) := by
    decide
  have hupper : ∀ n < 16,
      "0123456789ABCDEF".toList[n]? = some (Char.ofNat (if n < 10 then n + 48 else n + 55)) := by
    decide
  have hc : Char.ofNat c.toNat = c := Char.ofNat_toNat c
  by_cases hten : 48 ≤ c.toNat ∧ c.toNat ≤ 57
  · have hv : digitValue c = c.toNat - 48 := by simp [digitValue, hten]
    left
    rw [hv, hlower _ (by omega), if_pos (by omega), Nat.sub_add_cancel hten.1, hc]
  by_cases hlow : 97 ≤ c.toNat ∧ c.toNat ≤ 102
  · have hv : digitValue c = c.toNat - 87 := by simp [digitValue, hten, hlow]
    left
    rw [hv, hlower _ (by omega), if_neg (by omega), Nat.sub_add_cancel (by omega), hc]
  by_cases hup : 65 ≤ c.toNat ∧ c.toNat ≤ 70
  · have hv : digitValue c = c.toNat - 55 := by simp [digitValue, hten, hlow, hup]
    right
    rw [hv, hupper _ (by omega), if_neg (by omega), Nat.sub_add_cancel (by omega), hc]
  · simp [digitValue, hten, hlow, hup] at h

section

variable {base n : Nat} {digits : List Char}

theorem digit?_eq_some_iff {c : Char} (hbase : base ≤ 16) :
    digit? base c = some n ↔ IsDigit base c n := by
  simp only [digit?, Option.ite_none_right_eq_some, Option.some.injEq]
  constructor
  · rintro ⟨hlt, rfl⟩
    exact ⟨hlt, getElem?_digitValue (by omega)⟩
  · rintro ⟨hlt, hc⟩
    obtain rfl := digitValue_of_getElem? n (by omega) c hc
    exact ⟨hlt, rfl⟩

theorem number?_snoc (base : Nat) (digits : List Char) (d : Char) :
    number? base (digits ++ [d]) =
      (number? base digits).bind fun n => (digit? base d).map (n * base + ·) := by
  simp only [number?, List.foldlM_append, List.foldlM_cons, List.foldlM_nil]
  cases List.foldlM (fun value c => (digit? base c).map (value * base + ·)) 0 digits <;> simp

/-- The number that is read is the one that is written. -/
theorem number?_eq_some_iff (hbase : base ≤ 16) :
    number? base digits = some n ↔ Numeral base digits n := by
  constructor
  · induction digits using List.reverseRecOn generalizing n with
    | nil =>
      intro h
      cases h
      exact .nil
    | append_singleton digits d ih =>
      intro h
      rw [number?_snoc, Option.bind_eq_some_iff] at h
      obtain ⟨m, hm, h⟩ := h
      obtain ⟨k, hk, rfl⟩ := Option.map_eq_some_iff.1 h
      exact .snoc (ih hm) ((digit?_eq_some_iff hbase).1 hk)
  · intro h
    induction h with
    | nil => rfl
    | snoc _ hd ih => rw [number?_snoc, ih, Option.bind_some, (digit?_eq_some_iff hbase).2 hd,
        Option.map_some]

/-- A number with few digits is small. -/
theorem Numeral.lt_pow (h : Numeral base digits n) : n < base ^ digits.length := by
  induction h with
  | nil => simp
  | @snoc digits n d k _ hd ih =>
    rw [List.length_append, List.length_singleton, Nat.pow_succ]
    calc n * base + k < n * base + base := Nat.add_lt_add_left hd.1 _
      _ = (n + 1) * base := (Nat.succ_mul n base).symm
      _ ≤ base ^ digits.length * base := Nat.mul_le_mul_right _ ih

end

end Text

namespace Literal

open Text

/-! ## The grammar -/

/-- The letters of one-letter escapes with the bytes that they name. -/
def namedBytes : List (Char × UInt8) := [
  ('a', 0x07), ('b', 0x08), ('f', 0x0c), ('n', 0x0a), ('r', 0x0d), ('t', 0x09), ('v', 0x0b),
  ('\\', 0x5c), ('"', 0x22)]

/-- One unit between double quotes as it may be written, with the bytes that it stands for. -/
inductive Spelled : List Char → List UInt8 → Prop where
  | plain {c : Char} : c ≠ '"' → c ≠ '\\' → c ≠ '\n' → Spelled [c] (String.utf8EncodeChar c)
  | named {e : Char} {b : UInt8} : (e, b) ∈ namedBytes → Spelled ['\\', e] [b]
  | hex {d₁ d₂ : Char} {n : Nat} : Numeral 16 [d₁, d₂] n →
      Spelled ['\\', 'x', d₁, d₂] [UInt8.ofNat n]
  | octal {d₁ d₂ d₃ : Char} {n : Nat} : Numeral 8 [d₁, d₂, d₃] n → n ≤ 255 →
      Spelled ['\\', d₁, d₂, d₃] [UInt8.ofNat n]
  | short {d₁ d₂ d₃ d₄ c : Char} : Numeral 16 [d₁, d₂, d₃, d₄] c.toNat →
      Spelled ['\\', 'u', d₁, d₂, d₃, d₄] (String.utf8EncodeChar c)
  | long {d₁ d₂ d₃ d₄ d₅ d₆ d₇ d₈ c : Char} :
      Numeral 16 [d₁, d₂, d₃, d₄, d₅, d₆, d₇, d₈] c.toNat →
      Spelled ['\\', 'U', d₁, d₂, d₃, d₄, d₅, d₆, d₇, d₈] (String.utf8EncodeChar c)

/-- What stands between double quotes, with the bytes of all its units. -/
inductive Body : List Char → List UInt8 → Prop where
  | nil : Body [] []
  | cons {unit body : List Char} {first bytes : List UInt8} : Spelled unit first → Body body bytes →
      Body (unit ++ body) (first ++ bytes)

/-- A literal with its value. -/
inductive Denotes : List Char → List Char → Prop where
  | raw {body : List Char} : '\x60' ∉ body →
      Denotes ('\x60' :: body ++ ['\x60']) (body.filter (· ≠ '\r'))
  | quoted {body value : List Char} : Body body (Text.encode value) →
      Denotes ('"' :: body ++ ['"']) value

/-! ## Units -/

section

variable {digits : List Char} {item : Item} {n : Nat}

theorem byte?_eq_some {base : Nat} (hbase : base ≤ 16) (h : byte? base digits = some item) :
    ∃ n, Numeral base digits n ∧ n ≤ 255 ∧ item.bytes = [UInt8.ofNat n] := by
  simp only [byte?, Option.bind_eq_bind, Option.bind_eq_some_iff, Option.ite_none_right_eq_some,
    Option.some.injEq] at h
  obtain ⟨n, hn, hlt, rfl⟩ := h
  exact ⟨n, (number?_eq_some_iff hbase).1 hn, Nat.le_of_lt_succ hlt, rfl⟩

theorem byte?_of_numeral {base : Nat} (hbase : base ≤ 16) (h : Numeral base digits n) (hn : n ≤ 255) :
    byte? base digits = some (.byte (UInt8.ofNat n)) := by
  rw [byte?, (number?_eq_some_iff hbase).2 h]
  simp only [Option.bind_eq_bind, Option.bind_some]
  rw [if_pos (Nat.lt_succ_of_le hn)]

theorem codePoint?_eq_some (h : codePoint? digits = some item) :
    ∃ c : Char, Numeral 16 digits c.toNat ∧ item.bytes = String.utf8EncodeChar c := by
  simp only [codePoint?, hexChar?, Option.map_eq_some_iff, Option.bind_eq_some_iff] at h
  obtain ⟨c, ⟨n, hn, hc⟩, rfl⟩ := h
  rw [charOf?_eq_some_iff] at hc
  subst hc
  exact ⟨c, (number?_eq_some_iff (by decide)).1 hn, rfl⟩

theorem codePoint?_of_numeral {c : Char} (h : Numeral 16 digits c.toNat) :
    codePoint? digits = some (.char c) := by
  rw [codePoint?, hexChar?, (number?_eq_some_iff (by decide)).2 h, Option.bind_some,
    charOf?_eq_some_iff.2 rfl, Option.map_some]

theorem named?_eq_some {e c : Char} (h : named? e = some c) :
    ∃ b, (e, b) ∈ namedBytes ∧ String.utf8EncodeChar c = [b] := by
  unfold named? at h
  split at h
  case h_10 => cases h
  all_goals
    cases h
    exact ⟨_, by decide, rfl⟩

theorem named?_of_mem {e : Char} {b : UInt8} (h : (e, b) ∈ namedBytes) :
    ∃ c, named? e = some c ∧ String.utf8EncodeChar c = [b] := by
  simp only [namedBytes, List.mem_cons, Prod.mk.injEq, List.not_mem_nil, or_false] at h
  rcases h with h | h | h | h | h | h | h | h | h <;> obtain ⟨rfl, rfl⟩ := h <;> exact ⟨_, rfl, rfl⟩

end

theorem items?_octal {d₁ d₂ d₃ : Char} {item : Item} (h : byte? 8 [d₁, d₂, d₃] = some item)
    (rest : List Char) :
    items? ('\\' :: d₁ :: d₂ :: d₃ :: rest) = (items? rest).map (item :: ·) := by
  have hdigit : digitValue d₁ < 8 := by
    by_contra hd
    simp [byte?, number?, digit?, hd] at h
  have hnamed : named? d₁ = none := by
    unfold named?
    split
    case h_10 => rfl
    all_goals exact absurd hdigit (by decide)
  have hx : d₁ ≠ 'x' := fun he => absurd hdigit (by rw [he]; decide)
  have hu : d₁ ≠ 'u' := fun he => absurd hdigit (by rw [he]; decide)
  have hU : d₁ ≠ 'U' := fun he => absurd hdigit (by rw [he]; decide)
  rw [items?.eq_def]
  simp [hnamed, hx, hu, hU, h]

/-- A unit of the grammar is read as one unit, whatever follows. -/
theorem items?_spelled {unit : List Char} {bytes : List UInt8} (h : Spelled unit bytes) :
    ∃ item : Item, item.bytes = bytes ∧
      ∀ rest, items? (unit ++ rest) = (items? rest).map (item :: ·) := by
  cases h with
  | @plain c hq hb hn => exact ⟨.char c, rfl, items?_plain hq hb hn⟩
  | named he =>
    obtain ⟨c, hc, hbytes⟩ := named?_of_mem he
    exact ⟨.char c, hbytes, items?_named hc⟩
  | @hex d₁ d₂ n hn =>
    have hlt : n < 256 := hn.lt_pow
    exact ⟨_, rfl, items?_byte (byte?_of_numeral (by decide) hn (Nat.le_of_lt_succ hlt))⟩
  | octal hn hle => exact ⟨_, rfl, items?_octal (byte?_of_numeral (by decide) hn hle)⟩
  | short hn => exact ⟨_, rfl, items?_short (codePoint?_of_numeral hn)⟩
  | long hn => exact ⟨_, rfl, items?_long (codePoint?_of_numeral hn)⟩

theorem exists_items? {body : List Char} {bytes : List UInt8} (h : Body body bytes) :
    ∃ items, items? body = some items ∧ items.flatMap Item.bytes = bytes := by
  induction h with
  | nil => exact ⟨[], rfl, rfl⟩
  | @cons unit body first bytes hunit _ ih =>
    obtain ⟨item, hitem, hread⟩ := items?_spelled hunit
    obtain ⟨items, hitems, hbytes⟩ := ih
    refine ⟨item :: items, ?_, ?_⟩
    · rw [hread, hitems, Option.map_some]
    · rw [List.flatMap_cons, hitem, hbytes]

/-- A unit in front of a body, with the item that is read for it. -/
theorem body_cons {unit rest : List Char} {bytes : List UInt8} {item : Item} {items : List Item}
    (hunit : Spelled unit bytes) (hitem : item.bytes = bytes)
    (hrest : ∀ {items}, items? rest = some items → Body rest (items.flatMap Item.bytes))
    (h : (items? rest).map (item :: ·) = some items) :
    Body (unit ++ rest) (items.flatMap Item.bytes) := by
  obtain ⟨tail, htail, rfl⟩ := Option.map_eq_some_iff.1 h
  rw [List.flatMap_cons, hitem]
  exact .cons hunit (hrest htail)

/-- The units that are read are those of the grammar. -/
theorem body_of_items? {body : List Char} {items : List Item} (h : items? body = some items) :
    Body body (items.flatMap Item.bytes) := by
  fun_induction items? body generalizing items with
  | case1 =>
    cases h
    exact .nil
  | case3 c rest hc hb ih =>
    rw [not_or] at hc
    exact body_cons (.plain hc.1 hb hc.2) rfl ih h
  | case5 c _ hb e rest named he ih =>
    obtain rfl := not_not.1 hb
    obtain ⟨b, hmem, hbytes⟩ := named?_eq_some he
    have hitem : (Item.char named).bytes = [b] := hbytes
    exact body_cons (.named hmem) hitem ih h
  | case6 c _ hb d₁ d₂ rest _ ih =>
    obtain rfl := not_not.1 hb
    obtain ⟨item, hitem, h⟩ := Option.bind_eq_some_iff.1 h
    obtain ⟨n, hn, -, hbytes⟩ := byte?_eq_some (by decide) hitem
    exact body_cons (.hex hn) hbytes ih h
  | case8 c _ hb d₁ d₂ d₃ d₄ rest _ _ ih =>
    obtain rfl := not_not.1 hb
    obtain ⟨item, hitem, h⟩ := Option.bind_eq_some_iff.1 h
    obtain ⟨code, hn, hbytes⟩ := codePoint?_eq_some hitem
    exact body_cons (.short hn) hbytes ih h
  | case10 c _ hb d₁ d₂ d₃ d₄ d₅ d₆ d₇ d₈ rest _ _ _ ih =>
    obtain rfl := not_not.1 hb
    obtain ⟨item, hitem, h⟩ := Option.bind_eq_some_iff.1 h
    obtain ⟨code, hn, hbytes⟩ := codePoint?_eq_some hitem
    exact body_cons (.long hn) hbytes ih h
  | case12 c _ hb d₁ _ _ _ _ d₂ d₃ rest ih =>
    obtain rfl := not_not.1 hb
    obtain ⟨item, hitem, h⟩ := Option.bind_eq_some_iff.1 h
    obtain ⟨n, hn, hle, hbytes⟩ := byte?_eq_some (by decide) hitem
    exact body_cons (.octal hn hle) hbytes ih h
  | case2 | case4 | case7 | case9 | case11 | case13 => cases h

/-! ## Literals -/

theorem decodeQuoted?_eq_some_iff {body value : List Char} :
    decodeQuoted? body = some value ↔ Body body (Text.encode value) := by
  simp only [decodeQuoted?, Option.bind_eq_bind, Option.bind_eq_some_iff, Text.decode?_eq_some_iff]
  constructor
  · rintro ⟨items, hitems, hbytes⟩
    exact hbytes ▸ body_of_items? hitems
  · exact exists_items?

theorem body?_eq_some_iff {delimiter : Char} {source body : List Char} :
    body? delimiter source = some body ↔ source = delimiter :: body ++ [delimiter] := by
  cases source with
  | nil => simp [body?]
  | cons c rest =>
    simp only [body?, Option.ite_none_right_eq_some, Option.some.injEq, List.cons_append,
      List.cons.injEq]
    constructor
    · rintro ⟨⟨rfl, hlast⟩, rfl⟩
      exact ⟨rfl, (List.dropLast_append_getLast? _ hlast).symm⟩
    · rintro ⟨rfl, rfl⟩
      simp

theorem decode?_eq_some_iff {source value : List Char} :
    decode? source = some value ↔ Denotes source value := by
  unfold decode?
  cases hraw : body? '\x60' source with
  | some body =>
    obtain rfl := body?_eq_some_iff.1 hraw
    simp only [decodeRaw?, Option.ite_none_left_eq_some, Option.some.injEq]
    constructor
    · rintro ⟨hbody, rfl⟩
      exact .raw (by simpa using hbody)
    · intro h
      generalize hsource : '\x60' :: body ++ ['\x60'] = source at h
      cases h with
      | @raw body' hbody =>
        obtain rfl : body = body' := by simpa using hsource
        exact ⟨by simpa using hbody, rfl⟩
      | quoted => simp at hsource
  | none =>
    simp only [Option.bind_eq_some_iff, decodeQuoted?_eq_some_iff, body?_eq_some_iff]
    constructor
    · rintro ⟨body, rfl, hbody⟩
      exact .quoted hbody
    · intro h
      cases h with
      | raw hbody => rw [body?_eq_some_iff.2 rfl] at hraw; cases hraw
      | quoted hbody => exact ⟨_, rfl, hbody⟩

/-! ## Numbers on the way -/

/-- The letters of the escapes that take digits, with the base and the number of digits. -/
def numericEscapes : List (List Char × Nat × Nat) :=
  [(['x'], 16, 2), ([], 8, 3), (['u'], 16, 4), (['U'], 16, 8)]

/-- Some digits are taken for one number while a body is read: everything before an escape is read,
and they are the first ones that the escape takes, perhaps not yet all of them. -/
def Takes (body : List Char) (base : Nat) (digits : List Char) : Prop :=
  ∃ front letter width rest, (letter, base, width) ∈ numericEscapes ∧ (items? front).isSome = true ∧
    body = front ++ '\\' :: letter ++ digits ++ rest ∧ digits.length ≤ width

theorem number?_lt_of_takes {body digits : List Char} {base n : Nat} (h : Takes body base digits)
    (hn : number? base digits = some n) : n < 2 ^ 32 := by
  obtain ⟨front, letter, width, rest, hescape, -, -, hlength⟩ := h
  have hwidths : ∀ e ∈ numericEscapes, 0 < e.2.1 ∧ e.2.1 ≤ 16 ∧ e.2.1 ^ e.2.2 ≤ 2 ^ 32 := by decide
  obtain ⟨hpos, hbase, hbound⟩ := hwidths _ hescape
  calc n < base ^ digits.length := ((number?_eq_some_iff hbase).1 hn).lt_pow
    _ ≤ base ^ width := Nat.pow_le_pow_right hpos hlength
    _ ≤ 2 ^ 32 := hbound

/-- **A literal has a value exactly if the grammar gives it that value**, and no number that is read
on the way, also in a literal that is refused, needs more than 32 bits. -/
theorem value?_exact (source value : String) :
    (value? source = some value ↔ Denotes source.toList value.toList) ∧
      ∀ body base digits n, source.toList = '"' :: body ++ ['"'] → Takes body base digits →
        number? base digits = some n → n < 2 ^ 32 := by
  refine ⟨?_, fun body base digits n _ htakes hn => number?_lt_of_takes htakes hn⟩
  rw [value?, Option.map_eq_some_iff, ← decode?_eq_some_iff]
  constructor
  · rintro ⟨chars, hchars, rfl⟩
    rwa [String.toList_ofList]
  · exact fun h => ⟨value.toList, h, String.ofList_toList⟩

/-- Two bytes that are one character together. -/
theorem value?_exact_twoBytes : Denotes "\"\\xc3\\251\"".toList "é".toList ∧ ∃ n,
    Text.number? 8 ['2', '5', '1'] = some n ∧ n < 2 ^ 32 := by
  have hnumber : Text.number? 8 ['2', '5', '1'] = some 169 := by decide
  refine ⟨(value?_exact _ _).1.1 (by decide +kernel), 169, hnumber, ?_⟩
  refine (value?_exact "\"\\xc3\\251\"" "é").2 ['\\', 'x', 'c', '3', '\\', '2', '5', '1'] 8
    ['2', '5', '1'] 169 (by decide) ⟨['\\', 'x', 'c', '3'], [], 3, [], ?_⟩ hnumber
  decide

end Literal

end LogStyle
