import Haml.Text.Quoted

/-!
# Bytes that are read as text

Files are read as UTF-8. A character is one byte below 0x80, or a start byte with one to three
continuation bytes after it. The range of the first continuation byte depends on the start byte, so
that no character has a second, longer form and neither surrogates nor numbers beyond the last code
point are read. The first byte that does not fit makes the whole unreadable, and the fault tells
where.
-/

namespace Haml.Utf8

/-- Why bytes are not the encoding of a text. -/
inductive Reason where
  /-- A byte that starts no character. -/
  | invalidStart
  /-- A byte that cannot stand after those before it. -/
  | invalidContinuation
  /-- A character of which bytes are missing at the end. -/
  | endOfData
deriving DecidableEq, Repr

/-- The text of a reason. -/
def Reason.text : Reason → Text
  | invalidStart => "invalid start byte".toList
  | invalidContinuation => "invalid continuation byte".toList
  | endOfData => "unexpected end of data".toList

/-- The first fault of bytes that are not the encoding of a text. -/
structure Fault where
  /-- Why they are not. -/
  reason : Reason
  /-- The position of the first byte of the character at fault. -/
  position : Nat
  /-- That byte. -/
  first : UInt8
  /-- How many bytes after it were read as a part of the same character. -/
  more : Nat
deriving DecidableEq, Repr

/-- The text of a fault. -/
def Fault.message (fault : Fault) : Text :=
  let bytes :=
    if fault.more == 0 then
      "byte 0x".toList ++ Text.hex 2 fault.first.toNat ++ " in position ".toList ++
        Text.ofNat fault.position
    else "bytes in position ".toList ++ Text.ofNat fault.position ++ '-' ::
      Text.ofNat (fault.position + fault.more)
  "'utf-8' codec can't decode ".toList ++ bytes ++ ": ".toList ++ fault.reason.text

/-- A character of which the first bytes have been read. -/
structure Pending where
  /-- Its first byte. -/
  first : UInt8
  /-- How many continuation bytes have been read. -/
  more : Nat
  /-- How many are missing after the next one. -/
  missing : Nat
  /-- The bits of the code point so far, as a number. -/
  code : Nat
  /-- The least value of the next byte. -/
  low : Nat
  /-- The greatest value of the next byte. -/
  high : Nat

/-- The character that a byte starts, if it starts one of more than one byte. -/
def start? (b : UInt8) : Option Pending :=
  let n := b.toNat
  if n < 0xC2 then none
  else if n < 0xE0 then some ⟨b, 0, 0, n - 0xC0, 0x80, 0xBF⟩
  else if n < 0xF0 then
    some ⟨b, 0, 1, n - 0xE0, if n = 0xE0 then 0xA0 else 0x80, if n = 0xED then 0x9F else 0xBF⟩
  else if n < 0xF5 then
    some ⟨b, 0, 2, n - 0xF0, if n = 0xF0 then 0x90 else 0x80, if n = 0xF4 then 0x8F else 0xBF⟩
  else none

/-- The text of the bytes from a position on, with a character of which the first bytes stand before
them. -/
def decodeFrom (position : Nat) (pending : Option Pending) : List UInt8 → Except Fault Text
  | [] =>
    match pending with
    | none => .ok []
    | some p => .error ⟨.endOfData, position, p.first, p.more⟩
  | b :: rest =>
    match pending with
    | none =>
      if b.toNat < 0x80 then
        (decodeFrom (position + 1) none rest).map (Char.ofNat b.toNat :: ·)
      else
        match start? b with
        | some p => decodeFrom position (some p) rest
        | none => .error ⟨.invalidStart, position, b, 0⟩
    | some p =>
      if p.low ≤ b.toNat ∧ b.toNat ≤ p.high then
        let code := 64 * p.code + (b.toNat - 0x80)
        match p.missing with
        | 0 => (decodeFrom (position + p.more + 2) none rest).map (Char.ofNat code :: ·)
        | missing + 1 =>
          decodeFrom position (some ⟨p.first, p.more + 1, missing, code, 0x80, 0xBF⟩) rest
      else .error ⟨.invalidContinuation, position, p.first, p.more⟩

/-- The text that bytes encode. -/
def decode (bytes : List UInt8) : Except Fault Text := decodeFrom 0 none bytes

/-- The bytes of a text. -/
def encode (t : Text) : List UInt8 := t.flatMap String.utf8EncodeChar

/-- A byte that fits in the last place of a character completes it. -/
theorem decodeFrom_last {p : Pending} {b : UInt8} (hlow : p.low ≤ b.toNat)
    (hhigh : b.toNat ≤ p.high) (hmissing : p.missing = 0) (position : Nat) (rest : List UInt8) :
    decodeFrom position (some p) (b :: rest) =
      (decodeFrom (position + p.more + 2) none rest).map
        (Char.ofNat (64 * p.code + (b.toNat - 0x80)) :: ·) := by
  simp [decodeFrom, hlow, hhigh, hmissing]

/-- A byte that fits in an earlier place is taken along. -/
theorem decodeFrom_further {p : Pending} {b : UInt8} {missing : Nat} (hlow : p.low ≤ b.toNat)
    (hhigh : b.toNat ≤ p.high) (hmissing : p.missing = missing + 1) (position : Nat)
    (rest : List UInt8) :
    decodeFrom position (some p) (b :: rest) =
      decodeFrom position (some ⟨p.first, p.more + 1, missing,
        64 * p.code + (b.toNat - 0x80), 0x80, 0xBF⟩) rest := by
  simp [decodeFrom, hlow, hhigh, hmissing]

/-- A start byte starts a character. -/
theorem decodeFrom_start {b : UInt8} {p : Pending} (h : 0x80 ≤ b.toNat)
    (hstart : start? b = some p) (position : Nat) (rest : List UInt8) :
    decodeFrom position none (b :: rest) = decodeFrom position (some p) rest := by
  simp [decodeFrom, Nat.not_lt.mpr h, hstart]

/-- The bytes of a character are read as the character, and what follows them after it. -/
theorem decodeFrom_utf8EncodeChar (c : Char) (position : Nat) (rest : List UInt8) :
    decodeFrom position none (String.utf8EncodeChar c ++ rest) =
      (decodeFrom (position + c.utf8Size) none rest).map (c :: ·) := by
  have hvalid : c.val.toNat < 0xD800 ∨ 0xDFFF < c.val.toNat ∧ c.val.toNat < 0x110000 := c.valid
  have hofNat (n : Nat) (h : n = c.val.toNat) : Char.ofNat n = c := by
    rw [h]
    exact Char.ofNat_toNat c
  have hbyte (n : Nat) (h : n < 256) : (UInt8.ofNat n).toNat = n := UInt8.toNat_ofNat_of_lt h
  rw [← String.length_utf8EncodeChar]
  generalize hv : c.val.toNat = v at hvalid hofNat
  rw [String.utf8EncodeChar, hv]
  split
  · have hb := hbyte v (by omega)
    simp only [List.singleton_append, decodeFrom, hb, List.length_singleton]
    rw [if_pos (by omega), hofNat v rfl]
  split
  · have h₁ := hbyte (v / 64 % 32 + 0xC0) (by omega)
    have h₂ := hbyte (v % 64 + 0x80) (by omega)
    rw [List.cons_append, decodeFrom_start (by omega)
        (by rw [start?, h₁, if_neg (by omega), if_pos (by omega)]), List.singleton_append,
      decodeFrom_last (by grind) (by grind) rfl, h₂, hofNat _ (by grind)]
    rfl
  split
  · have h₁ := hbyte (v / 4096 % 16 + 0xE0) (by omega)
    have h₂ := hbyte (v / 64 % 64 + 0x80) (by omega)
    have h₃ := hbyte (v % 64 + 0x80) (by omega)
    rw [List.cons_append, decodeFrom_start (by omega)
        (by rw [start?, h₁, if_neg (by omega), if_neg (by omega), if_pos (by omega)]),
      List.cons_append,
      decodeFrom_further (by grind) (by grind) rfl, List.singleton_append,
      decodeFrom_last (by grind) (by grind) rfl, h₂, h₃, hofNat _ (by grind)]
    rfl
  · have h₁ := hbyte (v / 262144 % 8 + 0xF0) (by omega)
    have h₂ := hbyte (v / 4096 % 64 + 0x80) (by omega)
    have h₃ := hbyte (v / 64 % 64 + 0x80) (by omega)
    have h₄ := hbyte (v % 64 + 0x80) (by omega)
    rw [List.cons_append, decodeFrom_start (by omega)
        (by rw [start?, h₁, if_neg (by omega), if_neg (by omega), if_neg (by omega),
          if_pos (by omega)]),
      List.cons_append,
      decodeFrom_further (by grind) (by grind) rfl, List.cons_append,
      decodeFrom_further (by grind) (by grind) rfl, List.singleton_append,
      decodeFrom_last (by grind) (by grind) rfl, h₂, h₃, h₄, hofNat _ (by grind)]
    rfl

/-- The bytes of a text are read as the text. -/
theorem decode_encode (t : Text) : decode (encode t) = .ok t := by
  have hfrom (position : Nat) : decodeFrom position none (encode t) = .ok t := by
    induction t generalizing position with
    | nil => rfl
    | cons c rest ih =>
      rw [encode, List.flatMap_cons, decodeFrom_utf8EncodeChar, ← encode, ih]
      rfl
  exact hfrom 0

end Haml.Utf8
