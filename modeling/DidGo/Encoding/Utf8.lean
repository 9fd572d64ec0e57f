import Mathlib.Data.List.Basic

namespace DidGo.Encoding

-- A Go string is the UTF-8 encoding of its runes; Lean strings hold only valid runes.
def runeError : Char := Char.ofNat 0xFFFD

def byte (n : Nat) : UInt8 := UInt8.ofNat n

-- utf8.EncodeRune, with the masks and shifts written as division and remainder.
def encodeRune (c : Char) : List UInt8 :=
  let n := c.toNat
  if n < 0x80 then [byte n]
  else if n < 0x800 then [byte (0xC0 + n / 64), byte (0x80 + n % 64)]
  else if n < 0x10000 then
    [byte (0xE0 + n / 4096), byte (0x80 + n / 64 % 64), byte (0x80 + n % 64)]
  else
    [byte (0xF0 + n / 262144), byte (0x80 + n / 4096 % 64), byte (0x80 + n / 64 % 64),
      byte (0x80 + n % 64)]

def utf8Encode (s : String) : List UInt8 :=
  s.toList.flatMap encodeRune

def runeSize (p0 : Nat) : Nat :=
  if 0xC2 ≤ p0 ∧ p0 ≤ 0xDF then 2
  else if 0xE0 ≤ p0 ∧ p0 ≤ 0xEF then 3
  else if 0xF0 ≤ p0 ∧ p0 ≤ 0xF4 then 4
  else 1

def acceptRange (p0 : Nat) : Nat × Nat :=
  if p0 = 0xE0 then (0xA0, 0xBF)
  else if p0 = 0xED then (0x80, 0x9F)
  else if p0 = 0xF0 then (0x90, 0xBF)
  else if p0 = 0xF4 then (0x80, 0x8F)
  else (0x80, 0xBF)

def isContinuation (b : UInt8) : Bool :=
  0x80 ≤ b.toNat && b.toNat ≤ 0xBF

def decodeRune : List UInt8 → Char × List UInt8
  | [] => (runeError, [])
  | b0 :: rest =>
    let p0 := b0.toNat
    let accept (b : UInt8) : Bool :=
      (acceptRange p0).1 ≤ b.toNat && b.toNat ≤ (acceptRange p0).2
    if p0 < 0x80 then (Char.ofNat p0, rest)
    else match runeSize p0, rest with
      | 2, b1 :: r =>
        if accept b1 then (Char.ofNat (p0 % 32 * 64 + b1.toNat % 64), r) else (runeError, rest)
      | 3, b1 :: b2 :: r =>
        if accept b1 && isContinuation b2 then
          (Char.ofNat (p0 % 16 * 4096 + b1.toNat % 64 * 64 + b2.toNat % 64), r)
        else (runeError, rest)
      | 4, b1 :: b2 :: b3 :: r =>
        if accept b1 && isContinuation b2 && isContinuation b3 then
          (Char.ofNat (p0 % 8 * 262144 + b1.toNat % 64 * 4096 + b2.toNat % 64 * 64 +
            b3.toNat % 64), r)
        else (runeError, rest)
      | _, _ => (runeError, rest)

-- utf16.Encode of one rune; a Lean character is never a surrogate.
def utf16Units (c : Char) : List Nat :=
  let n := c.toNat
  if n < 0x10000 then [n]
  else [0xD800 + (n - 0x10000) / 1024, 0xDC00 + (n - 0x10000) % 1024]

def utf16 (s : String) : List Nat :=
  s.toList.flatMap utf16Units

theorem char_valid (c : Char) : c.toNat < 0xD800 ∨ (0xDFFF < c.toNat ∧ c.toNat < 0x110000) :=
  c.valid

@[simp] theorem toNat_byte {n : Nat} (h : n < 256) : (byte n).toNat = n :=
  UInt8.toNat_ofNat_of_lt h

theorem ofNat_eq_of_toNat {c : Char} {n : Nat} (h : n = c.toNat) : Char.ofNat n = c := by
  rw [h, Char.ofNat_toNat]

theorem runeSize_two {p0 : Nat} (h1 : 0xC2 ≤ p0) (h2 : p0 ≤ 0xDF) : runeSize p0 = 2 :=
  if_pos ⟨h1, h2⟩

theorem runeSize_three {p0 : Nat} (h1 : 0xE0 ≤ p0) (h2 : p0 ≤ 0xEF) : runeSize p0 = 3 := by
  rw [runeSize, if_neg (by omega), if_pos ⟨h1, h2⟩]

theorem runeSize_four {p0 : Nat} (h1 : 0xF0 ≤ p0) (h2 : p0 ≤ 0xF4) : runeSize p0 = 4 := by
  rw [runeSize, if_neg (by omega), if_neg (by omega), if_pos ⟨h1, h2⟩]

theorem acceptRange_cases (p0 : Nat) :
    (p0 = 0xE0 ∧ acceptRange p0 = (0xA0, 0xBF)) ∨ (p0 = 0xED ∧ acceptRange p0 = (0x80, 0x9F)) ∨
      (p0 = 0xF0 ∧ acceptRange p0 = (0x90, 0xBF)) ∨ (p0 = 0xF4 ∧ acceptRange p0 = (0x80, 0x8F)) ∨
      acceptRange p0 = (0x80, 0xBF) := by
  unfold acceptRange
  split_ifs <;> simp_all

theorem decodeRune_encodeRune (c : Char) (rest : List UInt8) :
    decodeRune (encodeRune c ++ rest) = (c, rest) := by
  have hv := char_valid c
  simp only [encodeRune]
  split_ifs with h1 h2 h3
  · simp [decodeRune, h1, toNat_byte (show c.toNat < 256 by omega)]
  · have hs := runeSize_two (show 0xC2 ≤ 0xC0 + c.toNat / 64 by omega) (by omega)
    have ha : acceptRange (0xC0 + c.toNat / 64) = (0x80, 0xBF) := by
      rw [acceptRange, if_neg (by omega), if_neg (by omega), if_neg (by omega), if_neg (by omega)]
    simp only [List.cons_append, List.nil_append, decodeRune, toNat_byte (show 0xC0 + c.toNat / 64 < 256 by omega),
      toNat_byte (show 0x80 + c.toNat % 64 < 256 by omega), hs, ha]
    rw [if_neg (by omega), if_pos (by simp; omega)]
    exact Prod.ext (ofNat_eq_of_toNat (c := c) (by omega)) rfl
  · have hs := runeSize_three (show 0xE0 ≤ 0xE0 + c.toNat / 4096 by omega) (by omega)
    have ha : (acceptRange (0xE0 + c.toNat / 4096)).1 ≤ 0x80 + c.toNat / 64 % 64 ∧
        0x80 + c.toNat / 64 % 64 ≤ (acceptRange (0xE0 + c.toNat / 4096)).2 := by
      rcases acceptRange_cases (0xE0 + c.toNat / 4096) with ⟨_, h⟩ | ⟨_, h⟩ | ⟨_, h⟩ | ⟨_, h⟩ | h <;>
        rw [h] <;> omega
    simp only [List.cons_append, List.nil_append, decodeRune, hs, isContinuation,
      toNat_byte (show 0xE0 + c.toNat / 4096 < 256 by omega),
      toNat_byte (show 0x80 + c.toNat / 64 % 64 < 256 by omega),
      toNat_byte (show 0x80 + c.toNat % 64 < 256 by omega)]
    rw [if_neg (by omega), if_pos (by simp only [Bool.and_eq_true, decide_eq_true_eq]; omega)]
    exact Prod.ext (ofNat_eq_of_toNat (c := c) (by omega)) rfl
  · have hs := runeSize_four (show 0xF0 ≤ 0xF0 + c.toNat / 262144 by omega) (by omega)
    have ha : (acceptRange (0xF0 + c.toNat / 262144)).1 ≤ 0x80 + c.toNat / 4096 % 64 ∧
        0x80 + c.toNat / 4096 % 64 ≤ (acceptRange (0xF0 + c.toNat / 262144)).2 := by
      rcases acceptRange_cases (0xF0 + c.toNat / 262144) with ⟨_, h⟩ | ⟨_, h⟩ | ⟨_, h⟩ | ⟨_, h⟩ | h <;>
        rw [h] <;> omega
    simp only [List.cons_append, List.nil_append, decodeRune, hs, isContinuation,
      toNat_byte (show 0xF0 + c.toNat / 262144 < 256 by omega),
      toNat_byte (show 0x80 + c.toNat / 4096 % 64 < 256 by omega),
      toNat_byte (show 0x80 + c.toNat / 64 % 64 < 256 by omega),
      toNat_byte (show 0x80 + c.toNat % 64 < 256 by omega)]
    rw [if_neg (by omega), if_pos (by simp only [Bool.and_eq_true, decide_eq_true_eq]; omega)]
    exact Prod.ext (ofNat_eq_of_toNat (c := c) (by omega)) rfl

end DidGo.Encoding
