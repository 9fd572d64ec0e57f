import DidGo.Encoding.Utf8

namespace DidGo.Encoding

-- Modelled from the spec: the sidetree-core encoder package is not in the source tree. The spec fixes
-- base64url without padding; encoder.EncodeToString and encoder.DecodeString are Go's base64.RawURLEncoding,
-- whose decoder skips carriage returns and line feeds and ignores the unused low bits of a final partial
-- quantum.

def encodeURL : String := "ABCDEFGHIJKLMNOPQRSTUVWXYZabcdefghijklmnopqrstuvwxyz0123456789-_"

def encodeChar (v : Nat) : Char := encodeURL.toList.getD v 'A'

def decodeMap (b : UInt8) : Option Nat :=
  let n := b.toNat
  if 65 ≤ n ∧ n ≤ 90 then some (n - 65)
  else if 97 ≤ n ∧ n ≤ 122 then some (n - 71)
  else if 48 ≤ n ∧ n ≤ 57 then some (n + 4)
  else if n = 45 then some 62
  else if n = 95 then some 63
  else none

def encode : List UInt8 → List Char
  | a :: b :: c :: rest =>
    let v := a.toNat * 65536 + b.toNat * 256 + c.toNat
    [encodeChar (v / 262144), encodeChar (v / 4096 % 64), encodeChar (v / 64 % 64),
      encodeChar (v % 64)] ++ encode rest
  | [a, b] =>
    let v := a.toNat * 65536 + b.toNat * 256
    [encodeChar (v / 262144), encodeChar (v / 4096 % 64), encodeChar (v / 64 % 64)]
  | [a] =>
    let v := a.toNat * 65536
    [encodeChar (v / 262144), encodeChar (v / 4096 % 64)]
  | [] => []

def encodeToString (src : List UInt8) : String := ⟨encode src⟩

def corruptInputError (offset : Nat) : String :=
  "illegal base64 data at input byte " ++ toString offset

-- Encoding.decode, one decodeQuantum after another: si counts the bytes read and quantum holds the sextets of
-- the quantum being read (fewer than four).
def decodeQuanta (si : Nat) (quantum : List Nat) : List UInt8 → Except String (List UInt8)
  | [] =>
    match quantum with
    | [] => .ok []
    | [a, b] => .ok [byte ((a * 64 + b) / 16)]
    | [a, b, c] => .ok [byte ((a * 4096 + b * 64 + c) / 1024), byte ((a * 4096 + b * 64 + c) / 4 % 256)]
    | _ => .error (corruptInputError (si - quantum.length))
  | x :: rest =>
    match decodeMap x with
    | some v =>
      match quantum with
      | [a, b, c] =>
        let val := a * 262144 + b * 4096 + c * 64 + v
        ([byte (val / 65536), byte (val / 256 % 256), byte (val % 256)] ++ ·) <$>
          decodeQuanta (si + 1) [] rest
      | _ => decodeQuanta (si + 1) (quantum ++ [v]) rest
    | none =>
      if x.toNat = 10 ∨ x.toNat = 13 then decodeQuanta (si + 1) quantum rest
      else .error (corruptInputError si)

def decodeString (s : String) : Except String (List UInt8) :=
  decodeQuanta 0 [] (utf8Encode s)

theorem decodeMap_encodeChar_all : ∀ v < 64, decodeMap (byte (encodeChar v).toNat) = some v := by
  decide

theorem decodeMap_encodeChar {v : Nat} (h : v < 64) : decodeMap (byte (encodeChar v).toNat) = some v :=
  decodeMap_encodeChar_all v h

theorem encodeChar_lt_128 : ∀ v < 64, (encodeChar v).toNat < 128 := by
  decide

theorem encodeChar_ne_colon_all : ∀ v < 64, encodeChar v ≠ ':' := by
  decide

theorem encodeChar_ne_colon (v : Nat) : encodeChar v ≠ ':' := by
  by_cases h : v < 64
  · exact encodeChar_ne_colon_all v h
  · have hl : encodeURL.toList.length ≤ v := by
      rw [show encodeURL.toList.length = 64 from rfl]
      omega
    rw [encodeChar, List.getD_eq_getElem?_getD, List.getElem?_eq_none hl]
    decide

theorem toNat_lt_256 (b : UInt8) : b.toNat < 256 :=
  b.toNat_lt_size

theorem byte_toNat (b : UInt8) : byte b.toNat = b :=
  UInt8.toNat.inj (toNat_byte b.toNat_lt_size)

theorem encodeRune_encodeChar {v : Nat} (h : v < 64) :
    encodeRune (encodeChar v) = [byte (encodeChar v).toNat] := by
  simp [encodeRune, encodeChar_lt_128 v h]

theorem decodeQuanta_triple (si : Nat) (a b c : UInt8) (rest : List UInt8) :
    decodeQuanta si [] ((encode [a, b, c]).flatMap encodeRune ++ rest) =
      ([a, b, c] ++ ·) <$> decodeQuanta (si + 4) [] rest := by
  have ha := toNat_lt_256 a
  have hb := toNat_lt_256 b
  have hc := toNat_lt_256 c
  simp (disch := omega) only [encode, List.append_nil, List.flatMap_cons, List.flatMap_nil,
    encodeRune_encodeChar, List.cons_append, List.nil_append, decodeQuanta, decodeMap_encodeChar]
  have hv : ∀ v : Nat, v / 262144 * 262144 + v / 4096 % 64 * 4096 + v / 64 % 64 * 64 + v % 64 = v := by
    omega
  have h1 : (a.toNat * 65536 + b.toNat * 256 + c.toNat) / 65536 = a.toNat := by omega
  have h2 : (a.toNat * 65536 + b.toNat * 256 + c.toNat) / 256 % 256 = b.toNat := by omega
  have h3 : (a.toNat * 65536 + b.toNat * 256 + c.toNat) % 256 = c.toNat := by omega
  simp only [hv, h1, h2, h3, byte_toNat]

theorem decodeQuanta_encode : ∀ (src : List UInt8) (si : Nat),
    decodeQuanta si [] ((encode src).flatMap encodeRune) = .ok src
  | a :: b :: c :: rest, si => by
    have h : encode (a :: b :: c :: rest) = encode [a, b, c] ++ encode rest := rfl
    rw [h, List.flatMap_append, decodeQuanta_triple, decodeQuanta_encode rest]
    rfl
  | [a, b], si => by
    have ha := toNat_lt_256 a
    have hb := toNat_lt_256 b
    simp (disch := omega) only [encode, List.flatMap_cons, List.flatMap_nil, encodeRune_encodeChar,
      List.cons_append, List.nil_append, List.append_nil, decodeQuanta, decodeMap_encodeChar]
    have h1 : ((a.toNat * 65536 + b.toNat * 256) / 262144 * 4096 +
        (a.toNat * 65536 + b.toNat * 256) / 4096 % 64 * 64 +
        (a.toNat * 65536 + b.toNat * 256) / 64 % 64) / 1024 = a.toNat := by omega
    have h2 : ((a.toNat * 65536 + b.toNat * 256) / 262144 * 4096 +
        (a.toNat * 65536 + b.toNat * 256) / 4096 % 64 * 64 +
        (a.toNat * 65536 + b.toNat * 256) / 64 % 64) / 4 % 256 = b.toNat := by omega
    simp only [h1, h2, byte_toNat]
  | [a], si => by
    have ha := toNat_lt_256 a
    simp (disch := omega) only [encode, List.flatMap_cons, List.flatMap_nil, encodeRune_encodeChar,
      List.cons_append, List.nil_append, List.append_nil, decodeQuanta, decodeMap_encodeChar]
    have h1 : (a.toNat * 65536 / 262144 * 64 + a.toNat * 65536 / 4096 % 64) / 16 = a.toNat := by
      omega
    simp only [h1, byte_toNat]
  | [], si => rfl

theorem decodeString_encodeToString (src : List UInt8) :
    decodeString (encodeToString src) = .ok src :=
  decodeQuanta_encode src 0

theorem mem_encode : ∀ {src : List UInt8} {x : Char}, x ∈ encode src → ∃ v, x = encodeChar v
  | a :: b :: c :: rest, x, h => by
    simp only [encode, List.cons_append, List.mem_cons, List.nil_append] at h
    obtain rfl | rfl | rfl | rfl | h := h
    iterate 4 exact ⟨_, rfl⟩
    exact mem_encode h
  | [a, b], x, h => by
    simp only [encode, List.mem_cons, List.not_mem_nil, or_false] at h
    obtain rfl | rfl | rfl := h <;> exact ⟨_, rfl⟩
  | [a], x, h => by
    simp only [encode, List.mem_cons, List.not_mem_nil, or_false] at h
    obtain rfl | rfl := h <;> exact ⟨_, rfl⟩
  | [], x, h => absurd h (List.not_mem_nil x)

theorem colon_not_mem_encodeToString (src : List UInt8) : ':' ∉ (encodeToString src).toList := by
  intro h
  obtain ⟨v, hv⟩ := mem_encode h
  exact encodeChar_ne_colon v hv.symm

theorem encodeChar_mem (v : Nat) : encodeChar v ∈ encodeURL.toList := by
  rw [encodeChar, List.getD_eq_getElem?_getD]
  cases h : encodeURL.toList[v]? with
  | none => decide
  | some c => exact List.getElem?_mem h

theorem pad_not_mem_encodeToString (src : List UInt8) : '=' ∉ (encodeToString src).toList := fun h =>
  let ⟨v, hv⟩ := mem_encode h
  absurd (hv ▸ encodeChar_mem v) (by decide)

theorem encodeToString_cons_ne_empty (a : UInt8) (rest : List UInt8) : encodeToString (a :: rest) ≠ "" := by
  have h : encode (a :: rest) ≠ [] := by
    rcases rest with _ | ⟨b, _ | ⟨c, rest⟩⟩ <;> simp [encode]
  exact fun he => h (congrArg String.data he)

end DidGo.Encoding
