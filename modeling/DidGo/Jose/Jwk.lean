import Mathlib.Data.Nat.Digits
import DidGo.Json.Value

namespace DidGo.Jose
open DidGo.Json

def bigEndian (bs : List UInt8) : Nat := Nat.ofDigits 256 (bs.reverse.map UInt8.toNat)

def bigIntBytes (n : Nat) : List UInt8 := ((Nat.digits 256 n).map UInt8.ofNat).reverse

structure ByteBuffer where
  data : List UInt8
  deriving DecidableEq, Repr, Inhabited

def newBuffer (data : List UInt8) : ByteBuffer := ⟨data⟩

def newFixedSizeBuffer (data : List UInt8) (length : Nat) : Go ByteBuffer :=
  if data.length > length then
    throw (.panic "go-jose/go-jose: invalid call to newFixedSizeBuffer (len(data) > length)")
  else pure (newBuffer (List.replicate (length - data.length) 0 ++ data))

def ByteBuffer.bytes : Option ByteBuffer → Go (List UInt8)
  | some b => pure b.data
  | none => throw nilDereference

def ByteBuffer.bigInt : Option ByteBuffer → Go Nat
  | some b => pure (bigEndian b.data)
  | none => throw nilDereference

structure JWK where
  use : String := ""
  kty : String := ""
  keyID : String := ""
  crv : String := ""
  alg : String := ""
  k : Option ByteBuffer := none
  x : Option ByteBuffer := none
  y : Option ByteBuffer := none
  n : Option ByteBuffer := none
  e : Option ByteBuffer := none
  d : Option ByteBuffer := none
  p : Option ByteBuffer := none
  q : Option ByteBuffer := none
  dp : Option ByteBuffer := none
  dq : Option ByteBuffer := none
  qi : Option ByteBuffer := none
  x5c : List String := []
  x5u : String := ""
  x5tSHA1 : String := ""
  x5tSHA256 : String := ""
  deriving DecidableEq, Repr

theorem digits_lt_256 {n d : Nat} (h : d ∈ Nat.digits 256 n) : d < 256 :=
  Nat.digits_lt_base (by norm_num) h

theorem bigEndian_bigIntBytes (n : Nat) : bigEndian (bigIntBytes n) = n := by
  have h : ∀ d ∈ Nat.digits 256 n, (UInt8.ofNat d).toNat = d := fun d hd =>
    UInt8.toNat_ofNat_of_lt (digits_lt_256 hd)
  simp only [bigEndian, bigIntBytes, List.reverse_reverse, List.map_map, Function.comp_def]
  rw [List.map_congr_left h, List.map_id', Nat.ofDigits_digits]

theorem bigEndian_zeros_append (k : Nat) (bs : List UInt8) :
    bigEndian (List.replicate k 0 ++ bs) = bigEndian bs := by
  have h : Nat.ofDigits 256 (List.replicate k 0) = 0 := by
    induction k with
    | zero => rfl
    | succ k ih => simp [List.replicate_succ, Nat.ofDigits_cons, ih]
  simp [bigEndian, Nat.ofDigits_append, h]

theorem length_bigIntBytes_le_iff (n size : Nat) :
    (bigIntBytes n).length ≤ size ↔ n < 256 ^ size := by
  simp only [bigIntBytes, List.length_reverse, List.length_map]
  rcases Nat.eq_zero_or_pos n with rfl | hn
  · simp [Nat.pos_pow_of_pos]
  · rw [Nat.digits_len 256 n (by norm_num) hn.ne', Nat.lt_pow_iff_log_lt (by norm_num) hn.ne']
    omega

theorem ofDigits_256_inj : ∀ {l₁ l₂ : List Nat}, l₁.length = l₂.length → (∀ d ∈ l₁, d < 256) →
    (∀ d ∈ l₂, d < 256) → Nat.ofDigits 256 l₁ = Nat.ofDigits 256 l₂ → l₁ = l₂
  | [], [], _, _, _, _ => rfl
  | [], _ :: _, hlen, _, _, _ => absurd hlen (by simp)
  | _ :: _, [], hlen, _, _, _ => absurd hlen (by simp)
  | a :: l₁, b :: l₂, hlen, h₁, h₂, h => by
    simp only [Nat.ofDigits_cons, Nat.cast_id] at h
    have ha := h₁ a (List.mem_cons_self _ _)
    have hb := h₂ b (List.mem_cons_self _ _)
    obtain rfl : a = b := by omega
    rw [ofDigits_256_inj (by simpa using hlen) (fun d hd => h₁ d (List.mem_cons_of_mem _ hd))
      (fun d hd => h₂ d (List.mem_cons_of_mem _ hd)) (by omega)]

theorem bigEndian_inj {bs cs : List UInt8} (hlen : bs.length = cs.length) (h : bigEndian bs = bigEndian cs) :
    bs = cs := by
  have hdig : ∀ (l : List UInt8), ∀ d ∈ l.reverse.map UInt8.toNat, d < 256 := by
    intro l d hd
    obtain ⟨b, -, rfl⟩ := List.mem_map.mp hd
    exact b.toNat_lt_size
  have hm := ofDigits_256_inj (by simpa using hlen) (hdig bs) (hdig cs) h
  have := (List.map_injective_iff.mpr fun _ _ => UInt8.toNat.inj) hm
  simpa using congrArg List.reverse this

theorem bigEndian_lt (bs : List UInt8) : bigEndian bs < 256 ^ bs.length := by
  have h := Nat.ofDigits_lt_base_pow_length (b := 256) (l := bs.reverse.map UInt8.toNat) (by norm_num)
    fun d hd => by
      obtain ⟨b, -, rfl⟩ := List.mem_map.mp hd
      exact b.toNat_lt_size
  simpa only [bigEndian, List.length_map, List.length_reverse] using h

theorem pad_bigIntBytes_bigEndian (bs : List UInt8) :
    List.replicate (bs.length - (bigIntBytes (bigEndian bs)).length) 0 ++ bigIntBytes (bigEndian bs) = bs := by
  have hle := (length_bigIntBytes_le_iff _ _).2 (bigEndian_lt bs)
  refine bigEndian_inj ?_ (by rw [bigEndian_zeros_append, bigEndian_bigIntBytes])
  simp only [List.length_append, List.length_replicate]
  omega

end DidGo.Jose
