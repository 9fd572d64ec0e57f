import DidGo.Json.Struct
import DidGo.Jose.Jwk
import DidGo.Encoding.Base64
import Mathlib.Data.Nat.Size

namespace DidGo.Jws
open DidGo.Json DidGo.Encoding

-- a Go string is kept as its bytes, which need not be valid UTF-8
abbrev GoString := List UInt8

-- for range over a Go string reads an invalid byte as RuneError; fuel bounds the bytes left
def runesFuel : Nat → GoString → List Char
  | fuel + 1, b :: bs => (decodeRune (b :: bs)).1 :: runesFuel fuel (decodeRune (b :: bs)).2
  | _, _ => []

def runeString (s : GoString) : String := ⟨runesFuel s.length s⟩

def replaceInvalid (s : GoString) : GoString := utf8Encode (runeString s)

def secp256k1Crv : GoString := utf8Encode "secp256k1"

def secp256k1Kty : GoString := utf8Encode "EC"

def secp256k1Size : Nat := 32

def bitsPerByte : Nat := 8

structure CurveParams where
  p : Nat
  bitSize : Nat
  deriving DecidableEq, Repr

def s256 : CurveParams := ⟨2 ^ 256 - 2 ^ 32 - 977, 256⟩

def s256N : Nat := 0xFFFFFFFFFFFFFFFFFFFFFFFFFFFFFFFEBAAEDCE6AF48A03BBFD25E8CD0364141

def s256Gx : Int := 0x79BE667EF9DCBBAC55A06295CE870B07029BFCDB2DCE28D959F2815B16F81798

def s256Gy : Int := 0x483ADA7726A3C4655DA4FBFC0E1108A8FD17B448A68554199C47D08FFB10D4B8

-- btcec's field arithmetic is modulo P
def isOnCurve (x y : Nat) : Bool := y * y % s256.p == (x * x * x + 7) % s256.p

def curveSize (crv : CurveParams) : Nat :=
  let bits := crv.bitSize
  let div := bits / bitsPerByte
  let mod := bits % bitsPerByte
  if mod = 0 then div else div + 1

def dSize (curve : CurveParams) : Nat :=
  let bitLen := curve.p.size
  let size := bitLen / bitsPerByte
  if bitLen % bitsPerByte ≠ 0 then size + 1 else size

-- a nil pointer, interface or *big.Int is none
structure EcdsaPublicKey where
  curve : Option CurveParams
  x : Option Int
  y : Option Int
  deriving DecidableEq, Repr

structure EcdsaPrivateKey where
  publicKey : EcdsaPublicKey
  d : Option Int
  deriving DecidableEq, Repr

-- the dynamic type of the interface{} a JWK's Key holds, as a type switch tells them apart
inductive Key where
  | publicKey (k : Option EcdsaPublicKey)
  | privateKey (k : Option EcdsaPrivateKey)
  | other (type : String)
  | nil
  deriving DecidableEq, Repr

def Key.ofPublic (curve : CurveParams) (x y : Int) : Key := .publicKey (some ⟨some curve, some x, some y⟩)

def Key.ofPrivate (curve : CurveParams) (x y d : Int) : Key :=
  .privateKey (some ⟨⟨some curve, some x, some y⟩, some d⟩)

def deref {α : Type} : Option α → Go α
  | some a => pure a
  | none => throw nilDereference

@[simp] theorem deref_some {α : Type} (a : α) : deref (some a) = .ok a := rfl

structure JSONWebKey where
  key : Key
  keyID : GoString
  algorithm : GoString
  use : GoString
  deriving DecidableEq, Repr

structure JWK where
  jsonWebKey : JSONWebKey
  kty : GoString
  crv : GoString
  deriving DecidableEq, Repr

structure ByteBuffer where
  data : List UInt8
  deriving DecidableEq, Repr

def ByteBuffer.base64 (b : ByteBuffer) : String := encodeToString b.data

def ByteBuffer.bigInt (b : ByteBuffer) : Nat := Jose.bigEndian b.data

def ByteBuffer.unmarshalJSON (b : ByteBuffer) (data : Raw) : Except String ByteBuffer := do
  let encoded ← decodeStringField "string" {} "" data
  if encoded = "" then pure b else ByteBuffer.mk <$> decodeString encoded

-- make panics on the negative length a too long input gives
def newFixedSizeBuffer (data : List UInt8) (length : Nat) : Go ByteBuffer :=
  if data.length > length then throw (.panic "runtime error: makeslice: len out of range")
  else pure ⟨List.replicate (length - data.length) 0 ++ data⟩

structure JsonWebKey where
  use : GoString := []
  kty : GoString := []
  kid : GoString := []
  crv : GoString := []
  alg : GoString := []
  x : Option ByteBuffer := none
  y : Option ByteBuffer := none
  d : Option ByteBuffer := none
  deriving DecidableEq, Repr

def goStringValue (s : GoString) : Option Raw :=
  if s = [] then none else some (.string (runeString s))

def bufferValue (b : Option ByteBuffer) : Option Raw :=
  b.map fun b => .string b.base64

def JsonWebKey.members (k : JsonWebKey) : List (String × Raw) :=
  optionalMember "use" (goStringValue k.use) ++ optionalMember "kty" (goStringValue k.kty) ++
    optionalMember "kid" (goStringValue k.kid) ++ optionalMember "crv" (goStringValue k.crv) ++
    optionalMember "alg" (goStringValue k.alg) ++ optionalMember "x" (bufferValue k.x) ++
    optionalMember "y" (bufferValue k.y) ++ optionalMember "d" (bufferValue k.d)

def JsonWebKey.marshal (k : JsonWebKey) : List UInt8 :=
  utf8 (writeValue (.object k.members))

-- go-jose's json is encoding/json as of Go 1.6: a number stored into a string fails at once, a
-- bool, array or object leaves the field and its type error is saved for the end
def decodeGoString (current : GoString) : Raw → Except String (GoString × Option String)
  | .string s => .ok (utf8Encode s, none)
  | .null => .ok (current, none)
  | .number _ => .error (unmarshalTypeError "number" "string" {})
  | x => .ok (current, some (unmarshalTypeError x.kind "string" {}))

def decodeBuffer (current : Option ByteBuffer) : Raw → Except String (Option ByteBuffer) :=
  decodePointer ⟨[]⟩ ByteBuffer.unmarshalJSON current

def JsonWebKey.storeMember (k : JsonWebKey) : String → Raw → Except String (JsonWebKey × Option String)
  | "use", v => (fun (s, e) => ({ k with use := s }, e)) <$> decodeGoString k.use v
  | "kty", v => (fun (s, e) => ({ k with kty := s }, e)) <$> decodeGoString k.kty v
  | "kid", v => (fun (s, e) => ({ k with kid := s }, e)) <$> decodeGoString k.kid v
  | "crv", v => (fun (s, e) => ({ k with crv := s }, e)) <$> decodeGoString k.crv v
  | "alg", v => (fun (s, e) => ({ k with alg := s }, e)) <$> decodeGoString k.alg v
  | "x", v => (fun b => ({ k with x := b }, none)) <$> decodeBuffer k.x v
  | "y", v => (fun b => ({ k with y := b }, none)) <$> decodeBuffer k.y v
  | "d", v => (fun b => ({ k with d := b }, none)) <$> decodeBuffer k.d v
  | _, _ => .ok (k, none)

def duplicateKey (key : String) : String := "json: duplicate key \x27" ++ key ++ "\x27 in object"

-- the fork's object decoder: a name seen before fails at once, the first saved error is returned
-- once every member is stored
def JsonWebKey.decodeMembers (k : JsonWebKey) (seen : List String) (saved : Option String) :
    List (String × Raw) → Except String JsonWebKey
  | [] =>
    match saved with
    | some e => .error e
    | none => .ok k
  | (name, v) :: rest =>
    if name ∈ seen then .error (duplicateKey name)
    else k.storeMember name v >>= fun (k', e) => k'.decodeMembers (name :: seen) (saved.or e) rest

def unmarshalJsonWebKey (jwkBytes : List UInt8) : Except String JsonWebKey := do
  match ← parseTextUnbounded jwkBytes with
  | .object ms => ({} : JsonWebKey).decodeMembers [] none ms
  | .null => pure {}
  | x => throw (unmarshalTypeError x.kind "jws.jsonWebKey" {})

def intBytes (n : Int) : List UInt8 := Jose.bigIntBytes n.natAbs

def keyMembers : Key → Go JsonWebKey
  | .publicKey k => do
    let k ← deref k
    let bx ← newFixedSizeBuffer (intBytes (← deref k.x)) secp256k1Size
    let byy ← newFixedSizeBuffer (intBytes (← deref k.y)) secp256k1Size
    pure { kty := secp256k1Kty, crv := secp256k1Crv, x := some bx, y := some byy }
  | .privateKey k => do
    let k ← deref k
    let bx ← newFixedSizeBuffer (intBytes (← deref k.publicKey.x)) secp256k1Size
    let byy ← newFixedSizeBuffer (intBytes (← deref k.publicKey.y)) secp256k1Size
    let bd ← newFixedSizeBuffer (intBytes (← deref k.d)) (dSize (← deref k.publicKey.curve))
    pure { kty := secp256k1Kty, crv := secp256k1Crv, x := some bx, y := some byy, d := some bd }
  | .other _ => pure {}
  | .nil => pure {}

theorem keyMembers_ofPublic (curve : CurveParams) (x y : Int) :
    keyMembers (.ofPublic curve x y) = (do
      let bx ← newFixedSizeBuffer (intBytes x) secp256k1Size
      let byy ← newFixedSizeBuffer (intBytes y) secp256k1Size
      pure { kty := secp256k1Kty, crv := secp256k1Crv, x := some bx, y := some byy }) := by
  simp only [keyMembers, Key.ofPublic, deref_some, Go.bind_ok]

theorem keyMembers_ofPrivate (curve : CurveParams) (x y d : Int) :
    keyMembers (.ofPrivate curve x y d) = (do
      let bx ← newFixedSizeBuffer (intBytes x) secp256k1Size
      let byy ← newFixedSizeBuffer (intBytes y) secp256k1Size
      let bd ← newFixedSizeBuffer (intBytes d) (dSize curve)
      pure { kty := secp256k1Kty, crv := secp256k1Crv, x := some bx, y := some byy, d := some bd }) := by
  simp only [keyMembers, Key.ofPrivate, deref_some, Go.bind_ok]

def marshalSecp256k1 (jwk : JWK) : Go (List UInt8) := do
  let raw ← keyMembers jwk.jsonWebKey.key
  pure (JsonWebKey.marshal
    { raw with kid := jwk.jsonWebKey.keyID, alg := jwk.jsonWebKey.algorithm, use := jwk.jsonWebKey.use })

def errInvalidKey : String := "invalid JWK"

def unmarshalSecp256k1 (jwk : JsonWebKey) : Except String JWK := do
  let some x := jwk.x | throw errInvalidKey
  let some y := jwk.y | throw errInvalidKey
  let curve := s256
  check (curveSize curve == x.data.length) errInvalidKey
  check (curveSize curve == y.data.length) errInvalidKey
  check (jwk.d.all fun d => dSize curve == d.data.length) errInvalidKey
  check (isOnCurve x.bigInt y.bigInt) errInvalidKey
  let key := match jwk.d with
    | some d => Key.ofPrivate curve x.bigInt y.bigInt d.bigInt
    | none => Key.ofPublic curve x.bigInt y.bigInt
  pure ⟨⟨key, jwk.kid, jwk.alg, jwk.use⟩, [], []⟩

-- strings.EqualFold, and go-jose's JSONWebKey methods for every key that is not secp256k1
structure Library where
  equalFold : GoString → GoString → Bool
  equalFold_self : ∀ s, equalFold s s = true
  marshalJose : JSONWebKey → Except String (List UInt8)
  unmarshalJose : List UInt8 → Except String JSONWebKey

def isSecp256k1 (lib : Library) (kty crv : GoString) : Bool :=
  lib.equalFold kty secp256k1Kty && lib.equalFold crv secp256k1Crv

def JWK.marshalJSON (lib : Library) (j : JWK) : Go (List UInt8) :=
  if isSecp256k1 lib j.kty j.crv then marshalSecp256k1 j else liftError (lib.marshalJose j.jsonWebKey)

def JWK.unmarshalJSON (lib : Library) (jwkBytes : List UInt8) : Except String JWK := do
  let key ← (unmarshalJsonWebKey jwkBytes).mapError ("unable to read JWK: " ++ ·)
  let j ← if isSecp256k1 lib key.kty key.crv then
      (unmarshalSecp256k1 key).mapError ("unable to read JWK: " ++ ·)
    else (fun joseJWK => ⟨joseJWK, [], []⟩) <$>
      (lib.unmarshalJose jwkBytes).mapError ("unable to read jose JWK, " ++ ·)
  pure { j with kty := key.kty, crv := key.crv }

def OnCurve (x y : Int) : Prop :=
  0 ≤ x ∧ x < s256.p ∧ 0 ≤ y ∧ y < s256.p ∧ isOnCurve x.natAbs y.natAbs = true

instance (x y : Int) : Decidable (OnCurve x y) :=
  inferInstanceAs (Decidable (0 ≤ x ∧ x < s256.p ∧ 0 ≤ y ∧ y < s256.p ∧ isOnCurve x.natAbs y.natAbs = true))

def Key.Secp256k1 : Key → Prop
  | .publicKey (some ⟨some curve, some x, some y⟩) => curve = s256 ∧ OnCurve x y
  | .privateKey (some ⟨⟨some curve, some x, some y⟩, some d⟩) => curve = s256 ∧ OnCurve x y ∧ 0 < d ∧ d < s256N
  | _ => False

instance : DecidablePred Key.Secp256k1 := fun key => by
  unfold Key.Secp256k1
  split <;> infer_instance

theorem Key.Secp256k1.elim {key : Key} (h : key.Secp256k1) :
    (∃ x y, key = .ofPublic s256 x y ∧ OnCurve x y) ∨
      ∃ x y d, key = .ofPrivate s256 x y d ∧ OnCurve x y ∧ 0 < d ∧ d < s256N := by
  unfold Key.Secp256k1 at h
  split at h
  · obtain ⟨rfl, h⟩ := h
    exact .inl ⟨_, _, rfl, h⟩
  · obtain ⟨rfl, h⟩ := h
    exact .inr ⟨_, _, _, rfl, h⟩
  · exact h.elim

def sampleLibrary : Library :=
  ⟨(· == ·), fun s => beq_self_eq_true s, fun _ => .error "unsupported key", fun _ => .error "unsupported key"⟩

theorem runesFuel_utf8 (cs : List Char) : ∀ fuel, cs.length ≤ fuel → runesFuel fuel (utf8 cs) = cs := by
  induction cs with
  | nil => intro fuel _; cases fuel <;> rfl
  | cons c cs ih =>
    intro fuel h
    obtain ⟨f, rfl⟩ : ∃ f, fuel = f + 1 := ⟨fuel - 1, by simp at h; omega⟩
    obtain ⟨b, bs, hb⟩ := encodeRune_eq_cons c
    have hd := decodeRune_encodeRune c (utf8 cs)
    rw [hb, List.cons_append] at hd
    rw [utf8_cons, hb, List.cons_append, runesFuel, hd, ih f (by simp at h; omega)]

@[simp] theorem runeString_utf8Encode (s : String) : runeString (utf8Encode s) = s :=
  congrArg String.mk (runesFuel_utf8 s.toList _ (length_le_utf8 _))

@[simp] theorem replaceInvalid_utf8Encode (s : String) : replaceInvalid (utf8Encode s) = utf8Encode s := by
  rw [replaceInvalid, runeString_utf8Encode]

theorem ByteBuffer.unmarshalJSON_base64 (b : ByteBuffer) :
    (⟨[]⟩ : ByteBuffer).unmarshalJSON (.string b.base64) = .ok b := by
  obtain ⟨_ | ⟨a, rest⟩⟩ := b
  · rfl
  · simp only [ByteBuffer.unmarshalJSON, ByteBuffer.base64, decodeStringField, Except.ok_bind,
      if_neg (encodeToString_cons_ne_empty a rest),
      decodeString_encodeToString, Except.map_ok]

@[simp] theorem decodeBuffer_null (current : Option ByteBuffer) : decodeBuffer current .null = .ok none :=
  rfl

theorem decodeBuffer_base64 (b : Option ByteBuffer) :
    decodeBuffer none (b.elim .null fun b => .string b.base64) = .ok b := by
  cases b with
  | none => rfl
  | some b =>
    rw [Option.elim, decodeBuffer, decodePointer_of_ne_null (by simp), Option.getD_none,
      ByteBuffer.unmarshalJSON_base64, Except.map_ok]

-- the decoder's loop on an object whose names are all distinct
def JsonWebKey.storeMembers (k : JsonWebKey) (saved : Option String) :
    List (String × Raw) → Except String JsonWebKey
  | [] =>
    match saved with
    | some e => .error e
    | none => .ok k
  | (name, v) :: rest => k.storeMember name v >>= fun (k', e) => k'.storeMembers (saved.or e) rest

theorem JsonWebKey.decodeMembers_of_nodup : ∀ {k : JsonWebKey} {seen : List String} {saved : Option String}
    {ms : List (String × Raw)}, (ms.map Prod.fst).Nodup → (∀ p ∈ ms, p.1 ∉ seen) →
      k.decodeMembers seen saved ms = k.storeMembers saved ms
  | _, _, _, [], _, _ => rfl
  | k, seen, saved, (name, v) :: rest, hd, hs => by
    rw [List.map_cons, List.nodup_cons] at hd
    have hrest : ∀ p ∈ rest, p.1 ∉ name :: seen := fun p hp hmem =>
      (List.mem_cons.mp hmem).elim (fun h => hd.1 (List.mem_map.mpr ⟨p, hp, h⟩))
        (hs p (List.mem_cons_of_mem _ hp))
    rw [JsonWebKey.decodeMembers, if_neg (hs _ (List.mem_cons_self _ _)), JsonWebKey.storeMembers]
    congr 1
    funext ⟨k', e⟩
    exact decodeMembers_of_nodup hd.2 hrest

theorem JsonWebKey.members_nodup (k : JsonWebKey) : (k.members.map Prod.fst).Nodup := by
  have h : ∀ name (v : Option Raw), List.Sublist ((optionalMember name v).map Prod.fst) [name] := by
    intro name v
    cases v <;> simp [optionalMember]
  simp only [JsonWebKey.members, List.map_append]
  exact ((((((((h _ _).append (h _ _)).append (h _ _)).append (h _ _)).append (h _ _)).append (h _ _)).append
    (h _ _)).append (h _ _)).nodup (by decide)

theorem storeMembers_goStringValue {k : JsonWebKey} {name : String}
    (hnil : k.storeMember name (.string "") = .ok (k, none)) (v : GoString) (rest : List (String × Raw)) :
    k.storeMembers none (optionalMember name (goStringValue v) ++ rest) =
      k.storeMember name (.string (runeString v)) >>= fun (k', e) => k'.storeMembers e rest := by
  unfold goStringValue
  split_ifs with hv
  · subst hv
    rw [show runeString [] = "" from rfl, hnil]
    rfl
  · rfl

theorem storeMembers_bufferValue {k : JsonWebKey} {name : String}
    (hnull : k.storeMember name .null = .ok (k, none)) (b : Option ByteBuffer) (rest : List (String × Raw)) :
    k.storeMembers none (optionalMember name (bufferValue b) ++ rest) =
      k.storeMember name (b.elim .null fun b => .string b.base64) >>= fun (k', e) => k'.storeMembers e rest := by
  cases b with
  | none => rw [Option.elim, hnull]; rfl
  | some b => rfl

theorem JsonWebKey.members_plain (k : JsonWebKey) : ∀ p ∈ k.members, p.2.Plain ∧ p.2.depth ≤ 1 := by
  have hg : ∀ v, ∀ r ∈ goStringValue v, r.Plain ∧ r.depth ≤ 1 := by
    intro v; unfold goStringValue; split_ifs <;> simp [plain_string]
  have hb : ∀ b, ∀ r ∈ bufferValue b, r.Plain ∧ r.depth ≤ 1 := by
    intro b; cases b <;> simp [bufferValue, plain_string]
  simp only [JsonWebKey.members, List.mem_append, or_assoc]
  rintro p (h | h | h | h | h | h | h | h)
  all_goals first
    | exact mem_optionalMember_value h (hg _)
    | exact mem_optionalMember_value h (hb _)

theorem unmarshalJsonWebKey_marshal (k : JsonWebKey) :
    unmarshalJsonWebKey k.marshal = .ok { k with
      use := replaceInvalid k.use, kty := replaceInvalid k.kty, kid := replaceInvalid k.kid,
      crv := replaceInvalid k.crv, alg := replaceInvalid k.alg } := by
  rw [unmarshalJsonWebKey, JsonWebKey.marshal, parseTextUnbounded_object k.members_plain, Except.ok_bind]
  dsimp only
  rw [JsonWebKey.decodeMembers_of_nodup k.members_nodup fun _ _ => List.not_mem_nil _]
  obtain ⟨use, kty, kid, crv, alg, x, y, d⟩ := k
  simp only [JsonWebKey.members, List.append_assoc]
  rw [← List.append_nil (optionalMember "d" _)]
  simp only [storeMembers_goStringValue, storeMembers_bufferValue, JsonWebKey.storeMember, decodeGoString,
    decodeBuffer_null, decodeBuffer_base64, Except.map_ok, Except.ok_bind, JsonWebKey.storeMembers,
    replaceInvalid, show utf8Encode "" = [] from rfl]

theorem size_s256 : s256.p.size = 256 :=
  le_antisymm (Nat.size_le.2 (by decide)) (Nat.lt_size.2 (by decide))

@[simp] theorem curveSize_s256 : curveSize s256 = 32 := rfl

@[simp] theorem dSize_s256 : dSize s256 = 32 := by
  rw [dSize, size_s256]
  rfl

theorem newFixedSizeBuffer_ok {data : List UInt8} {length : Nat} (h : data.length ≤ length) :
    newFixedSizeBuffer data length = .ok ⟨List.replicate (length - data.length) 0 ++ data⟩ := by
  simp [newFixedSizeBuffer, Nat.not_lt.2 h]

theorem length_intBytes_le {n : Int} {bound : Nat} (h0 : 0 ≤ n) (h : n < bound) (hb : bound < 256 ^ 32) :
    (intBytes n).length ≤ 32 := by
  rw [intBytes, Jose.length_bigIntBytes_le_iff]
  have := Int.natAbs_of_nonneg h0
  omega

@[simp] theorem bigInt_pad (k : Nat) (n : Int) :
    (ByteBuffer.mk (List.replicate k 0 ++ intBytes n)).bigInt = n.natAbs := by
  simp [ByteBuffer.bigInt, intBytes, Jose.bigEndian_zeros_append, Jose.bigEndian_bigIntBytes]

theorem length_pad {n : Int} (h : (intBytes n).length ≤ 32) :
    (List.replicate (32 - (intBytes n).length) 0 ++ intBytes n).length = 32 := by
  simp only [List.length_append, List.length_replicate]
  omega

theorem OnCurve.lengths {x y : Int} (h : OnCurve x y) : (intBytes x).length ≤ 32 ∧ (intBytes y).length ≤ 32 := by
  have hp : s256.p < 256 ^ 32 := by decide
  obtain ⟨hx0, hx, hy0, hy, -⟩ := h
  exact ⟨length_intBytes_le hx0 hx hp, length_intBytes_le hy0 hy hp⟩

theorem keyMembers_secp256k1 {key : Key} (h : key.Secp256k1) :
    ∃ raw, keyMembers key = .ok raw ∧ raw.kty = secp256k1Kty ∧ raw.crv = secp256k1Crv ∧
      ∀ k : JsonWebKey, k.x = raw.x → k.y = raw.y → k.d = raw.d →
        unmarshalSecp256k1 k = .ok ⟨⟨key, k.kid, k.alg, k.use⟩, [], []⟩ := by
  rcases h.elim with ⟨x, y, rfl, hxy⟩ | ⟨x, y, d, rfl, hxy, hd0, hdn⟩
  · obtain ⟨hlx, hly⟩ := hxy.lengths
    refine ⟨_, by rw [keyMembers_ofPublic, secp256k1Size, newFixedSizeBuffer_ok hlx, newFixedSizeBuffer_ok hly]; rfl,
      rfl, rfl, fun k hx hy hd => ?_⟩
    simp [unmarshalSecp256k1, hx, hy, hd, check, length_pad hlx, length_pad hly, hxy.2.2.2.2,
      Int.natAbs_of_nonneg hxy.1, Int.natAbs_of_nonneg hxy.2.2.1]
  · obtain ⟨hlx, hly⟩ := hxy.lengths
    have hld := length_intBytes_le hd0.le hdn (by decide)
    refine ⟨_, by rw [keyMembers_ofPrivate, secp256k1Size, dSize_s256, newFixedSizeBuffer_ok hlx,
      newFixedSizeBuffer_ok hly, newFixedSizeBuffer_ok hld]; rfl, rfl, rfl, fun k hx hy hd => ?_⟩
    simp [unmarshalSecp256k1, hx, hy, hd, check, length_pad hlx, length_pad hly, length_pad hld, hxy.2.2.2.2,
      Int.natAbs_of_nonneg hxy.1, Int.natAbs_of_nonneg hxy.2.2.1, Int.natAbs_of_nonneg hd0.le]

theorem marshalJSON_roundTrip (lib : Library) {key : Key} (hkey : key.Secp256k1) (kid alg use : GoString) :
    (JWK.marshalJSON lib ⟨⟨key, kid, alg, use⟩, secp256k1Kty, secp256k1Crv⟩ >>= fun b =>
        liftError (JWK.unmarshalJSON lib b)) =
      .ok ⟨⟨key, replaceInvalid kid, replaceInvalid alg, replaceInvalid use⟩, secp256k1Kty, secp256k1Crv⟩ := by
  have hsec : isSecp256k1 lib secp256k1Kty secp256k1Crv = true := by
    simp [isSecp256k1, lib.equalFold_self]
  obtain ⟨raw, hraw, hkty, hcrv, hback⟩ := keyMembers_secp256k1 hkey
  have hk : replaceInvalid raw.kty = secp256k1Kty := by rw [hkty, secp256k1Kty, replaceInvalid_utf8Encode]
  have hc : replaceInvalid raw.crv = secp256k1Crv := by rw [hcrv, secp256k1Crv, replaceInvalid_utf8Encode]
  simp only [JWK.marshalJSON, hsec, if_true, marshalSecp256k1, hraw, Go.bind_ok, Go.pure_def, JWK.unmarshalJSON,
    unmarshalJsonWebKey_marshal, Except.mapError, hk, hc, Except.ok_bind, hback]
  rfl

theorem unmarshalJSON_marshalJSON (lib : Library) (key : Key) (hkey : key.Secp256k1) (kid alg use : String) :
    (JWK.marshalJSON lib ⟨⟨key, utf8Encode kid, utf8Encode alg, utf8Encode use⟩, secp256k1Kty, secp256k1Crv⟩ >>=
        fun b => liftError (JWK.unmarshalJSON lib b)) =
      .ok ⟨⟨key, utf8Encode kid, utf8Encode alg, utf8Encode use⟩, secp256k1Kty, secp256k1Crv⟩ := by
  rw [marshalJSON_roundTrip lib hkey, replaceInvalid_utf8Encode, replaceInvalid_utf8Encode,
    replaceInvalid_utf8Encode]

theorem unmarshalJSON_marshalJSON_sample :
    (Key.ofPrivate s256 s256Gx s256Gy 1).Secp256k1 ∧
      (JWK.marshalJSON sampleLibrary ⟨⟨.ofPrivate s256 s256Gx s256Gy 1, utf8Encode "key-1",
          utf8Encode "ES256K", utf8Encode "sig"⟩, secp256k1Kty, secp256k1Crv⟩ >>=
          fun b => liftError (JWK.unmarshalJSON sampleLibrary b)) =
        .ok ⟨⟨.ofPrivate s256 s256Gx s256Gy 1, utf8Encode "key-1", utf8Encode "ES256K", utf8Encode "sig"⟩,
          secp256k1Kty, secp256k1Crv⟩ :=
  have h : (Key.ofPrivate s256 s256Gx s256Gy 1).Secp256k1 := by decide
  ⟨h, unmarshalJSON_marshalJSON sampleLibrary _ h "key-1" "ES256K" "sig"⟩

theorem marshalJSON_replaces_invalid_kid :
    (JWK.marshalJSON sampleLibrary ⟨⟨.ofPrivate s256 s256Gx s256Gy 1, [0xFF], [], []⟩, secp256k1Kty,
        secp256k1Crv⟩ >>= fun b => liftError (JWK.unmarshalJSON sampleLibrary b)) =
      .ok ⟨⟨.ofPrivate s256 s256Gx s256Gy 1, [0xEF, 0xBF, 0xBD], [], []⟩, secp256k1Kty, secp256k1Crv⟩ := by
  rw [marshalJSON_roundTrip sampleLibrary (by decide)]
  rfl

def JsonWebKey.ValidStrings (k : JsonWebKey) : Prop :=
  replaceInvalid k.use = k.use ∧ replaceInvalid k.kty = k.kty ∧ replaceInvalid k.kid = k.kid ∧
    replaceInvalid k.crv = k.crv ∧ replaceInvalid k.alg = k.alg

theorem decodeGoString_valid {current s : GoString} {e : Option String} {v : Raw}
    (h : decodeGoString current v = .ok (s, e)) (hc : replaceInvalid current = current) : replaceInvalid s = s := by
  unfold decodeGoString at h
  split at h <;> cases h
  · exact replaceInvalid_utf8Encode _
  all_goals exact hc

theorem storeMember_valid {k k' : JsonWebKey} {name : String} {v : Raw} {e : Option String}
    (h : k.storeMember name v = .ok (k', e)) (hk : k.ValidStrings) : k'.ValidStrings := by
  obtain ⟨hu, ht, hi, hc, ha⟩ := hk
  unfold JsonWebKey.storeMember at h
  split at h
  all_goals first
    | obtain ⟨⟨s, e⟩, hs, ⟨⟩⟩ := Except.map_eq_ok_iff.mp h
    | obtain ⟨b, -, ⟨⟩⟩ := Except.map_eq_ok_iff.mp h
    | cases h
  · exact ⟨decodeGoString_valid hs hu, ht, hi, hc, ha⟩
  · exact ⟨hu, decodeGoString_valid hs ht, hi, hc, ha⟩
  · exact ⟨hu, ht, decodeGoString_valid hs hi, hc, ha⟩
  · exact ⟨hu, ht, hi, decodeGoString_valid hs hc, ha⟩
  · exact ⟨hu, ht, hi, hc, decodeGoString_valid hs ha⟩
  all_goals exact ⟨hu, ht, hi, hc, ha⟩

theorem decodeMembers_valid : ∀ {k k' : JsonWebKey} {seen : List String} {saved : Option String}
    {ms : List (String × Raw)}, k.decodeMembers seen saved ms = .ok k' → k.ValidStrings → k'.ValidStrings
  | _, _, _, none, [], h, hk => by cases h; exact hk
  | _, _, _, some _, [], h, _ => by cases h
  | k, _, seen, _, (name, v) :: rest, h, hk => by
    rw [JsonWebKey.decodeMembers] at h
    split_ifs at h
    obtain ⟨⟨k₁, e⟩, h₁, h⟩ := Except.bind_eq_ok_iff.mp h
    exact decodeMembers_valid h (storeMember_valid h₁ hk)

theorem unmarshalJsonWebKey_valid {b : List UInt8} {k : JsonWebKey} (h : unmarshalJsonWebKey b = .ok k) :
    k.ValidStrings := by
  have h0 : ({} : JsonWebKey).ValidStrings := ⟨rfl, rfl, rfl, rfl, rfl⟩
  obtain ⟨r, -, h⟩ := Except.bind_eq_ok_iff.mp h
  cases r <;> simp only at h
  case object ms => exact decodeMembers_valid h h0
  case null => cases h; exact h0
  all_goals cases h

theorem unmarshalJSON_secp256k1 {lib : Library} {b : List UInt8} {j : JWK} (h : JWK.unmarshalJSON lib b = .ok j)
    (hsec : isSecp256k1 lib j.kty j.crv = true) :
    ∃ k j₀, unmarshalJsonWebKey b = .ok k ∧ unmarshalSecp256k1 k = .ok j₀ ∧
      j = { j₀ with kty := k.kty, crv := k.crv } := by
  rw [JWK.unmarshalJSON] at h
  obtain ⟨k, hk, h⟩ := Except.bind_eq_ok_iff.mp h
  dsimp only at h
  rcases ite_eq_iff.mp h with ⟨-, h⟩ | ⟨hs, h⟩
  · obtain ⟨j₀, hj₀, h⟩ := Except.bind_eq_ok_iff.mp h
    cases h
    exact ⟨k, j₀, Except.mapError_eq_ok_iff.mp hk, Except.mapError_eq_ok_iff.mp hj₀, rfl⟩
  · obtain ⟨j₀, -, h⟩ := Except.bind_eq_ok_iff.mp h
    cases h
    exact absurd hsec hs

theorem unmarshalSecp256k1_ok {k : JsonWebKey} {j : JWK} (h : unmarshalSecp256k1 k = .ok j) :
    ∃ x y, k.x = some x ∧ k.y = some y ∧ x.data.length = 32 ∧ y.data.length = 32 ∧
      isOnCurve x.bigInt y.bigInt = true ∧
      (k.d = none ∧ j = ⟨⟨.ofPublic s256 x.bigInt y.bigInt, k.kid, k.alg, k.use⟩, [], []⟩ ∨
        ∃ d, k.d = some d ∧ d.data.length = 32 ∧
          j = ⟨⟨.ofPrivate s256 x.bigInt y.bigInt d.bigInt, k.kid, k.alg, k.use⟩, [], []⟩) := by
  obtain ⟨use, kty, kid, crv, alg, _ | x, _ | y, d⟩ := k
  all_goals simp only [unmarshalSecp256k1] at h
  all_goals try cases h
  simp only [Except.bind_ok_iff, check_ok_iff, curveSize_s256, beq_iff_eq] at h
  obtain ⟨hlx, hly, hd, hc, h⟩ := h
  cases d with
  | none =>
    cases h
    exact ⟨x, y, rfl, rfl, hlx.symm, hly.symm, hc, .inl ⟨rfl, rfl⟩⟩
  | some d =>
    cases h
    simp only [Option.all_some, dSize_s256, beq_iff_eq] at hd
    exact ⟨x, y, rfl, rfl, hlx.symm, hly.symm, hc, .inr ⟨d, rfl, hd.symm, rfl⟩⟩

theorem length_intBytes_bigInt {b : ByteBuffer} (h : b.data.length = 32) : (intBytes (b.bigInt : Int)).length ≤ 32 := by
  rw [intBytes, Int.natAbs_ofNat, Jose.length_bigIntBytes_le_iff, ← h]
  exact Jose.bigEndian_lt b.data

theorem unmarshalJSON_reencode (lib : Library) {b : List UInt8} {j : JWK} (h : JWK.unmarshalJSON lib b = .ok j)
    (hsec : isSecp256k1 lib j.kty j.crv = true) :
    (JWK.marshalJSON lib j >>= fun b' => liftError (JWK.unmarshalJSON lib b')) =
      .ok { j with kty := secp256k1Kty, crv := secp256k1Crv } := by
  obtain ⟨k, j₀, hk, hj₀, rfl⟩ := unmarshalJSON_secp256k1 h hsec
  obtain ⟨hu, -, hi, -, ha⟩ := unmarshalJsonWebKey_valid hk
  have hnorm : isSecp256k1 lib secp256k1Kty secp256k1Crv = true := by simp [isSecp256k1, lib.equalFold_self]
  have hkty : replaceInvalid secp256k1Kty = secp256k1Kty := replaceInvalid_utf8Encode _
  have hcrv : replaceInvalid secp256k1Crv = secp256k1Crv := replaceInvalid_utf8Encode _
  obtain ⟨x, y, -, -, hlx, hly, hc, ⟨-, rfl⟩ | ⟨d, -, hld, rfl⟩⟩ := unmarshalSecp256k1_ok hj₀
  all_goals simp only [JWK.marshalJSON, hsec, if_true, marshalSecp256k1, keyMembers_ofPublic, keyMembers_ofPrivate,
    secp256k1Size, dSize_s256, newFixedSizeBuffer_ok, length_intBytes_bigInt, hlx, hly, Go.bind_ok, Go.pure_def,
    le_refl]
  · simp only [JWK.unmarshalJSON, unmarshalJsonWebKey_marshal, Except.mapError, hu, hi, ha, hkty, hcrv, hnorm,
      Except.ok_bind]
    simp [unmarshalSecp256k1, check, length_pad (length_intBytes_bigInt hlx), length_pad (length_intBytes_bigInt hly),
      hc, Key.ofPublic]
  · simp only [newFixedSizeBuffer_ok (length_intBytes_bigInt hld), Go.bind_ok, Go.pure_def, JWK.unmarshalJSON,
      unmarshalJsonWebKey_marshal, Except.mapError, hu, hi, ha, hkty, hcrv, hnorm, Except.ok_bind]
    simp [unmarshalSecp256k1, check, length_pad (length_intBytes_bigInt hlx), length_pad (length_intBytes_bigInt hly),
      length_pad (length_intBytes_bigInt hld), hc, Key.ofPrivate]

def s256GxBytes : List UInt8 :=
  [0x79, 0xBE, 0x66, 0x7E, 0xF9, 0xDC, 0xBB, 0xAC, 0x55, 0xA0, 0x62, 0x95, 0xCE, 0x87, 0x0B, 0x07, 0x02, 0x9B, 0xFC,
    0xDB, 0x2D, 0xCE, 0x28, 0xD9, 0x59, 0xF2, 0x81, 0x5B, 0x16, 0xF8, 0x17, 0x98]

def s256GyBytes : List UInt8 :=
  [0x48, 0x3A, 0xDA, 0x77, 0x26, 0xA3, 0xC4, 0x65, 0x5D, 0xA4, 0xFB, 0xFC, 0x0E, 0x11, 0x08, 0xA8, 0xFD, 0x17, 0xB4,
    0x48, 0xA6, 0x85, 0x54, 0x19, 0x9C, 0x47, 0xD0, 0x8F, 0xFB, 0x10, 0xD4, 0xB8]

-- the base point with the scalar 0, which no secp256k1 key has
def zeroScalarText : List UInt8 :=
  JsonWebKey.marshal
    { kty := secp256k1Kty, crv := secp256k1Crv, x := some ⟨s256GxBytes⟩, y := some ⟨s256GyBytes⟩,
      d := some ⟨List.replicate 32 0⟩ }

def zeroScalarJWK : JWK := ⟨⟨.ofPrivate s256 s256Gx s256Gy 0, [], [], []⟩, secp256k1Kty, secp256k1Crv⟩

theorem unmarshalJSON_zeroScalarText : JWK.unmarshalJSON sampleLibrary zeroScalarText = .ok zeroScalarJWK := by
  rw [zeroScalarText, JWK.unmarshalJSON, unmarshalJsonWebKey_marshal]
  simp only [Except.mapError, Except.ok_bind, unmarshalSecp256k1, dSize_s256]
  decide

theorem unmarshalJSON_reencode_zero_scalar :
    (JWK.unmarshalJSON sampleLibrary zeroScalarText = .ok zeroScalarJWK ∧
        isSecp256k1 sampleLibrary zeroScalarJWK.kty zeroScalarJWK.crv = true) ∧
      (JWK.marshalJSON sampleLibrary zeroScalarJWK >>= fun b' => liftError (JWK.unmarshalJSON sampleLibrary b')) =
        .ok { zeroScalarJWK with kty := secp256k1Kty, crv := secp256k1Crv } :=
  ⟨⟨unmarshalJSON_zeroScalarText, by decide⟩,
    unmarshalJSON_reencode sampleLibrary unmarshalJSON_zeroScalarText (by decide)⟩

-- btcec's PublicKey.SerializeCompressed, outside the source tree: isOdd(Y), then X.Bytes()
-- padded at the front to 32
def serializeCompressed (x y : Option Int) : Go (List UInt8) := do
  let y ← deref y
  let x ← deref x
  pure ((if y % 2 = 1 then 3 else 2) :: (List.replicate (secp256k1Size - (intBytes x).length) 0 ++ intBytes x))

def interfaceConversion (type : String) : GoFailure :=
  .panic ("interface conversion: interface \x7b\x7d is " ++ type ++ ", not *ecdsa.PrivateKey")

-- go-jose's Public and x509.MarshalPKIXPublicKey, outside the source tree, are publicKeyBytesJose
def JWK.publicKeyBytes (lib : Library) (publicKeyBytesJose : JSONWebKey → Go (List UInt8)) (j : JWK) :
    Go (List UInt8) :=
  if isSecp256k1 lib j.kty j.crv then do
    let ecPubKey ← match j.jsonWebKey.key with
      | .publicKey k => deref k
      | .privateKey k => EcdsaPrivateKey.publicKey <$> deref k
      | .other type => throw (interfaceConversion type)
      | .nil => throw (interfaceConversion "nil")
    serializeCompressed ecPubKey.x ecPubKey.y
  else publicKeyBytesJose j.jsonWebKey

theorem pad_intBytes_bigInt {b : ByteBuffer} (h : b.data.length = 32) :
    List.replicate (32 - (intBytes (b.bigInt : Int)).length) 0 ++ intBytes (b.bigInt : Int) = b.data :=
  h ▸ Jose.pad_bigIntBytes_bigEndian b.data

theorem publicKeyBytes_unmarshalJSON (lib : Library) (publicKeyBytesJose : JSONWebKey → Go (List UInt8))
    {b : List UInt8} {j : JWK} (h : JWK.unmarshalJSON lib b = .ok j) (hsec : isSecp256k1 lib j.kty j.crv = true) :
    ∃ k x y, unmarshalJsonWebKey b = .ok k ∧ k.x = some x ∧ k.y = some y ∧ x.data.length = 32 ∧
      y.data.length = 32 ∧
      j.publicKeyBytes lib publicKeyBytesJose = .ok ((if (y.bigInt : Int) % 2 = 1 then 3 else 2) :: x.data) := by
  obtain ⟨k, j₀, hk, hj₀, rfl⟩ := unmarshalJSON_secp256k1 h hsec
  obtain ⟨x, y, hx, hy, hlx, hly, -, hkey⟩ := unmarshalSecp256k1_ok hj₀
  refine ⟨k, x, y, hk, hx, hy, hlx, hly, ?_⟩
  rw [JWK.publicKeyBytes, if_pos hsec]
  rcases hkey with ⟨-, rfl⟩ | ⟨d, -, -, rfl⟩ <;>
    simp only [Key.ofPublic, Key.ofPrivate, deref_some, Except.map_ok, Go.bind_ok, serializeCompressed,
      secp256k1Size, pad_intBytes_bigInt hlx, Go.pure_def]

theorem publicKeyBytes_zero_scalar :
    (JWK.unmarshalJSON sampleLibrary zeroScalarText = .ok zeroScalarJWK ∧
        isSecp256k1 sampleLibrary zeroScalarJWK.kty zeroScalarJWK.crv = true) ∧
      ∃ k x y, unmarshalJsonWebKey zeroScalarText = .ok k ∧ k.x = some x ∧ k.y = some y ∧
        x.data.length = 32 ∧ y.data.length = 32 ∧
        zeroScalarJWK.publicKeyBytes sampleLibrary (fun _ => .ok []) =
          .ok ((if (y.bigInt : Int) % 2 = 1 then 3 else 2) :: x.data) :=
  ⟨⟨unmarshalJSON_zeroScalarText, by decide⟩,
    publicKeyBytes_unmarshalJSON sampleLibrary (fun _ => .ok []) unmarshalJSON_zeroScalarText (by decide)⟩

end DidGo.Jws
