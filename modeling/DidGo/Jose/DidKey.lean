import DidGo.Jose.Jwk

namespace DidGo.Jose
open DidGo.Json

structure CurveParams where
  name : String
  bitSize : Nat
  deriving DecidableEq, Repr

inductive Curve where
  | p224
  | p256
  | p384
  | p521
  | custom (ident : Nat) (params : CurveParams)
  deriving DecidableEq, Repr, Inhabited

def Curve.params : Curve → CurveParams
  | .p224 => ⟨"P-224", 224⟩
  | .p256 => ⟨"P-256", 256⟩
  | .p384 => ⟨"P-384", 384⟩
  | .p521 => ⟨"P-521", 521⟩
  | .custom _ params => params

def fillBytes (x len : Nat) : Go (List UInt8) :=
  if (bigIntBytes x).length > len then throw (.panic "math/big: buffer too small to fit value")
  else pure (List.replicate (len - (bigIntBytes x).length) 0 ++ bigIntBytes x)

-- (0, 0) is the point at infinity by convention and passes the check
def panicIfNotOnCurve (isOnCurve : Curve → Nat → Nat → Bool) (curve : Curve) (x y : Nat) : Go Unit :=
  if x = 0 ∧ y = 0 then pure ()
  else if isOnCurve curve x y then pure ()
  else throw (.panic "crypto/elliptic: attempted operation on invalid point")

def marshalCompressed (isOnCurve : Curve → Nat → Nat → Bool) (curve : Curve) (x y : Nat) :
    Go (List UInt8) := do
  panicIfNotOnCurve isOnCurve curve x y
  let compressed ← fillBytes x ((curve.params.bitSize + 7) / 8)
  pure ((UInt8.ofNat (y % 2) ||| 2) :: compressed)

structure Elliptic where
  isOnCurve : Curve → Nat → Nat → Bool
  unmarshalCompressed : Curve → List UInt8 → Option (Nat × Nat)
  marshal_unmarshal : ∀ curve data x y, unmarshalCompressed curve data = some (x, y) →
    marshalCompressed isOnCurve curve x y = .ok data
  onCurve_lt : ∀ curve x y, isOnCurve curve x y = true →
    x < 2 ^ curve.params.bitSize ∧ y < 2 ^ curve.params.bitSize

structure Fingerprint where
  createDIDKeyByCode : UInt64 → List UInt8 → String × String
  createED25519DIDKey : List UInt8 → String × String
  x25519PubKeyMultiCodec : UInt64
  p256PubKeyMultiCodec : UInt64
  p384PubKeyMultiCodec : UInt64
  p521PubKeyMultiCodec : UInt64

def curve25519KeySize : Nat := 32

def ed25519PublicKeySize : Nat := 32

def ecCodeAndCurve (fp : Fingerprint) (ecCurve : String) : Go (UInt64 × Curve) :=
  if ecCurve = Curve.p256.params.name ∨ ecCurve = "NIST_P256" then pure (fp.p256PubKeyMultiCodec, .p256)
  else if ecCurve = Curve.p384.params.name ∨ ecCurve = "NIST_P384" then
    pure (fp.p384PubKeyMultiCodec, .p384)
  else if ecCurve = Curve.p521.params.name ∨ ecCurve = "NIST_P521" then
    pure (fp.p521PubKeyMultiCodec, .p521)
  else throw (.error ("unsupported crv " ++ ecCurve))

def toED25519PublicKeyBytes (key : JWK) : Go (List UInt8) :=
  match key.x with
  | none => throw (.error "invalid Ed key, missing x value")
  | some x =>
    pure (x.data.take ed25519PublicKeySize ++ List.replicate (ed25519PublicKeySize - x.data.length) 0)

def createDIDKeyByJwk (lib : Elliptic) (fp : Fingerprint) : Option JWK → Go (String × String)
  | none => throw (.error "jsonWebKey is required")
  | some jsonWebKey =>
    if jsonWebKey.kty = "EC" then do
      let (code, curve) ← ecCodeAndCurve fp jsonWebKey.crv
      let x ← ByteBuffer.bigInt jsonWebKey.x
      let y ← ByteBuffer.bigInt jsonWebKey.y
      let bytes ← marshalCompressed lib.isOnCurve curve x y
      pure (fp.createDIDKeyByCode code bytes)
    else if jsonWebKey.kty = "OKP" then
      if jsonWebKey.crv = "X25519" then do
        let keyData ← ByteBuffer.bytes jsonWebKey.x
        if keyData.length ≠ curve25519KeySize then throw (.error "invalid JWK")
        else pure (fp.createDIDKeyByCode fp.x25519PubKeyMultiCodec keyData)
      else if jsonWebKey.crv = "Ed25519" then do
        let keyData ← toED25519PublicKeyBytes jsonWebKey
        pure (fp.createED25519DIDKey keyData)
      else throw (.error ("unsupported kty " ++ quote jsonWebKey.kty ++ " and crv " ++
        quote jsonWebKey.crv ++ " combination"))
    else throw (.error ("unsupported kty " ++ quote jsonWebKey.kty))

def ed25519Crv : String := "Ed25519"

def x25519Crv : String := "X25519"

def okpKty : String := "OKP"

def fromEdPublicKey (pub : List UInt8) : JWK := { kty := "OKP", crv := ed25519Crv, x := some (newBuffer pub) }

def fromEdPrivateKey (ed : List UInt8) : Go JWK :=
  if ed.length < 32 then
    throw (.panic ("runtime error: slice bounds out of range [32:" ++ toString ed.length ++ "]"))
  else pure { fromEdPublicKey (ed.drop 32) with d := some (newBuffer (ed.take 32)) }

def jwkFromX25519Key (pubKey : List UInt8) : Go JWK :=
  if pubKey.length ≠ curve25519KeySize then throw (.error "JWKFromX25519Key: invalid key")
  else do
    let x ← newFixedSizeBuffer pubKey curve25519KeySize
    pure { crv := x25519Crv, kty := okpKty, x := some x }

structure EcdsaContent where
  curve : Curve
  x : Option Int
  y : Option Int

def curveName : Curve → Go String
  | .p256 => pure "P-256"
  | .p384 => pure "P-384"
  | .p521 => pure "P-521"
  | _ => throw (.error "unsupported/unknown elliptic curve")

def curveSize (crv : Curve) : Nat :=
  if crv.params.bitSize % 8 = 0 then crv.params.bitSize / 8 else crv.params.bitSize / 8 + 1

def bigIntAbsBytes : Option Int → Go (List UInt8)
  | some v => pure (bigIntBytes v.natAbs)
  | none => throw nilDereference

def fromEcdsaContent (content : EcdsaContent) : Go JWK := do
  let name ← curveName content.curve
  let size := curveSize content.curve
  let xBytes ← bigIntAbsBytes content.x
  let yBytes ← bigIntAbsBytes content.y
  if xBytes.length > size ∨ yBytes.length > size then
    throw (.error "go-jose/go-jose: invalid EC key (X/Y too large)")
  else do
    let x ← newFixedSizeBuffer xBytes size
    let y ← newFixedSizeBuffer yBytes size
    pure { kty := "EC", crv := name, x := some x, y := some y }

def fromEcdsaPubKeyBytes (lib : Elliptic) (curve : Curve) (pubKeyBytes : List UInt8) : Go JWK :=
  match lib.unmarshalCompressed curve pubKeyBytes with
  | none => throw (.error "error unmarshalling key bytes")
  | some (x, y) => fromEcdsaContent ⟨curve, some x, some y⟩

theorem createDIDKeyByJwk_panics_on_missing_coordinate (lib : Elliptic) (fp : Fingerprint) :
    createDIDKeyByJwk lib fp (some { kty := "OKP", crv := "X25519" }) = throw nilDereference ∧
      createDIDKeyByJwk lib fp (some { kty := "EC", crv := "P-256", x := some ⟨[1]⟩ }) =
        throw nilDereference :=
  ⟨rfl, rfl⟩

theorem newFixedSizeBuffer_of_le {data : List UInt8} {length : Nat} (h : data.length ≤ length) :
    newFixedSizeBuffer data length = pure (newBuffer (List.replicate (length - data.length) 0 ++ data)) := by
  simp [newFixedSizeBuffer, Nat.not_lt.mpr h]

theorem panicIfNotOnCurve_ok {isOnCurve : Curve → Nat → Nat → Bool} {curve : Curve} {x y : Nat}
    (h : panicIfNotOnCurve isOnCurve curve x y = .ok ()) : x = 0 ∧ y = 0 ∨ isOnCurve curve x y = true := by
  unfold panicIfNotOnCurve at h
  split_ifs at h with h0 h1
  · exact .inl h0
  · exact .inr h1

theorem panicIfNotOnCurve_of_isOnCurve {isOnCurve : Curve → Nat → Nat → Bool} {curve : Curve} {x y : Nat}
    (h : isOnCurve curve x y = true) : panicIfNotOnCurve isOnCurve curve x y = pure () := by
  unfold panicIfNotOnCurve
  split_ifs <;> rfl

theorem two_pow_le_byteLen (bits : Nat) : 2 ^ bits ≤ 256 ^ ((bits + 7) / 8) :=
  calc 2 ^ bits ≤ 2 ^ (8 * ((bits + 7) / 8)) := Nat.pow_le_pow_right (by norm_num) (by omega)
    _ = 256 ^ ((bits + 7) / 8) := by rw [pow_mul]; norm_num

theorem marshalCompressed_bounds (lib : Elliptic) {curve : Curve} {x y : Nat} {data : List UInt8}
    (h : marshalCompressed lib.isOnCurve curve x y = .ok data) :
    x < 2 ^ curve.params.bitSize ∧ y < 2 ^ curve.params.bitSize := by
  obtain ⟨⟨⟩, hp, -⟩ := Except.bind_eq_ok_iff.mp h
  rcases panicIfNotOnCurve_ok hp with ⟨rfl, rfl⟩ | hon
  · exact ⟨Nat.two_pow_pos _, Nat.two_pow_pos _⟩
  · exact lib.onCurve_lt _ _ _ hon

theorem createDIDKeyByJwk_fromEcdsaPubKeyBytes (lib : Elliptic) (fp : Fingerprint) {curve : Curve}
    {code : UInt64} (hname : curveName curve = pure curve.params.name)
    (hcode : ecCodeAndCurve fp curve.params.name = pure (code, curve))
    (hsize : curveSize curve = (curve.params.bitSize + 7) / 8) {data : List UInt8} {x y : Nat}
    (hb : lib.unmarshalCompressed curve data = some (x, y)) :
    (fromEcdsaPubKeyBytes lib curve data >>= fun j => createDIDKeyByJwk lib fp (some j)) =
      pure (fp.createDIDKeyByCode code data) := by
  have hm := lib.marshal_unmarshal _ _ _ _ hb
  obtain ⟨hx, hy⟩ := marshalCompressed_bounds lib hm
  have hpow := two_pow_le_byteLen curve.params.bitSize
  have hxl := (length_bigIntBytes_le_iff x _).2 (lt_of_lt_of_le hx hpow)
  have hyl := (length_bigIntBytes_le_iff y _).2 (lt_of_lt_of_le hy hpow)
  rw [← hsize] at hxl hyl
  simp [fromEcdsaPubKeyBytes, hb, fromEcdsaContent, hname, bigIntAbsBytes, Nat.not_lt.mpr hxl,
    Nat.not_lt.mpr hyl, newFixedSizeBuffer_of_le hxl, newFixedSizeBuffer_of_le hyl, createDIDKeyByJwk,
    hcode, ByteBuffer.bigInt, newBuffer, bigEndian_zeros_append, bigEndian_bigIntBytes, hm]

theorem createDIDKeyByJwk_jwkFromX25519Key (lib : Elliptic) (fp : Fingerprint) {k : List UInt8}
    (hk : k.length = 32) :
    (jwkFromX25519Key k >>= fun j => createDIDKeyByJwk lib fp (some j)) =
      pure (fp.createDIDKeyByCode fp.x25519PubKeyMultiCodec k) := by
  simp [jwkFromX25519Key, curve25519KeySize, hk, newFixedSizeBuffer_of_le, createDIDKeyByJwk,
    okpKty, x25519Crv, ByteBuffer.bytes, newBuffer]

theorem createDIDKeyByJwk_fromEdPublicKey (lib : Elliptic) (fp : Fingerprint) {k : List UInt8}
    (hk : k.length = 32) :
    createDIDKeyByJwk lib fp (some (fromEdPublicKey k)) = pure (fp.createED25519DIDKey k) := by
  simp [fromEdPublicKey, createDIDKeyByJwk, ed25519Crv, toED25519PublicKeyBytes, newBuffer,
    ed25519PublicKeySize, hk]
  rw [← hk, List.take_length]

def ecSample : Elliptic where
  isOnCurve _ _ _ := false
  unmarshalCompressed _ _ := none
  marshal_unmarshal _ _ _ _ h := by cases h
  onCurve_lt _ _ _ h := by cases h

def fingerprintSample : Fingerprint where
  createDIDKeyByCode code bytes := ("did:key:" ++ toString code ++ toString bytes, "")
  createED25519DIDKey bytes := ("did:key:ed" ++ toString bytes, "")
  x25519PubKeyMultiCodec := 0xec
  p256PubKeyMultiCodec := 0x1200
  p384PubKeyMultiCodec := 0x1201
  p521PubKeyMultiCodec := 0x1202

theorem createDIDKeyByJwk_ed25519_collides (lib : Elliptic) (fp : Fingerprint) {bs : List UInt8}
    (hbs : bs.length ≤ 32) (t : List UInt8) (ht : bs.length = 32 ∨ t = List.replicate t.length 0) :
    createDIDKeyByJwk lib fp (some { kty := "OKP", crv := "Ed25519", x := some ⟨bs ++ t⟩ }) =
      createDIDKeyByJwk lib fp (some { kty := "OKP", crv := "Ed25519", x := some ⟨bs⟩ }) := by
  simp only [createDIDKeyByJwk, toED25519PublicKeyBytes, ed25519PublicKeySize, if_neg (by decide : ¬"OKP" = "EC"),
    if_pos (rfl : "OKP" = "OKP"), if_neg (by decide : ¬"Ed25519" = "X25519"), if_pos (rfl : "Ed25519" = "Ed25519")]
  congr 4
  rw [List.take_append_eq_append_take, List.take_of_length_le hbs, List.length_append]
  rcases ht with h32 | ht
  · simp [h32]
  · rw [ht, List.take_replicate, List.length_replicate, List.append_assoc, List.append_replicate_replicate]
    congr 2
    omega

theorem createDIDKeyByJwk_ed25519_collides_sample :
    createDIDKeyByJwk ecSample fingerprintSample
        (some { kty := "OKP", crv := "Ed25519", x := some ⟨List.replicate 32 1 ++ [2]⟩ }) =
      createDIDKeyByJwk ecSample fingerprintSample
        (some { kty := "OKP", crv := "Ed25519", x := some ⟨List.replicate 32 1⟩ }) ∧
    List.replicate 32 1 ++ [2] ≠ List.replicate 32 (1 : UInt8) :=
  ⟨createDIDKeyByJwk_ed25519_collides ecSample fingerprintSample (by simp) [2] (.inl (by simp)), by simp⟩

end DidGo.Jose
