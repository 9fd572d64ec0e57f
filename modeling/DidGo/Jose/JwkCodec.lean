import DidGo.Json.Struct
import DidGo.Encoding.Base64
import DidGo.Jose.DidKey

namespace DidGo.Jose
open DidGo.Json DidGo.Encoding

-- jwk.JWK has no JSON methods of its own; the model prints its text with the canonical writer, which
-- escapes fewer runes than json.Marshal (it writes <, > and & as they are), and the reader gives back the
-- same runes from either text

def ByteBuffer.base64 (b : ByteBuffer) : String := encodeToString b.data

def base64URLDecode (value : String) : Except String (List UInt8) :=
  decodeString ⟨(value.toList.reverse.dropWhile (· == '=')).reverse⟩

def ByteBuffer.unmarshalJSON (b : ByteBuffer) (data : Raw) : Except String ByteBuffer := do
  let encoded ← decodeStringField "string" {} "" data
  if encoded = "" then pure b else newBuffer <$> base64URLDecode encoded

def bufferValue (b : Option ByteBuffer) : Option Raw :=
  b.map fun b => .string b.base64

def stringsValue (xs : List String) : Option Raw :=
  if xs = [] then none else some (.array (xs.map .string))

def JWK.members (j : JWK) : List (String × Raw) :=
  optionalMember "use" (stringValue j.use) ++ optionalMember "kty" (stringValue j.kty) ++
    optionalMember "kid" (stringValue j.keyID) ++ optionalMember "crv" (stringValue j.crv) ++
    optionalMember "alg" (stringValue j.alg) ++ optionalMember "k" (bufferValue j.k) ++
    optionalMember "x" (bufferValue j.x) ++ optionalMember "y" (bufferValue j.y) ++
    optionalMember "n" (bufferValue j.n) ++ optionalMember "e" (bufferValue j.e) ++
    optionalMember "d" (bufferValue j.d) ++ optionalMember "p" (bufferValue j.p) ++
    optionalMember "q" (bufferValue j.q) ++ optionalMember "dp" (bufferValue j.dp) ++
    optionalMember "dq" (bufferValue j.dq) ++ optionalMember "qi" (bufferValue j.qi) ++
    optionalMember "x5c" (stringsValue j.x5c) ++ optionalMember "x5u" (stringValue j.x5u) ++
    optionalMember "x5t" (stringValue j.x5tSHA1) ++ optionalMember "x5t#S256" (stringValue j.x5tSHA256)

def JWK.marshal (j : JWK) : List UInt8 :=
  utf8 (writeValue (.object j.members))

def decodeStringList (ctx : ErrorContext) : List String → List Raw → Except String (List String)
  | _, [] => .ok []
  | current, x :: rest => do
    let s ← decodeStringField "string" ctx (current.head?.getD "") x
    let ss ← decodeStringList ctx current.tail rest
    pure (s :: ss)

def decodeStrings (ctx : ErrorContext) (current : List String) : Raw → Except String (List String)
  | .null => .ok []
  | .array xs => decodeStringList ctx current xs
  | .strings xs => decodeStringList ctx current (xs.map .string)
  | x => .error (unmarshalTypeError x.kind "[]string" ctx)

def bufferField (name : String) (get : JWK → Option ByteBuffer) (set : JWK → Option ByteBuffer → JWK) :
    StructField JWK :=
  ⟨name, fun _ j x => set j <$> decodePointer ⟨[]⟩ ByteBuffer.unmarshalJSON (get j) x⟩

def jwkFields : List (StructField JWK) :=
  [stringField "string" "use" (·.use) fun j v => { j with use := v },
    stringField "string" "kty" (·.kty) fun j v => { j with kty := v },
    stringField "string" "kid" (·.keyID) fun j v => { j with keyID := v },
    stringField "string" "crv" (·.crv) fun j v => { j with crv := v },
    stringField "string" "alg" (·.alg) fun j v => { j with alg := v },
    bufferField "k" (·.k) fun j b => { j with k := b },
    bufferField "x" (·.x) fun j b => { j with x := b },
    bufferField "y" (·.y) fun j b => { j with y := b },
    bufferField "n" (·.n) fun j b => { j with n := b },
    bufferField "e" (·.e) fun j b => { j with e := b },
    bufferField "d" (·.d) fun j b => { j with d := b },
    bufferField "p" (·.p) fun j b => { j with p := b },
    bufferField "q" (·.q) fun j b => { j with q := b },
    bufferField "dp" (·.dp) fun j b => { j with dp := b },
    bufferField "dq" (·.dq) fun j b => { j with dq := b },
    bufferField "qi" (·.qi) fun j b => { j with qi := b },
    ⟨"x5c", fun ctx j x => (fun xs => { j with x5c := xs }) <$> decodeStrings ctx j.x5c x⟩,
    stringField "string" "x5u" (·.x5u) fun j v => { j with x5u := v },
    stringField "string" "x5t" (·.x5tSHA1) fun j v => { j with x5tSHA1 := v },
    stringField "string" "x5t#S256" (·.x5tSHA256) fun j v => { j with x5tSHA256 := v }]

def unmarshalJWK (data : List UInt8) : Except String JWK := do
  let r ← parseText data
  decodeStruct "jwk.JWK" "JWK" jwkFields {} {} r

theorem base64URLDecode_base64 (b : ByteBuffer) : base64URLDecode b.base64 = .ok b.data := by
  have h : (encodeToString b.data).toList.reverse.dropWhile (· == '=') = (encodeToString b.data).toList.reverse := by
    cases hl : (encodeToString b.data).toList.reverse with
    | nil => rfl
    | cons c cs =>
      have hc : c ≠ '=' := fun he =>
        pad_not_mem_encodeToString b.data (List.mem_reverse.1 (hl ▸ he ▸ List.mem_cons_self _ _))
      simp only [List.dropWhile, beq_false_of_ne hc]
  rw [base64URLDecode, ByteBuffer.base64, h, List.reverse_reverse]
  exact decodeString_encodeToString b.data

theorem ByteBuffer.unmarshalJSON_base64 (b : ByteBuffer) :
    (⟨[]⟩ : ByteBuffer).unmarshalJSON (.string b.base64) = .ok b := by
  obtain ⟨_ | ⟨a, rest⟩⟩ := b
  · rfl
  · have hb : base64URLDecode (encodeToString (a :: rest)) = .ok (a :: rest) := base64URLDecode_base64 ⟨a :: rest⟩
    simp only [ByteBuffer.unmarshalJSON, ByteBuffer.base64, decodeStringField, Except.ok_bind,
      if_neg (encodeToString_cons_ne_empty a rest), hb, Except.map_ok]
    rfl

theorem decodePointer_base64 (b : Option ByteBuffer) :
    decodePointer ⟨[]⟩ ByteBuffer.unmarshalJSON none (b.elim .null fun b => .string b.base64) = .ok b := by
  cases b with
  | none => rfl
  | some b =>
    rw [Option.elim, decodePointer_of_ne_null (by simp), Option.getD_none, ByteBuffer.unmarshalJSON_base64,
      Except.map_ok]

theorem decodeStringList_map (ctx : ErrorContext) (xs : List String) :
    decodeStringList ctx [] (xs.map .string) = .ok xs := by
  induction xs with
  | nil => rfl
  | cons x xs ih =>
    simp only [List.map_cons, decodeStringList, List.head?_nil, List.tail_nil, ih]
    rfl

section Members
variable {α : Type} (structName : String) (fields : List (StructField α)) (ctx : ErrorContext) {s : α}
  {k : String}

theorem decodeFields_stringValue_member (hnil : decodeFields structName fields ctx s [(k, .string "")] = .ok s)
    (v : String) (rest : List (String × Raw)) :
    decodeFields structName fields ctx s (optionalMember k (stringValue v) ++ rest) =
      decodeFields structName fields ctx s [(k, .string v)] >>= fun s' =>
        decodeFields structName fields ctx s' rest := by
  rw [decodeFields_append]
  congr 1
  unfold stringValue
  split_ifs with hv
  · rw [hv, hnil]; rfl
  · rfl

theorem decodeFields_bufferValue_member (hnull : decodeFields structName fields ctx s [(k, .null)] = .ok s)
    (b : Option ByteBuffer) (rest : List (String × Raw)) :
    decodeFields structName fields ctx s (optionalMember k (bufferValue b) ++ rest) =
      decodeFields structName fields ctx s [(k, b.elim .null fun b => .string b.base64)] >>= fun s' =>
        decodeFields structName fields ctx s' rest := by
  rw [decodeFields_append]
  congr 1
  cases b with
  | none => rw [Option.elim, hnull]; rfl
  | some b => rfl

theorem decodeFields_stringsValue_member (hnil : decodeFields structName fields ctx s [(k, .array [])] = .ok s)
    (xs : List String) (rest : List (String × Raw)) :
    decodeFields structName fields ctx s (optionalMember k (stringsValue xs) ++ rest) =
      decodeFields structName fields ctx s [(k, .array (xs.map .string))] >>= fun s' =>
        decodeFields structName fields ctx s' rest := by
  rw [decodeFields_append]
  congr 1
  unfold stringsValue
  split_ifs with hxs
  · rw [hxs, List.map_nil, hnil]; rfl
  · rfl

end Members

theorem plain_strings (xs : List String) : (Value.array (xs.map .string) : Raw).Plain ∧
    (Value.array (xs.map .string) : Raw).depth ≤ 1 := by
  have h : Value.PlainElements (xs.map .string) ∧ Value.depthElements (xs.map (.string : String → Raw)) = 0 := by
    induction xs with
    | nil => exact ⟨trivial, rfl⟩
    | cons x xs ih => exact ⟨⟨trivial, ih.1⟩, by simp [Value.depthElements, Value.depth, ih.2]⟩
  exact ⟨h.1, by simp [Value.depth, h.2]⟩

theorem JWK.members_plain (j : JWK) : ∀ p ∈ j.members, p.2.Plain ∧ p.2.depth ≤ 1 := by
  have hs : ∀ v : String, ∀ r ∈ (stringValue v : Option Raw), r.Plain ∧ r.depth ≤ 1 := by
    intro v r hr
    unfold stringValue at hr
    split_ifs at hr
    · cases hr
    · cases hr; exact plain_string v
  have hb : ∀ b, ∀ r ∈ bufferValue b, r.Plain ∧ r.depth ≤ 1 := by
    rintro (_ | b) r hr
    · cases hr
    · cases hr; exact plain_string _
  have hxs : ∀ xs, ∀ r ∈ stringsValue xs, r.Plain ∧ r.depth ≤ 1 := by
    intro xs r hr
    unfold stringsValue at hr
    split_ifs at hr
    · cases hr
    · cases hr; exact plain_strings xs
  simp only [JWK.members, List.mem_append, or_assoc]
  rintro p (h | h | h | h | h | h | h | h | h | h | h | h | h | h | h | h | h | h | h | h)
  all_goals first
    | exact mem_optionalMember_value h (hs _)
    | exact mem_optionalMember_value h (hb _)
    | exact mem_optionalMember_value h (hxs _)

theorem unmarshalJWK_marshal (j : JWK) : unmarshalJWK j.marshal = .ok j := by
  rw [unmarshalJWK, JWK.marshal, parseText_object j.members_plain, Except.ok_bind, decodeStruct]
  obtain ⟨use, kty, keyID, crv, alg, k, x, y, n, e, d, p, q, dp, dq, qi, x5c, x5u, x5tSHA1, x5tSHA256⟩ := j
  simp only [JWK.members, List.append_assoc]
  rw [← List.append_nil (optionalMember "x5t#S256" _)]
  simp only [decodeFields_stringValue_member, decodeFields_bufferValue_member, decodeFields_stringsValue_member,
    decodeFields, lookupField, jwkFields, stringField, bufferField, decodeStringField, List.find?, decodePointer_null,
    decodePointer_base64, decodeStrings, decodeStringList, decodeStringList_map, Except.map_ok, Except.ok_bind,
    Except.bind_ok_right, String.reduceBEq]

theorem createDIDKeyByJwk_unmarshalJWK (lib : Elliptic) (fp : Fingerprint) (j : JWK) :
    (liftError (unmarshalJWK j.marshal) >>= fun j => createDIDKeyByJwk lib fp (some j)) =
      createDIDKeyByJwk lib fp (some j) := by
  rw [unmarshalJWK_marshal]
  rfl

theorem createDIDKeyByJwk_agrees_with_raw_bytes (lib : Elliptic) (fp : Fingerprint) :
    (∀ curve code, (curve, code) ∈ [(Curve.p256, fp.p256PubKeyMultiCodec), (Curve.p384, fp.p384PubKeyMultiCodec),
        (Curve.p521, fp.p521PubKeyMultiCodec)] →
      ∀ data x y, lib.unmarshalCompressed curve data = some (x, y) →
        (fromEcdsaPubKeyBytes lib curve data >>= fun j => createDIDKeyByJwk lib fp (some j)) =
            pure (fp.createDIDKeyByCode code data) ∧
          (fromEcdsaPubKeyBytes lib curve data >>= fun j => liftError (unmarshalJWK j.marshal) >>= fun j =>
              createDIDKeyByJwk lib fp (some j)) = pure (fp.createDIDKeyByCode code data)) ∧
    ∀ k : List UInt8, k.length = 32 →
      (jwkFromX25519Key k >>= fun j => createDIDKeyByJwk lib fp (some j)) =
          pure (fp.createDIDKeyByCode fp.x25519PubKeyMultiCodec k) ∧
        (jwkFromX25519Key k >>= fun j => liftError (unmarshalJWK j.marshal) >>= fun j =>
            createDIDKeyByJwk lib fp (some j)) = pure (fp.createDIDKeyByCode fp.x25519PubKeyMultiCodec k) ∧
        createDIDKeyByJwk lib fp (some (fromEdPublicKey k)) = pure (fp.createED25519DIDKey k) ∧
        (liftError (unmarshalJWK (fromEdPublicKey k).marshal) >>= fun j => createDIDKeyByJwk lib fp (some j)) =
          pure (fp.createED25519DIDKey k) := by
  refine ⟨fun curve code hc data x y hb => ?_, fun k hk => ?_⟩
  · simp only [createDIDKeyByJwk_unmarshalJWK, and_self]
    simp only [List.mem_cons, Prod.mk.injEq, List.mem_singleton, List.not_mem_nil, or_false] at hc
    rcases hc with ⟨rfl, rfl⟩ | ⟨rfl, rfl⟩ | ⟨rfl, rfl⟩
    all_goals refine createDIDKeyByJwk_fromEcdsaPubKeyBytes lib fp ?_ ?_ ?_ hb <;> rfl
  · simp only [createDIDKeyByJwk_unmarshalJWK, and_self, and_self_left]
    exact ⟨createDIDKeyByJwk_jwkFromX25519Key lib fp hk, createDIDKeyByJwk_fromEdPublicKey lib fp hk⟩

def p256P : Nat := 0xffffffff00000001000000000000000000000000ffffffffffffffffffffffff

def p256B : Nat := 0x5ac635d8aa3a93e7b3ebbd55769886bc651d06b0cc53b0f63bce3c3e27d2604b

def p256Gx : Nat := 0x6b17d1f2e12c4247f8bce6e563a440f277037d812deb33a0f4a13945d898c296

def p256Gy : Nat := 0x4fe342e2fe1a7f9b8ee7eb4a7c0f9e162bce33576b315ececbb6406837bf51f5

def p256IsOnCurve (x y : Nat) : Bool :=
  x < p256P && y < p256P && y * y % p256P == (x * x * x + 3 * (p256P - x) + p256B) % p256P

def powMod (a e m : Nat) : Nat → Nat
  | 0 => 1 % m
  | fuel + 1 =>
    if e = 0 then 1 % m
    else
      let h := powMod (a * a % m) (e / 2) m fuel
      if e % 2 = 1 then a * h % m else h

-- p ≡ 3 (mod 4), so v ^ ((p + 1) / 4) is a square root of v when v has one
def p256Decompress (x : Nat) (b : UInt8) : Nat :=
  let r := powMod ((x * x * x + 3 * (p256P - x) + p256B) % p256P) ((p256P + 1) / 4) p256P 256
  if r % 2 = b.toNat % 2 then r else (p256P - r) % p256P

-- UnmarshalCompressed on P-256; the parity check is redundant there, no point of P-256 having y = 0
def p256UnmarshalCompressed : List UInt8 → Option (Nat × Nat)
  | b :: rest =>
    if rest.length = 32 ∧ (b = 2 ∨ b = 3) ∧ p256IsOnCurve (bigEndian rest) (p256Decompress (bigEndian rest) b) ∧
        p256Decompress (bigEndian rest) b % 2 = b.toNat % 2 then
      some (bigEndian rest, p256Decompress (bigEndian rest) b)
    else none
  | [] => none

theorem marshalCompressed_p256UnmarshalCompressed {data : List UInt8} {x y : Nat}
    (h : p256UnmarshalCompressed data = some (x, y)) :
    marshalCompressed (fun curve x y => curve == .p256 && p256IsOnCurve x y) .p256 x y = .ok data := by
  cases data with
  | nil => cases h
  | cons b rest =>
    rw [p256UnmarshalCompressed] at h
    split_ifs at h with hc
    obtain ⟨hlen, hb, hon, hpar⟩ := hc
    cases h
    have hle := (length_bigIntBytes_le_iff _ _).2 (bigEndian_lt rest)
    have hbytes : (Curve.p256.params.bitSize + 7) / 8 = rest.length := by rw [hlen]; rfl
    have hon' : (Curve.p256 == Curve.p256 && p256IsOnCurve (bigEndian rest) (p256Decompress (bigEndian rest) b)) =
        true := by simp only [beq_self_eq_true, Bool.true_and]; exact hon
    simp only [marshalCompressed,
      @panicIfNotOnCurve_of_isOnCurve (fun curve x y => curve == .p256 && p256IsOnCurve x y) .p256 _ _ hon',
      hbytes, fillBytes, if_neg (Nat.not_lt.mpr hle), pad_bigIntBytes_bigEndian, hpar, Go.pure_def, Go.bind_ok]
    rcases hb with rfl | rfl <;> rfl

theorem p256IsOnCurve_lt {x y : Nat} (h : p256IsOnCurve x y = true) : x < 2 ^ 256 ∧ y < 2 ^ 256 := by
  simp only [p256IsOnCurve, Bool.and_eq_true, decide_eq_true_eq] at h
  have hp : p256P < 2 ^ 256 := by unfold p256P; norm_num
  exact ⟨h.1.1.trans hp, h.1.2.trans hp⟩

def ellipticSample : Elliptic where
  isOnCurve curve x y := curve == .p256 && p256IsOnCurve x y
  unmarshalCompressed curve data := if curve = .p256 then p256UnmarshalCompressed data else none
  marshal_unmarshal curve data x y h := by
    dsimp only at h
    split_ifs at h with hc
    subst hc
    exact marshalCompressed_p256UnmarshalCompressed h
  onCurve_lt curve x y h := by
    simp only [Bool.and_eq_true, beq_iff_eq] at h
    obtain ⟨rfl, h⟩ := h
    exact p256IsOnCurve_lt h

def p256GCompressed : List UInt8 :=
  [0x03, 0x6b, 0x17, 0xd1, 0xf2, 0xe1, 0x2c, 0x42, 0x47, 0xf8, 0xbc, 0xe6, 0xe5, 0x63, 0xa4, 0x40, 0xf2, 0x77,
    0x03, 0x7d, 0x81, 0x2d, 0xeb, 0x33, 0xa0, 0xf4, 0xa1, 0x39, 0x45, 0xd8, 0x98, 0xc2, 0x96]

set_option maxRecDepth 20000 in
theorem createDIDKeyByJwk_agrees_sample :
    ellipticSample.unmarshalCompressed .p256 p256GCompressed = some (p256Gx, p256Gy) ∧
    (fromEcdsaPubKeyBytes ellipticSample .p256 p256GCompressed >>= fun j =>
        liftError (unmarshalJWK j.marshal) >>= fun j => createDIDKeyByJwk ellipticSample fingerprintSample (some j)) =
      pure (fingerprintSample.createDIDKeyByCode fingerprintSample.p256PubKeyMultiCodec p256GCompressed) ∧
    (List.replicate 32 (7 : UInt8)).length = 32 ∧
    (liftError (unmarshalJWK (fromEdPublicKey (List.replicate 32 7)).marshal) >>= fun j =>
        createDIDKeyByJwk ellipticSample fingerprintSample (some j)) =
      pure (fingerprintSample.createED25519DIDKey (List.replicate 32 7)) :=
  have hb : ellipticSample.unmarshalCompressed .p256 p256GCompressed = some (p256Gx, p256Gy) := by decide
  have h := createDIDKeyByJwk_agrees_with_raw_bytes ellipticSample fingerprintSample
  ⟨hb, (h.1 .p256 _ (List.mem_cons_self _ _) p256GCompressed _ _ hb).2, List.length_replicate 32 7,
    (h.2 (List.replicate 32 7) (List.length_replicate 32 7)).2.2.2⟩

end DidGo.Jose
