import DidGo.Sidetree.Model
import Mathlib.Algebra.Order.Ring.Int

namespace DidGo.OperationParser
open DidGo.Json

variable {N : Type}

structure JWK where
  kty : String
  crv : String
  x : String
  y : String
  nonce : String
  deriving DecidableEq, Repr

structure RecoverRequest (N : Type) where
  operation : String
  didSuffix : String
  revealValue : String
  signedData : String
  delta : Option (Model.DeltaModel N)

structure RecoverSignedDataModel (N : Type) where
  deltaHash : String
  recoveryKey : Option JWK
  recoveryCommitment : String
  anchorOrigin : Value N
  anchorFrom : Int
  anchorUntil : Int

structure JSONWebSignature (N : Type) where
  protectedHeaders : Option (Map N)
  payload : List UInt8

structure Operation (N : Type) where
  operationRequest : List UInt8
  type : String
  uniqueSuffix : String
  delta : Option (Model.DeltaModel N)
  signedData : String
  revealValue : String
  anchorOrigin : Value N

-- The JSON, JWS, encoder, hashing and commitment packages the parser calls; they are not in the source tree,
-- so the parser takes them as given.
structure Libraries (N : Type) where
  unmarshalRecoverRequest : List UInt8 → Except String (RecoverRequest N)
  unmarshalRecoverSignedData : List UInt8 → Except String (RecoverSignedDataModel N)
  parseJWS : String → Except String (JSONWebSignature N)
  validateJWK : JWK → Except String Unit
  decodeString : String → Except String (List UInt8)
  getMultihashCode : String → Except String Nat
  getCommitment : JWK → Nat → Except String String
  calculateModelMultihash : JWK → Nat → Except String String

structure Parser (N : Type) where
  signatureAlgorithms : List String
  keyAlgorithms : List String
  nonceSize : Nat
  maxDeltaSize : UInt64
  anchorOriginValidator : Value N → Except String Unit
  anchorTimeValidator : Int → Int → Except String Unit
  validateDelta : Option (Model.DeltaModel N) → Except String Unit
  validateMultihash : String → String → Except String Unit
  lib : Libraries N

def wrapError {α : Type} (p : String) : Except String α → Except String α
  | .error e => .error (p ++ e)
  | .ok a => .ok a

@[simp] theorem wrapError_ok_iff {α : Type} (p : String) (x : Except String α) (a : α) :
    wrapError p x = .ok a ↔ x = .ok a := by
  cases x <;> simp [wrapError]

def contains (values : List String) (value : String) : Bool := values.any (· == value)

@[simp] theorem contains_iff (values : List String) (value : String) :
    contains values value = true ↔ value ∈ values := by
  simp [contains]

-- An integer as Go's int64 holds it: int64(x) of a wider value, and the result of int64 arithmetic, wrap
-- modulo 2^64 into [-2^63, 2^63).
def toInt64 (x : Int) : Int := (x + 2 ^ 63) % 2 ^ 64 - 2 ^ 63

def goList (values : List String) : String := "[" ++ " ".intercalate values ++ "]"

-- Modelled from the spec: jws.Headers.Algorithm is not in the source tree; it reads the string member alg of
-- the protected header.
def algorithm (headers : Map N) : Option String :=
  match headers.get "alg" with
  | some (.string alg) => some alg
  | _ => none

-- Modelled from the spec: hashing.IsValidModelMultihash is not in the source tree; the reveal value must be
-- the multihash of the canonical key under the algorithm it encodes.
def isValidModelMultihash (lib : Libraries N) (key : JWK) (revealValue : String) :
    Except String Unit := do
  let code ← lib.getMultihashCode revealValue
  let computed ← lib.calculateModelMultihash key code
  check (computed == revealValue) "supplied hash doesn't match original content"

namespace Parser

variable (p : Parser N)

def validateRecoverRequest (req : RecoverRequest N) : Except String Unit := do
  check (req.didSuffix != "") "missing did suffix"
  check (req.signedData != "") "missing signed data"
  p.validateMultihash req.revealValue "reveal value"

def parseRecoverRequest (payload : List UInt8) : Except String (RecoverRequest N) := do
  let schema ← wrapError "failed to unmarshal recover request: " (p.lib.unmarshalRecoverRequest payload)
  p.validateRecoverRequest schema
  pure schema

def validateProtectedHeaders (headers : Option (Map N)) (allowedAlgorithms : List String) :
    Except String Unit :=
  match headers with
  | none => throw "missing protected headers"
  | some headers =>
    match algorithm headers with
    | none => throw "algorithm must be present in the protected header"
    | some alg => do
      check (alg != "") "algorithm cannot be empty in the protected header"
      headers.keys.forM fun k => check (k == "alg" || k == "kid") ("invalid protected header: " ++ k)
      check (contains allowedAlgorithms alg)
        ("algorithm '" ++ alg ++ "' is not in the allowed list " ++ goList allowedAlgorithms)

def parseSignedData (compactJWS : String) : Except String (JSONWebSignature N) := do
  check (compactJWS != "") "missing signed data"
  let sig ← wrapError "failed to parse signed data: " (p.lib.parseJWS compactJWS)
  wrapError "failed to parse signed data: "
    (validateProtectedHeaders sig.protectedHeaders p.signatureAlgorithms)
  pure sig

def validateNonce (nonce : String) : Except String Unit :=
  if nonce = "" then pure ()
  else do
    let nonceBytes ← wrapError ("failed to decode nonce '" ++ nonce ++ "': ") (p.lib.decodeString nonce)
    check (nonceBytes.length == p.nonceSize) ("nonce size '" ++ toString nonceBytes.length ++
      "' doesn't match configured nonce size '" ++ toString p.nonceSize ++ "'")

def validateSigningKey : Option JWK → Except String Unit
  | none => throw "missing signing key"
  | some key => do
    wrapError "signing key validation failed: " (p.lib.validateJWK key)
    check (contains p.keyAlgorithms key.crv)
      ("key algorithm '" ++ key.crv ++ "' is not in the allowed list " ++ goList p.keyAlgorithms)
    wrapError "validate signing key nonce: " (p.validateNonce key.nonce)

def validateCommitment (jwk : JWK) (nextCommitment : String) : Except String Unit := do
  let code ← p.lib.getMultihashCode nextCommitment
  let currentCommitment ← wrapError "calculate current commitment: " (p.lib.getCommitment jwk code)
  check (currentCommitment != nextCommitment) "re-using public keys for commitment is not allowed"

def validateSignedDataForRecovery (signedData : RecoverSignedDataModel N) : Except String Unit := do
  p.validateSigningKey signedData.recoveryKey
  p.validateMultihash signedData.recoveryCommitment "recovery commitment"
  p.validateMultihash signedData.deltaHash "delta hash"
  match signedData.recoveryKey with
  | some key => p.validateCommitment key signedData.recoveryCommitment
  | none => pure ()

def parseSignedDataForRecover (compactJWS : String) : Except String (RecoverSignedDataModel N) := do
  let signedData ← p.parseSignedData compactJWS
  let schema ← wrapError "failed to unmarshal signed data model for recover: "
    (p.lib.unmarshalRecoverSignedData signedData.payload)
  wrapError "validate signed data for recovery: " (p.validateSignedDataForRecovery schema)
  pure schema

def getAnchorUntil (anchorFrom anchorUntil : Int) : Int :=
  if anchorFrom ≠ 0 ∧ anchorUntil = 0 then toInt64 (anchorFrom + toInt64 p.maxDeltaSize.toNat) else anchorUntil

def nonBatchChecks (schema : RecoverRequest N) (signedData : RecoverSignedDataModel N) : Go Unit := do
  liftError (p.anchorOriginValidator signedData.anchorOrigin)
  let anchorUntil := p.getAnchorUntil signedData.anchorFrom signedData.anchorUntil
  liftError (p.anchorTimeValidator signedData.anchorFrom anchorUntil)
  liftError (p.validateDelta schema.delta)
  match schema.delta with
  | none => throw nilDereference
  | some delta =>
    if delta.updateCommitment = signedData.recoveryCommitment then
      throw (.error "recovery and update commitments cannot be equal, re-using public keys is not allowed")
    else pure ()

def revealValueCheck (schema : RecoverRequest N) (signedData : RecoverSignedDataModel N) : Go Unit :=
  match signedData.recoveryKey with
  | none => throw nilDereference
  | some key =>
    liftError (wrapError "canonicalized recovery public key hash doesn't match reveal value: "
      (isValidModelMultihash p.lib key schema.revealValue))

def parseRecoverOperation (request : List UInt8) (batch : Bool) : Go (Operation N) := do
  let schema ← liftError (p.parseRecoverRequest request)
  let signedData ← liftError (p.parseSignedDataForRecover schema.signedData)
  if !batch then p.nonBatchChecks schema signedData
  p.revealValueCheck schema signedData
  pure { operationRequest := request, type := "recover", uniqueSuffix := schema.didSuffix,
         delta := schema.delta, signedData := schema.signedData, revealValue := schema.revealValue,
         anchorOrigin := signedData.anchorOrigin }

theorem validateRecoverRequest_ok_iff (req : RecoverRequest N) :
    p.validateRecoverRequest req = .ok () ↔
      req.didSuffix ≠ "" ∧ req.signedData ≠ "" ∧ p.validateMultihash req.revealValue "reveal value" = .ok () := by
  simp [validateRecoverRequest, Except.bind_ok_iff]

theorem parseRecoverRequest_ok_iff (payload : List UInt8) (R : RecoverRequest N) :
    p.parseRecoverRequest payload = .ok R ↔
      p.lib.unmarshalRecoverRequest payload = .ok R ∧ p.validateRecoverRequest R = .ok () := by
  simp [parseRecoverRequest, Except.bind_eq_ok_iff]

theorem validateProtectedHeaders_ok_iff (headers : Option (Map N)) (allowed : List String) :
    validateProtectedHeaders headers allowed = .ok () ↔
      ∃ h alg, headers = some h ∧ algorithm h = some alg ∧ alg ≠ "" ∧
        (∀ k ∈ h.keys, k = "alg" ∨ k = "kid") ∧ alg ∈ allowed := by
  unfold validateProtectedHeaders
  rcases headers with _ | h
  · simp [throw, throwThe, MonadExceptOf.throw]
  · rcases halg : algorithm h with _ | alg
    · simp [halg, throw, throwThe, MonadExceptOf.throw]
    · simp [halg, Except.bind_ok_iff, Except.forM_ok_iff]

theorem parseSignedData_ok_iff (compactJWS : String) (sig : JSONWebSignature N) :
    p.parseSignedData compactJWS = .ok sig ↔
      compactJWS ≠ "" ∧ p.lib.parseJWS compactJWS = .ok sig ∧
        validateProtectedHeaders sig.protectedHeaders p.signatureAlgorithms = .ok () := by
  simp [parseSignedData, Except.bind_ok_iff, Except.bind_eq_ok_iff]

theorem validateNonce_ok_iff (nonce : String) :
    p.validateNonce nonce = .ok () ↔
      nonce = "" ∨ ∃ bs, p.lib.decodeString nonce = .ok bs ∧ bs.length = p.nonceSize := by
  unfold validateNonce
  split_ifs with h
  · simp [h, pure, Except.pure]
  · simp [h, Except.bind_eq_ok_iff]

theorem validateSigningKey_ok_iff (key : Option JWK) :
    p.validateSigningKey key = .ok () ↔
      ∃ k, key = some k ∧ p.lib.validateJWK k = .ok () ∧ k.crv ∈ p.keyAlgorithms ∧
        p.validateNonce k.nonce = .ok () := by
  rcases key with _ | k
  · simp [validateSigningKey, throw, throwThe, MonadExceptOf.throw]
  · simp [validateSigningKey, Except.bind_ok_iff]

theorem validateCommitment_ok_iff (jwk : JWK) (next : String) :
    p.validateCommitment jwk next = .ok () ↔
      ∃ code c, p.lib.getMultihashCode next = .ok code ∧ p.lib.getCommitment jwk code = .ok c ∧
        c ≠ next := by
  simp [validateCommitment, Except.bind_eq_ok_iff]

theorem validateSignedDataForRecovery_ok_iff (S : RecoverSignedDataModel N) :
    p.validateSignedDataForRecovery S = .ok () ↔
      p.validateSigningKey S.recoveryKey = .ok () ∧
        p.validateMultihash S.recoveryCommitment "recovery commitment" = .ok () ∧
        p.validateMultihash S.deltaHash "delta hash" = .ok () ∧
        ∃ key, S.recoveryKey = some key ∧ p.validateCommitment key S.recoveryCommitment = .ok () := by
  unfold validateSignedDataForRecovery
  rcases hk : S.recoveryKey with _ | key
  · simp [validateSigningKey, Except.bind_ok_iff, throw, throwThe, MonadExceptOf.throw]
  · simp [Except.bind_ok_iff]

theorem parseSignedDataForRecover_ok_iff (compactJWS : String) (S : RecoverSignedDataModel N) :
    p.parseSignedDataForRecover compactJWS = .ok S ↔
      ∃ sig, p.parseSignedData compactJWS = .ok sig ∧ p.lib.unmarshalRecoverSignedData sig.payload = .ok S ∧
        p.validateSignedDataForRecovery S = .ok () := by
  simp [parseSignedDataForRecover, Except.bind_eq_ok_iff]

theorem nonBatchChecks_ok_iff (schema : RecoverRequest N) (S : RecoverSignedDataModel N) :
    p.nonBatchChecks schema S = .ok () ↔
      p.anchorOriginValidator S.anchorOrigin = .ok () ∧
        p.anchorTimeValidator S.anchorFrom (p.getAnchorUntil S.anchorFrom S.anchorUntil) = .ok () ∧
        p.validateDelta schema.delta = .ok () ∧
        ∃ d, schema.delta = some d ∧ d.updateCommitment ≠ S.recoveryCommitment := by
  unfold nonBatchChecks
  rcases schema.delta with _ | d
  · simp [Except.bind_eq_ok_iff, nilDereference]
  · by_cases h : d.updateCommitment = S.recoveryCommitment <;> simp [Except.bind_eq_ok_iff, h]

theorem revealValueCheck_ok_iff (schema : RecoverRequest N) (S : RecoverSignedDataModel N) :
    p.revealValueCheck schema S = .ok () ↔
      ∃ key, S.recoveryKey = some key ∧ isValidModelMultihash p.lib key schema.revealValue = .ok () := by
  unfold revealValueCheck
  rcases S.recoveryKey with _ | key <;> simp [nilDereference]

theorem parseRecoverOperation_ok_iff (request : List UInt8) (op : Operation N) :
    p.parseRecoverOperation request false = .ok op ↔
      ∃ R S, p.parseRecoverRequest request = .ok R ∧ p.parseSignedDataForRecover R.signedData = .ok S ∧
        p.nonBatchChecks R S = .ok () ∧ p.revealValueCheck R S = .ok () ∧
        op = { operationRequest := request, type := "recover", uniqueSuffix := R.didSuffix,
               delta := R.delta, signedData := R.signedData, revealValue := R.revealValue,
               anchorOrigin := S.anchorOrigin } := by
  simp [parseRecoverOperation, Except.bind_eq_ok_iff, @eq_comm _ _ op]

end Parser

def RecoverInvariants (p : Parser N) (request : List UInt8) (op : Operation N) : Prop :=
  ∃ (R : RecoverRequest N) (sig : JSONWebSignature N) (S : RecoverSignedDataModel N) (key : JWK)
    (d : Model.DeltaModel N),
    p.lib.unmarshalRecoverRequest request = .ok R ∧ p.lib.parseJWS R.signedData = .ok sig ∧
    p.lib.unmarshalRecoverSignedData sig.payload = .ok S ∧
    R.didSuffix ≠ "" ∧ R.signedData ≠ "" ∧
    (∃ h alg, sig.protectedHeaders = some h ∧ algorithm h = some alg ∧ alg ≠ "" ∧
      alg ∈ p.signatureAlgorithms ∧ ∀ k ∈ h.keys, k = "alg" ∨ k = "kid") ∧
    S.recoveryKey = some key ∧ p.lib.validateJWK key = .ok () ∧ key.crv ∈ p.keyAlgorithms ∧
    (key.nonce = "" ∨ ∃ bs, p.lib.decodeString key.nonce = .ok bs ∧ bs.length = p.nonceSize) ∧
    (∃ code, p.lib.getMultihashCode R.revealValue = .ok code ∧
      p.lib.calculateModelMultihash key code = .ok R.revealValue) ∧
    (∃ code c, p.lib.getMultihashCode S.recoveryCommitment = .ok code ∧
      p.lib.getCommitment key code = .ok c ∧ c ≠ S.recoveryCommitment) ∧
    R.delta = some d ∧ d.updateCommitment ≠ S.recoveryCommitment ∧
    op.type = "recover" ∧ op.uniqueSuffix = R.didSuffix ∧ op.delta = R.delta ∧
    op.signedData = R.signedData ∧ op.revealValue = R.revealValue ∧ op.anchorOrigin = S.anchorOrigin

theorem isValidModelMultihash_ok_iff (lib : Libraries N) (key : JWK) (revealValue : String) :
    isValidModelMultihash lib key revealValue = .ok () ↔
      ∃ code, lib.getMultihashCode revealValue = .ok code ∧
        lib.calculateModelMultihash key code = .ok revealValue := by
  simp [isValidModelMultihash, Except.bind_eq_ok_iff]

theorem parseRecoverOperation_invariants (p : Parser N) (request : List UInt8) (op : Operation N)
    (h : p.parseRecoverOperation request false = .ok op) : RecoverInvariants p request op := by
  obtain ⟨R, S, hR, hS, hnb, hrv, rfl⟩ := (p.parseRecoverOperation_ok_iff request op).1 h
  obtain ⟨hu, hv⟩ := (p.parseRecoverRequest_ok_iff request R).1 hR
  obtain ⟨hsuffix, hsigned, -⟩ := (p.validateRecoverRequest_ok_iff R).1 hv
  obtain ⟨sig, hsig, hpayload, hvs⟩ := (p.parseSignedDataForRecover_ok_iff _ S).1 hS
  obtain ⟨-, hjws, hheaders⟩ := (p.parseSignedData_ok_iff _ sig).1 hsig
  obtain ⟨hkey, -, -, key, hk, hcommit⟩ := (p.validateSignedDataForRecovery_ok_iff S).1 hvs
  obtain ⟨key', hk', hjwk, hcrv, hnonce⟩ := (p.validateSigningKey_ok_iff _).1 hkey
  obtain ⟨-, -, -, d, hd, hne⟩ := (p.nonBatchChecks_ok_iff R S).1 hnb
  obtain ⟨key'', hk'', hreveal⟩ := (p.revealValueCheck_ok_iff R S).1 hrv
  rw [hk] at hk' hk''
  cases hk'
  cases hk''
  obtain ⟨hh, alg, hhs, halg, hne', hkeys, hin⟩ := (Parser.validateProtectedHeaders_ok_iff _ _).1 hheaders
  exact ⟨R, sig, S, key, d, hu, hjws, hpayload, hsuffix, hsigned, ⟨hh, alg, hhs, halg, hne', hin, hkeys⟩,
    hk, hjwk, hcrv, (p.validateNonce_ok_iff _).1 hnonce,
    (isValidModelMultihash_ok_iff _ _ _).1 (by simpa using hreveal),
    (p.validateCommitment_ok_iff _ _).1 hcommit, hd, hne, rfl, rfl, rfl, rfl, rfl, rfl⟩

def sampleKey : JWK := ⟨"EC", "P-256", "x", "y", ""⟩

def sampleRequest : RecoverRequest Unit := ⟨"recover", "suffix", "reveal", "jws", some ⟨"update", []⟩⟩

def sampleSignedData : RecoverSignedDataModel Unit := ⟨"deltaHash", some sampleKey, "recovery", .null, 0, 0⟩

def sampleParser : Parser Unit where
  signatureAlgorithms := ["ES256"]
  keyAlgorithms := ["P-256"]
  nonceSize := 16
  maxDeltaSize := 1000
  anchorOriginValidator := fun _ => .ok ()
  anchorTimeValidator := fun _ _ => .ok ()
  validateDelta := fun _ => .ok ()
  validateMultihash := fun _ _ => .ok ()
  lib := { unmarshalRecoverRequest := fun _ => .ok sampleRequest
           unmarshalRecoverSignedData := fun _ => .ok sampleSignedData
           parseJWS := fun _ => .ok ⟨some [("alg", .string "ES256")], []⟩
           validateJWK := fun _ => .ok ()
           decodeString := fun _ => .ok []
           getMultihashCode := fun _ => .ok 18
           getCommitment := fun _ _ => .ok "commitment"
           calculateModelMultihash := fun _ _ => .ok "reveal" }

def sampleOperation : Operation Unit :=
  ⟨[], "recover", "suffix", some ⟨"update", []⟩, "jws", "reveal", .null⟩

theorem parseRecoverOperation_invariants_sample :
    sampleParser.parseRecoverOperation [] false = .ok sampleOperation ∧
      RecoverInvariants sampleParser [] sampleOperation :=
  ⟨rfl, parseRecoverOperation_invariants sampleParser [] sampleOperation rfl⟩

namespace Parser

variable (p : Parser N)

theorem toInt64_add_toInt64 (a b : Int) : toInt64 (a + toInt64 b) = toInt64 (a + b) := by
  unfold toInt64
  omega

theorem getAnchorUntil_wraps {anchorFrom : Int} (hlo : -2 ^ 63 ≤ anchorFrom) (hhi : anchorFrom < 2 ^ 63)
    (h0 : anchorFrom ≠ 0) (hover : 2 ^ 63 ≤ anchorFrom + p.maxDeltaSize.toNat) :
    p.getAnchorUntil anchorFrom 0 = anchorFrom + p.maxDeltaSize.toNat - 2 ^ 64 ∧
      p.getAnchorUntil anchorFrom 0 < anchorFrom := by
  have hM : p.maxDeltaSize.toNat < 2 ^ 64 := p.maxDeltaSize.toNat_lt_size
  rw [getAnchorUntil, if_pos ⟨h0, rfl⟩, toInt64_add_toInt64]
  unfold toInt64
  omega

theorem getAnchorUntil_wraps_max :
    sampleParser.getAnchorUntil (2 ^ 63 - 1) 0 = 2 ^ 63 - 1 + 1000 - 2 ^ 64 ∧
      sampleParser.getAnchorUntil (2 ^ 63 - 1) 0 < 2 ^ 63 - 1 :=
  getAnchorUntil_wraps sampleParser (by decide) (by decide) (by decide) (by decide)

end Parser

end DidGo.OperationParser
