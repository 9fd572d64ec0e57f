import DidGo.Sidetree.Client

namespace DidGo.Client
open DidGo.Json DidGo.OperationParser

variable {N : Type}

structure UpdateRequestInfo (N : Type) where
  didSuffix : String
  patches : List (Option (Map N))
  updateCommitment : String
  updateKey : Option JWK
  multihashCode : Nat
  signer : Option (Signer N)
  revealValue : String
  anchorFrom : Int
  anchorUntil : Int

structure DeactivateRequestInfo (N : Type) where
  didSuffix : String
  recoveryKey : Option JWK
  signer : Option (Signer N)
  revealValue : String
  anchorFrom : Int
  anchorUntil : Int

structure UpdateSignedDataModel where
  updateKey : Option JWK
  deltaHash : String
  anchorFrom : Int
  anchorUntil : Int

structure DeactivateSignedDataModel where
  didSuffix : String
  revealValue : String
  recoveryKey : Option JWK
  anchorFrom : Int
  anchorUntil : Int

structure UpdateRequest (N : Type) where
  operation : String
  didSuffix : String
  revealValue : String
  signedData : String
  delta : Option (Model.DeltaModel N)

structure DeactivateRequest where
  operation : String
  didSuffix : String
  revealValue : String
  signedData : String

-- hashing.CalculateModelMultihash, signutil.SignModel and canonicalizer.MarshalCanonical on the update and
-- deactivate models; none of these packages is in the source tree.
structure SignedRequestLibraries (N : Type) where
  calculateModelMultihash : Model.DeltaModel N → Nat → Except String String
  signUpdate : UpdateSignedDataModel → Signer N → Except String String
  signDeactivate : DeactivateSignedDataModel → Signer N → Except String String
  marshalUpdate : UpdateRequest N → Except String (List UInt8)
  marshalDeactivate : DeactivateRequest → Except String (List UInt8)

section Builders
variable (lib : Libraries N) (slib : SignedRequestLibraries N)

def validateUpdateKey : Option JWK → Except String JWK
  | none => throw "missing update key"
  | some key => do
    lib.validateJWK key
    pure key

def validateUpdateRequest (info : UpdateRequestInfo N) : Except String (JWK × Signer N) := do
  check (info.didSuffix != "") "missing did unique suffix"
  check (info.revealValue != "") "missing reveal value"
  check (!info.patches.isEmpty) "missing update information"
  let key ← validateUpdateKey lib info.updateKey
  let signer ← validateSigner info.signer
  pure (key, signer)

def newUpdateRequest (info : UpdateRequestInfo N) : Except String (List UInt8) := do
  let (key, signer) ← validateUpdateRequest lib info
  let delta : Model.DeltaModel N := { updateCommitment := info.updateCommitment, patches := info.patches }
  let deltaHash ← slib.calculateModelMultihash delta info.multihashCode
  let signedDataModel : UpdateSignedDataModel := ⟨info.updateKey, deltaHash, info.anchorFrom, info.anchorUntil⟩
  validateCommitment lib key info.multihashCode info.updateCommitment
  let signModel ← slib.signUpdate signedDataModel signer
  slib.marshalUpdate ⟨"update", info.didSuffix, info.revealValue, signModel, some delta⟩

def validateDeactivateRequest (info : DeactivateRequestInfo N) : Except String (Signer N) := do
  check (info.didSuffix != "") "missing did unique suffix"
  check (info.revealValue != "") "missing reveal value"
  validateSigner info.signer

def newDeactivateRequest (info : DeactivateRequestInfo N) : Except String (List UInt8) := do
  let signer ← validateDeactivateRequest info
  let signedDataModel : DeactivateSignedDataModel :=
    { didSuffix := info.didSuffix, revealValue := "", recoveryKey := info.recoveryKey,
      anchorFrom := info.anchorFrom, anchorUntil := info.anchorUntil }
  let signModel ← slib.signDeactivate signedDataModel signer
  slib.marshalDeactivate ⟨"deactivate", info.didSuffix, info.revealValue, signModel⟩

theorem validateUpdateKey_ok_iff (k : Option JWK) (key : JWK) :
    validateUpdateKey lib k = .ok key ↔ k = some key ∧ lib.validateJWK key = .ok () := by
  rcases k with _ | k
  · simp [validateUpdateKey, throw, throwThe, MonadExceptOf.throw]
  · simp only [validateUpdateKey, Except.bind_ok_iff, pure, Except.pure, Except.ok.injEq, Option.some.injEq]
    exact ⟨fun ⟨h, e⟩ => ⟨e, e ▸ h⟩, fun ⟨e, h⟩ => ⟨e ▸ h, e⟩⟩

theorem validateUpdateRequest_ok_iff (info : UpdateRequestInfo N) (key : JWK) (s : Signer N) :
    validateUpdateRequest lib info = .ok (key, s) ↔
      info.didSuffix ≠ "" ∧ info.revealValue ≠ "" ∧ info.patches ≠ [] ∧ info.updateKey = some key ∧
        lib.validateJWK key = .ok () ∧ validateSigner info.signer = .ok s := by
  simp only [validateUpdateRequest, Except.bind_ok_iff]
  simp only [Except.bind_eq_ok_iff, check_ok_iff, bne_iff_ne, Bool.not_eq_true', List.isEmpty_eq_false,
    validateUpdateKey_ok_iff, pure, Except.pure, Except.ok.injEq, Prod.mk.injEq]
  constructor
  · rintro ⟨hs, hr, hp, k, ⟨hk, hjwk⟩, s', hsig, rfl, rfl⟩
    exact ⟨hs, hr, hp, hk, hjwk, hsig⟩
  · rintro ⟨hs, hr, hp, hk, hjwk, hsig⟩
    exact ⟨hs, hr, hp, key, ⟨hk, hjwk⟩, s, hsig, rfl, rfl⟩

theorem validateDeactivateRequest_ok_iff (info : DeactivateRequestInfo N) (s : Signer N) :
    validateDeactivateRequest info = .ok s ↔
      info.didSuffix ≠ "" ∧ info.revealValue ≠ "" ∧ validateSigner info.signer = .ok s := by
  simp [validateDeactivateRequest, Except.bind_ok_iff]

theorem validateCommitment_client_ok_iff (jwk : JWK) (code : Nat) (next : String) :
    validateCommitment lib jwk code next = .ok () ↔ ∃ c, lib.getCommitment jwk code = .ok c ∧ c ≠ next := by
  cases h : lib.getCommitment jwk code <;> simp [validateCommitment, wrapError, h, bind, Except.bind]

end Builders

def acceptingSignedRequests : SignedRequestLibraries Unit where
  calculateModelMultihash := fun _ _ => .ok "deltaHash"
  signUpdate := fun _ _ => .ok "jws"
  signDeactivate := fun _ _ => .ok "jws"
  marshalUpdate := fun _ => .ok []
  marshalDeactivate := fun _ => .ok []

def updateSampleInfo : UpdateRequestInfo Unit where
  didSuffix := "suffix"
  patches := [some []]
  updateCommitment := "update"
  updateKey := some sampleKey
  multihashCode := 18
  signer := some ⟨some [("alg", .string "ES256")]⟩
  revealValue := "reveal"
  anchorFrom := 0
  anchorUntil := 0

def deactivateSampleInfo : DeactivateRequestInfo Unit where
  didSuffix := "suffix"
  recoveryKey := none
  signer := some ⟨some [("alg", .string "ES256")]⟩
  revealValue := "reveal"
  anchorFrom := 0
  anchorUntil := 0

end DidGo.Client
