import DidGo.Sidetree.LongForm
import DidGo.Sidetree.RecoverParser

namespace DidGo.Client
open DidGo.Json DidGo.OperationParser

variable {N : Type}

-- A Signer as the builders see it: its protected headers, nil when none. Sign is reached only through
-- signutil.SignModel.
structure Signer (N : Type) where
  headers : Option (Map N)

structure RecoverRequestInfo (N : Type) where
  didSuffix : String
  recoveryKey : Option JWK
  opaqueDocument : String
  patches : List (Option (Map N))
  recoveryCommitment : String
  updateCommitment : String
  anchorOrigin : Value N
  anchorFrom : Int
  anchorUntil : Int
  multihashCode : Nat
  signer : Option (Signer N)
  revealValue : String

-- The patch, hashing, signutil and canonicalizer packages the builders call, besides the jws and commitment
-- packages they share with the parser; none is in the source tree.
structure ClientLibraries (N : Type) where
  patchesFromDocument : String → Except String (List (Option (Map N)))
  calculateModelMultihash : Model.DeltaModel N → Nat → Except String String
  signModel : RecoverSignedDataModel N → Signer N → Except String String
  marshalCanonical : RecoverRequest N → Except String (List UInt8)

section Builder
variable (lib : Libraries N) (clib : ClientLibraries N)

def getPatches (opaqueDocument : String) (patches : List (Option (Map N))) :
    Except String (List (Option (Map N))) :=
  if opaqueDocument != "" then clib.patchesFromDocument opaqueDocument else .ok patches

def validatePatchSource (opaqueDocument : String) (patches : List (Option (Map N))) : Except String Unit := do
  check (!(opaqueDocument == "" && patches.isEmpty)) "either opaque document or patches have to be supplied"
  check (!(opaqueDocument != "" && !patches.isEmpty)) "cannot provide both opaque document and patches"

def validateSigner : Option (Signer N) → Except String (Signer N)
  | none => throw "missing signer"
  | some signer =>
    match signer.headers with
    | none => throw "missing protected headers"
    | some headers =>
      match algorithm headers with
      | none => throw "algorithm must be present in the protected header"
      | some alg => do
        check (alg != "") "algorithm cannot be empty in the protected header"
        headers.keys.forM fun h =>
          check (h == "alg" || h == "kid") ("header '" ++ h ++ "' is not allowed in the protected headers")
        pure signer

def validateRecoveryKey : Option JWK → Except String JWK
  | none => throw "missing recovery key"
  | some key => do
    lib.validateJWK key
    pure key

def validateRecoverRequest (info : RecoverRequestInfo N) : Except String (Signer N × JWK) := do
  check (info.didSuffix != "") "missing did unique suffix"
  check (info.revealValue != "") "missing reveal value"
  validatePatchSource info.opaqueDocument info.patches
  let signer ← validateSigner info.signer
  let key ← validateRecoveryKey lib info.recoveryKey
  pure (signer, key)

def validateCommitment (jwk : JWK) (multihashCode : Nat) (nextCommitment : String) : Except String Unit := do
  let currentCommitment ← wrapError "calculate current commitment: " (lib.getCommitment jwk multihashCode)
  check (currentCommitment != nextCommitment) "re-using public keys for commitment is not allowed"

def newRecoverRequest (info : RecoverRequestInfo N) : Except String (List UInt8) := do
  let (signer, key) ← validateRecoverRequest lib info
  let patches ← getPatches clib info.opaqueDocument info.patches
  let delta : Model.DeltaModel N := { updateCommitment := info.updateCommitment, patches := patches }
  let deltaHash ← clib.calculateModelMultihash delta info.multihashCode
  let signedDataModel : RecoverSignedDataModel N :=
    ⟨deltaHash, info.recoveryKey, info.recoveryCommitment, info.anchorOrigin, info.anchorFrom, info.anchorUntil⟩
  validateCommitment lib key info.multihashCode info.recoveryCommitment
  let signModel ← clib.signModel signedDataModel signer
  clib.marshalCanonical ⟨"recover", info.didSuffix, info.revealValue, signModel, some delta⟩

theorem validateSigner_ok_iff (signer : Option (Signer N)) (s : Signer N) :
    validateSigner signer = .ok s ↔ signer = some s ∧
      ∃ h alg, s.headers = some h ∧ algorithm h = some alg ∧ alg ≠ "" ∧ ∀ k ∈ h.keys, k = "alg" ∨ k = "kid" := by
  rcases signer with _ | s'
  · simp [validateSigner, throw, throwThe, MonadExceptOf.throw]
  rcases hh : s'.headers with _ | h
  · simp only [validateSigner, hh, throw, throwThe, MonadExceptOf.throw, reduceCtorEq, false_iff, not_and,
      Option.some.injEq]
    rintro rfl ⟨h', -, hh', -⟩
    cases hh.symm.trans hh'
  rcases halg : algorithm h with _ | alg
  · simp only [validateSigner, hh, halg, throw, throwThe, MonadExceptOf.throw, reduceCtorEq, false_iff, not_and,
      Option.some.injEq]
    rintro rfl ⟨h', alg', hh', halg', -⟩
    cases hh.symm.trans hh'
    cases halg.symm.trans halg'
  simp only [validateSigner, hh, halg, Except.bind_ok_iff, Except.forM_ok_iff, check_ok_iff, bne_iff_ne, ne_eq,
    Bool.or_eq_true, beq_iff_eq, Option.some.injEq, pure, Except.pure, Except.ok.injEq]
  constructor
  · rintro ⟨hne, hkeys, rfl⟩
    exact ⟨rfl, h, alg, hh, halg, hne, hkeys⟩
  · rintro ⟨rfl, h', alg', hh', halg', hne, hkeys⟩
    cases hh.symm.trans hh'
    cases halg.symm.trans halg'
    exact ⟨hne, hkeys, rfl⟩

theorem validateProtectedHeaders_of_validateSigner {signer : Option (Signer N)} {s : Signer N}
    (hs : validateSigner signer = .ok s) {allowed : List String}
    (halg : ∀ h alg, s.headers = some h → algorithm h = some alg → alg ∈ allowed) :
    Parser.validateProtectedHeaders s.headers allowed = .ok () := by
  obtain ⟨-, h, alg, hh, ha, hne, hkeys⟩ := (validateSigner_ok_iff signer s).1 hs
  exact (Parser.validateProtectedHeaders_ok_iff _ _).2 ⟨h, alg, hh, ha, hne, hkeys, halg h alg hh ha⟩

theorem validateRecoveryKey_ok_iff (k : Option JWK) (key : JWK) :
    validateRecoveryKey lib k = .ok key ↔ k = some key ∧ lib.validateJWK key = .ok () := by
  rcases k with _ | k
  · simp [validateRecoveryKey, throw, throwThe, MonadExceptOf.throw]
  · simp only [validateRecoveryKey, Except.bind_ok_iff, pure, Except.pure, Except.ok.injEq, Option.some.injEq]
    constructor
    · rintro ⟨h, rfl⟩
      exact ⟨rfl, h⟩
    · rintro ⟨rfl, h⟩
      exact ⟨h, rfl⟩

theorem validateRecoverRequest_ok_iff (info : RecoverRequestInfo N) (s : Signer N) (key : JWK) :
    validateRecoverRequest lib info = .ok (s, key) ↔
      info.didSuffix ≠ "" ∧ info.revealValue ≠ "" ∧
        validatePatchSource info.opaqueDocument info.patches = .ok () ∧ validateSigner info.signer = .ok s ∧
        info.recoveryKey = some key ∧ lib.validateJWK key = .ok () := by
  simp [validateRecoverRequest, Except.bind_ok_iff, Except.bind_eq_ok_iff, validateRecoveryKey_ok_iff, pure,
    Except.pure]

theorem newRecoverRequest_ok {info : RecoverRequestInfo N} {req : List UInt8}
    (h : newRecoverRequest lib clib info = .ok req) :
    ∃ s key patches deltaHash jws, validateRecoverRequest lib info = .ok (s, key) ∧
      getPatches clib info.opaqueDocument info.patches = .ok patches ∧
      clib.calculateModelMultihash ⟨info.updateCommitment, patches⟩ info.multihashCode = .ok deltaHash ∧
      validateCommitment lib key info.multihashCode info.recoveryCommitment = .ok () ∧
      clib.signModel ⟨deltaHash, info.recoveryKey, info.recoveryCommitment, info.anchorOrigin, info.anchorFrom,
        info.anchorUntil⟩ s = .ok jws ∧
      clib.marshalCanonical ⟨"recover", info.didSuffix, info.revealValue, jws, some ⟨info.updateCommitment, patches⟩⟩ =
        .ok req := by
  obtain ⟨⟨s, key⟩, hv, h⟩ := Except.bind_eq_ok_iff.mp h
  obtain ⟨patches, hp, h⟩ := Except.bind_eq_ok_iff.mp h
  obtain ⟨deltaHash, hd, h⟩ := Except.bind_eq_ok_iff.mp h
  obtain ⟨hc, h⟩ := Except.bind_ok_iff.mp h
  obtain ⟨jws, hj, h⟩ := Except.bind_eq_ok_iff.mp h
  exact ⟨s, key, patches, deltaHash, jws, hv, hp, hd, hc, hj, h⟩

end Builder

theorem parserValidateCommitment_eq (p : Parser N) (jwk : JWK) (next : String) :
    p.validateCommitment jwk next = p.lib.getMultihashCode next >>= fun code => validateCommitment p.lib jwk code next :=
  rfl

section Agreement
variable {p : Parser N} {clib : ClientLibraries N} {info : RecoverRequestInfo N}

-- What the libraries on the two sides promise each other: the parser reads back the request and the signed
-- data the client writes, and a computed multihash carries the code it was computed with.
structure Agree (lib : Libraries N) (clib : ClientLibraries N) : Prop where
  unmarshal_marshal : ∀ R bytes, clib.marshalCanonical R = .ok bytes → ∃ R' : RecoverRequest N,
    lib.unmarshalRecoverRequest bytes = .ok R' ∧ R'.operation = R.operation ∧ R'.didSuffix = R.didSuffix ∧
      R'.revealValue = R.revealValue ∧ R'.signedData = R.signedData ∧
      R'.delta.map (·.updateCommitment) = R.delta.map (·.updateCommitment)
  parse_signModel : ∀ S signer jws, clib.signModel S signer = .ok jws → jws ≠ "" ∧
    ∃ sig : JSONWebSignature N, lib.parseJWS jws = .ok sig ∧ sig.protectedHeaders = signer.headers ∧
      lib.unmarshalRecoverSignedData sig.payload = .ok S
  code_deltaHash : ∀ d code h, clib.calculateModelMultihash d code = .ok h → lib.getMultihashCode h = .ok code

-- A protocol that admits the request info: its multihash code, the recovery commitment, the signer's
-- algorithm, the recovery key's curve and nonce, the anchor fields and the delta; and a reveal value that is
-- the recovery key's under the info's multihash code.
structure Admits (p : Parser N) (clib : ClientLibraries N) (info : RecoverRequestInfo N) : Prop where
  multihash_code : ∀ v name, p.lib.getMultihashCode v = .ok info.multihashCode → p.validateMultihash v name = .ok ()
  recovery_commitment : p.validateMultihash info.recoveryCommitment "recovery commitment" = .ok ()
  signer_alg : ∀ s h alg, info.signer = some s → s.headers = some h → algorithm h = some alg →
    alg ∈ p.signatureAlgorithms
  key_crv_nonce : ∀ key, info.recoveryKey = some key →
    key.crv ∈ p.keyAlgorithms ∧ p.validateNonce key.nonce = .ok ()
  reveal_value : ∀ key, info.recoveryKey = some key →
    p.lib.getMultihashCode info.revealValue = .ok info.multihashCode ∧
      p.lib.calculateModelMultihash key info.multihashCode = .ok info.revealValue
  anchor_origin : p.anchorOriginValidator info.anchorOrigin = .ok ()
  anchor_time : p.anchorTimeValidator info.anchorFrom (p.getAnchorUntil info.anchorFrom info.anchorUntil) = .ok ()
  delta : ∀ patches jws bytes R', getPatches clib info.opaqueDocument info.patches = .ok patches →
    clib.marshalCanonical ⟨"recover", info.didSuffix, info.revealValue, jws, some ⟨info.updateCommitment, patches⟩⟩ =
      .ok bytes → p.lib.unmarshalRecoverRequest bytes = .ok R' → p.validateDelta R'.delta = .ok ()

theorem parseRecoverOperation_newRecoverRequest (hagree : Agree p.lib clib) (hadm : Admits p clib info)
    {req : List UInt8} (h : newRecoverRequest p.lib clib info = .ok req) :
    ∃ (key : JWK) (R : RecoverRequest N) (d : Model.DeltaModel N), info.recoveryKey = some key ∧
      validateCommitment p.lib key info.multihashCode info.recoveryCommitment = .ok () ∧
      p.lib.unmarshalRecoverRequest req = .ok R ∧ R.operation = "recover" ∧ R.didSuffix = info.didSuffix ∧
      R.revealValue = info.revealValue ∧ R.delta = some d ∧ d.updateCommitment = info.updateCommitment ∧
      p.parseRecoverOperation req false =
        match p.validateCommitment key info.recoveryCommitment with
        | .error e => .error (.error ("validate signed data for recovery: " ++ e))
        | .ok () =>
          if info.updateCommitment = info.recoveryCommitment then
            .error (.error "recovery and update commitments cannot be equal, re-using public keys is not allowed")
          else .ok ⟨req, "recover", R.didSuffix, R.delta, R.signedData, R.revealValue, info.anchorOrigin⟩ := by
  obtain ⟨s, key, patches, deltaHash, jws, hv, hp, hdh, hc, hsign, hmar⟩ := newRecoverRequest_ok p.lib clib h
  obtain ⟨hsuffix, -, -, hs, hkey, hjwk⟩ := (validateRecoverRequest_ok_iff p.lib info s key).1 hv
  have hsigner := ((validateSigner_ok_iff _ _).1 hs).1
  obtain ⟨hjne, sig, hjws, hheaders, hpayload⟩ := hagree.parse_signModel _ _ _ hsign
  obtain ⟨R, hR, hop, hds, hrv', hsd, hdu⟩ := hagree.unmarshal_marshal _ _ hmar
  obtain ⟨d, hd, hdu⟩ := Option.map_eq_some'.mp hdu
  obtain ⟨hcrv, hnonce⟩ := hadm.key_crv_nonce key hkey
  obtain ⟨hrcode, hreveal⟩ := hadm.reveal_value key hkey
  refine ⟨key, R, d, hkey, hc, hR, hop, hds, hrv', hd, hdu, ?_⟩
  have hreq : p.parseRecoverRequest req = .ok R :=
    (p.parseRecoverRequest_ok_iff _ _).2 ⟨hR, (p.validateRecoverRequest_ok_iff _).2
      ⟨hds ▸ hsuffix, hsd ▸ hjne, hrv' ▸ hadm.multihash_code _ _ hrcode⟩⟩
  have hsig : p.parseSignedData jws = .ok sig := (p.parseSignedData_ok_iff _ _).2
    ⟨hjne, hjws, hheaders ▸ validateProtectedHeaders_of_validateSigner hs (hadm.signer_alg s · · hsigner)⟩
  have hkeyOk : p.validateSigningKey (some key) = .ok () :=
    (p.validateSigningKey_ok_iff _).2 ⟨key, rfl, hjwk, hcrv, hnonce⟩
  have hdelta : p.validateMultihash deltaHash "delta hash" = .ok () :=
    hadm.multihash_code _ _ (hagree.code_deltaHash _ _ _ hdh)
  have hrv : isValidModelMultihash p.lib key info.revealValue = .ok () :=
    (isValidModelMultihash_ok_iff _ _ _).2 ⟨_, hrcode, hreveal⟩
  simp only [Parser.parseRecoverOperation, hreq, liftError, Except.ok_bind, Parser.parseSignedDataForRecover, hsd, hsig,
    hpayload, wrapError, Parser.validateSignedDataForRecovery, hkey, hkeyOk, hadm.recovery_commitment, hdelta, pure,
    Except.pure]
  cases p.validateCommitment key info.recoveryCommitment with
  | error e => rfl
  | ok u =>
    have hvd : p.validateDelta (some d) = .ok () := hd ▸ hadm.delta _ _ _ _ hp hmar hR
    simp only [Parser.nonBatchChecks, hadm.anchor_origin, hadm.anchor_time, hd, hvd, hdu,
      Parser.revealValueCheck, hkey, hrv', hrv, liftError, wrapError, Except.ok_bind, Bool.not_false, ↓reduceIte]
    split_ifs <;> rfl

def recoverSampleRequest (update : String) : RecoverRequest Unit :=
  ⟨"recover", "suffix", "reveal", "ES256", some ⟨update, []⟩⟩

def recoverSampleSignedData (recovery : String) : RecoverSignedDataModel Unit :=
  ⟨"deltaHash", some sampleKey, recovery, .null, 0, 0⟩

def recoverSampleLibraries (update recovery : String) : Libraries Unit where
  unmarshalRecoverRequest := fun _ => .ok (recoverSampleRequest update)
  unmarshalRecoverSignedData := fun _ => .ok (recoverSampleSignedData recovery)
  parseJWS := fun jws => .ok ⟨some [("alg", .string jws)], []⟩
  validateJWK := fun _ => .ok ()
  decodeString := fun _ => .ok []
  getMultihashCode := fun h => .ok (if h = "recovery-sha3" then 22 else 18)
  getCommitment := fun _ code => .ok (if code = 22 then "recovery-sha3" else "commitment")
  calculateModelMultihash := fun _ code => if code = 18 then .ok "reveal" else .error "unsupported"

def recoverSampleClient (update recovery : String) : ClientLibraries Unit where
  patchesFromDocument := fun _ => .ok []
  calculateModelMultihash := fun _ code => if code = 18 then .ok "deltaHash" else .error "unsupported"
  signModel := fun S signer =>
    match signer.headers with
    | some [("alg", .string alg)] =>
      if alg ≠ "" ∧ S.deltaHash = "deltaHash" ∧ S.recoveryKey = some sampleKey ∧ S.recoveryCommitment = recovery ∧
        S.anchorOrigin.deepEqual .null ∧ S.anchorFrom = 0 ∧ S.anchorUntil = 0 then .ok alg
      else .error "unsupported"
    | _ => .error "unsupported"
  marshalCanonical := fun R =>
    if R.operation = "recover" ∧ R.didSuffix = "suffix" ∧ R.revealValue = "reveal" ∧ R.signedData = "ES256" ∧
      R.delta.map (fun d => (d.updateCommitment, d.patches.isEmpty)) = some (update, true) then .ok []
    else .error "unsupported"

def recoverSampleInfo (update recovery : String) : RecoverRequestInfo Unit where
  didSuffix := "suffix"
  recoveryKey := some sampleKey
  opaqueDocument := "doc"
  patches := []
  recoveryCommitment := recovery
  updateCommitment := update
  anchorOrigin := .null
  anchorFrom := 0
  anchorUntil := 0
  multihashCode := 18
  signer := some ⟨some [("alg", .string "ES256")]⟩
  revealValue := "reveal"

def recoverSampleParser (update recovery : String) : Parser Unit :=
  { sampleParser with lib := recoverSampleLibraries update recovery }

theorem recoverSample_agree (update recovery : String) :
    Agree (recoverSampleLibraries update recovery) (recoverSampleClient update recovery) where
  unmarshal_marshal := by
    rintro ⟨op, ds, rv, sd, delta⟩ bytes h
    dsimp only [recoverSampleClient] at h
    split_ifs at h with hc
    obtain ⟨rfl, rfl, rfl, rfl, hd⟩ := hc
    rcases delta with _ | ⟨uc, ps⟩
    · cases hd
    · simp only [Option.map_some', Option.some.injEq, Prod.mk.injEq] at hd
      exact ⟨_, rfl, rfl, rfl, rfl, rfl, by rw [hd.1]; rfl⟩
  parse_signModel := by
    rintro ⟨dh, key, rc, ao, af, au⟩ ⟨headers⟩ jws h
    dsimp only [recoverSampleClient] at h
    split at h
    · split_ifs at h with hc
      obtain ⟨hne, rfl, rfl, rfl, hao, rfl, rfl⟩ := hc
      cases h
      cases ao <;> simp only [Value.deepEqual, Bool.false_eq_true] at hao
      exact ⟨hne, _, rfl, by simp_all, rfl⟩
    · cases h
  code_deltaHash := by
    intro d code h hd
    dsimp only [recoverSampleClient] at hd
    split_ifs at hd with hc
    cases hd
    simp [recoverSampleLibraries, hc]

theorem recoverSample_admits (update recovery : String) :
    Admits (recoverSampleParser update recovery) (recoverSampleClient update recovery)
      (recoverSampleInfo update recovery) where
  multihash_code _ _ _ := rfl
  recovery_commitment := rfl
  signer_alg := by
    rintro s h alg ⟨⟩ ⟨⟩ ha
    cases ha
    exact List.mem_singleton_self _
  key_crv_nonce := by
    rintro key ⟨⟩
    exact ⟨List.mem_singleton_self _, rfl⟩
  reveal_value := by
    rintro key ⟨⟩
    exact ⟨rfl, rfl⟩
  anchor_origin := rfl
  anchor_time := rfl
  delta _ _ _ _ _ _ _ := rfl

theorem parseRecoverOperation_rejects_equal_commitments (hagree : Agree p.lib clib) (hadm : Admits p clib info)
    (hcode : p.lib.getMultihashCode info.recoveryCommitment = .ok info.multihashCode)
    (heq : info.updateCommitment = info.recoveryCommitment) {req : List UInt8}
    (h : newRecoverRequest p.lib clib info = .ok req) :
    p.parseRecoverOperation req false =
      .error (.error "recovery and update commitments cannot be equal, re-using public keys is not allowed") := by
  obtain ⟨key, R, d, -, hc, -, -, -, -, -, -, hparse⟩ := parseRecoverOperation_newRecoverRequest hagree hadm h
  rw [hparse, parserValidateCommitment_eq, hcode, Except.ok_bind, hc]
  exact if_pos heq

theorem rejects_equal_commitments_sample :
    newRecoverRequest (recoverSampleLibraries "recovery" "recovery") (recoverSampleClient "recovery" "recovery")
        (recoverSampleInfo "recovery" "recovery") = .ok [] ∧
      (recoverSampleParser "recovery" "recovery").parseRecoverOperation [] false =
        .error (.error "recovery and update commitments cannot be equal, re-using public keys is not allowed") :=
  ⟨rfl, parseRecoverOperation_rejects_equal_commitments (recoverSample_agree "recovery" "recovery")
    (recoverSample_admits "recovery" "recovery") rfl rfl rfl⟩

theorem parseRecoverOperation_newRecoverRequest_ok (hagree : Agree p.lib clib) (hadm : Admits p clib info)
    (hcode : p.lib.getMultihashCode info.recoveryCommitment = .ok info.multihashCode)
    (hne : info.updateCommitment ≠ info.recoveryCommitment) {req : List UInt8}
    (h : newRecoverRequest p.lib clib info = .ok req) :
    ∃ R : RecoverRequest N, p.lib.unmarshalRecoverRequest req = .ok R ∧ R.operation = "recover" ∧
      R.didSuffix = info.didSuffix ∧ R.revealValue = info.revealValue ∧
      R.delta.map (·.updateCommitment) = some info.updateCommitment ∧
      p.parseRecoverOperation req false =
        .ok ⟨req, "recover", R.didSuffix, R.delta, R.signedData, R.revealValue, info.anchorOrigin⟩ := by
  obtain ⟨key, R, d, -, hc, hR, hop, hds, hrv, hd, hdu, hparse⟩ := parseRecoverOperation_newRecoverRequest hagree hadm h
  refine ⟨R, hR, hop, hds, hrv, by rw [hd, Option.map_some', hdu], ?_⟩
  rw [hparse, parserValidateCommitment_eq, hcode, Except.ok_bind, hc]
  exact if_neg hne

theorem newRecoverRequest_accepted_sample :
    ∃ R : RecoverRequest Unit, (recoverSampleLibraries "update" "recovery").unmarshalRecoverRequest [] = .ok R ∧
      R.operation = "recover" ∧ R.didSuffix = "suffix" ∧ R.revealValue = "reveal" ∧
      R.delta.map (·.updateCommitment) = some "update" ∧
      (recoverSampleParser "update" "recovery").parseRecoverOperation [] false =
        .ok ⟨[], "recover", R.didSuffix, R.delta, R.signedData, R.revealValue, .null⟩ :=
  parseRecoverOperation_newRecoverRequest_ok (recoverSample_agree "update" "recovery")
    (recoverSample_admits "update" "recovery") rfl (by decide) rfl

theorem parseRecoverOperation_rejects_reused_key {key : JWK} {code : Nat} (hagree : Agree p.lib clib)
    (hadm : Admits p clib info) (hkey : info.recoveryKey = some key)
    (hcode : p.lib.getMultihashCode info.recoveryCommitment = .ok code)
    (hreuse : p.lib.getCommitment key code = .ok info.recoveryCommitment) {req : List UInt8}
    (h : newRecoverRequest p.lib clib info = .ok req) :
    p.parseRecoverOperation req false =
      .error (.error "validate signed data for recovery: re-using public keys for commitment is not allowed") := by
  obtain ⟨key', R, d, hkey', -, -, -, -, -, -, -, hparse⟩ := parseRecoverOperation_newRecoverRequest hagree hadm h
  cases hkey.symm.trans hkey'
  rw [hparse, parserValidateCommitment_eq, hcode]
  simp [validateCommitment, hreuse, wrapError, check]

theorem rejects_reused_key_sample :
    newRecoverRequest (recoverSampleLibraries "update" "recovery-sha3") (recoverSampleClient "update" "recovery-sha3")
        (recoverSampleInfo "update" "recovery-sha3") = .ok [] ∧
      (recoverSampleParser "update" "recovery-sha3").parseRecoverOperation [] false =
        .error (.error "validate signed data for recovery: re-using public keys for commitment is not allowed") :=
  ⟨rfl, parseRecoverOperation_rejects_reused_key (recoverSample_agree "update" "recovery-sha3")
    (recoverSample_admits "update" "recovery-sha3") rfl rfl rfl rfl⟩

end Agreement

end DidGo.Client
