import DidGo.Sidetree.Client

namespace DidGo.Client
open DidGo.Json DidGo.Encoding DidGo.OperationParser

variable {N : Type}

structure CreateRequestInfo (N : Type) where
  opaqueDocument : String
  patches : List (Option (Map N))
  recoveryCommitment : String
  updateCommitment : String
  -- An interface{}: none is nil, which omitempty leaves out.
  anchorOrigin : Option (Value N)
  type : String
  multihashCode : Nat

-- multihash.ValidCode and hashing.IsComputedUsingMultihashAlgorithms, which validateCreateRequest calls;
-- neither package is in the source tree.
structure MultihashChecks where
  validCode : Nat → Bool
  isComputedUsingMultihashAlgorithms : String → List Nat → Bool

section Builder
variable (codec : NumberCodec N) (mh : MultihashChecks) (clib : ClientLibraries N)

def validateCreateRequest (info : CreateRequestInfo N) : Except String Unit := do
  validatePatchSource info.opaqueDocument info.patches
  check (mh.validCode info.multihashCode) ("multihash[" ++ toString info.multihashCode ++ "] not supported")
  check (mh.isComputedUsingMultihashAlgorithms info.recoveryCommitment [info.multihashCode])
    "next recovery commitment is not computed with the specified hash algorithm"
  check (mh.isComputedUsingMultihashAlgorithms info.updateCommitment [info.multihashCode])
    "next update commitment is not computed with the specified hash algorithm"
  check (info.recoveryCommitment != info.updateCommitment)
    "recovery and update commitments cannot be equal, re-using public keys is not allowed"

def createSchema (info : CreateRequestInfo N) (patches : List (Option (Map N))) (deltaHash : String) :
    Model.CreateRequest N :=
  { operation := typeCreate,
    delta := some { updateCommitment := info.updateCommitment, patches := patches },
    suffixData := some { deltaHash := deltaHash, recoveryCommitment := info.recoveryCommitment,
                         anchorOrigin := info.anchorOrigin, type := info.type } }

def newCreateRequest (info : CreateRequestInfo N) : Except String (List UInt8) := do
  validateCreateRequest mh info
  let patches ← getPatches clib info.opaqueDocument info.patches
  let delta : Model.DeltaModel N := { updateCommitment := info.updateCommitment, patches := patches }
  let deltaHash ← clib.calculateModelMultihash delta info.multihashCode
  marshalCanonical codec.format (createSchema info patches deltaHash).toValue

theorem newCreateRequest_ok {info : CreateRequestInfo N} {B : List UInt8}
    (h : newCreateRequest codec mh clib info = .ok B) :
    validateCreateRequest mh info = .ok () ∧ ∃ patches deltaHash,
      getPatches clib info.opaqueDocument info.patches = .ok patches ∧
      marshalCanonical codec.format (createSchema info patches deltaHash).toValue = .ok B := by
  obtain ⟨hv, h⟩ := Except.bind_ok_iff.mp h
  obtain ⟨patches, hp, h⟩ := Except.bind_eq_ok_iff.mp h
  obtain ⟨deltaHash, -, h⟩ := Except.bind_eq_ok_iff.mp h
  exact ⟨hv, patches, deltaHash, hp, h⟩

end Builder

theorem depth_stringValue (s : String) : ∀ r ∈ (stringValue s : Option (Value N)), r.depth = 0 := by
  unfold stringValue
  split_ifs <;> simp [Value.depth]

theorem depth_optionalMember {k : String} {v : Option (Value N)} {n : Nat} (hv : ∀ r ∈ v, r.depth ≤ n) :
    ∀ p ∈ optionalMember k v, p.2.depth ≤ n :=
  fun _ hp => mem_optionalMember_value hp hv

theorem depth_optionalMember_stringValue (k s : String) (n : Nat) :
    ∀ p ∈ (optionalMember k (stringValue s) : List (String × Value N)), p.2.depth ≤ n :=
  depth_optionalMember fun r hr => (depth_stringValue s r hr).symm ▸ Nat.zero_le n

theorem depth_object_le {ms : List (String × Value N)} {n : Nat} (h : ∀ p ∈ ms, p.2.depth ≤ n) :
    (Value.object ms).depth ≤ n + 1 := by
  simp only [Value.depth]
  exact Nat.add_le_add_right (Value.depthMembers_le h) 1

theorem createSchema_depth {info : CreateRequestInfo N} {patches : List (Option (Map N))}
    (hanchor : ∀ a ∈ info.anchorOrigin, a.depth + 2 ≤ maxNestingDepth)
    (hpatches : ∀ m ∈ patches, (Model.patchValue m).depth + 3 ≤ maxNestingDepth) (deltaHash : String) :
    (createSchema info patches deltaHash).toValue.depth ≤ maxNestingDepth := by
  generalize hn : maxNestingDepth = n at hanchor hpatches
  have h3 : 3 ≤ n := hn ▸ by decide
  have hps : ∀ r ∈ Model.patchesValue patches, r.depth ≤ n - 2 := by
    unfold Model.patchesValue
    split_ifs
    · simp
    · simp only [Option.mem_def, Option.some.injEq, forall_eq', Value.depth]
      have : Value.depthElements (patches.map Model.patchValue) ≤ n - 3 := Value.depthElements_le fun x hx => by
        obtain ⟨m, hm, rfl⟩ := List.mem_map.mp hx
        have := hpatches m hm
        omega
      omega
  -- the request is an object of strings and two objects, the suffix data and the delta
  refine (depth_object_le (n := n - 1) ?_).trans (by omega)
  simp only [createSchema, Model.CreateRequest.toValue, List.forall_mem_append, Option.map_some']
  refine ⟨⟨depth_optionalMember_stringValue _ _ _, depth_optionalMember ?_⟩, depth_optionalMember ?_⟩ <;>
    rintro r ⟨⟩ <;> refine (depth_object_le (n := n - 2) ?_).trans (by omega) <;>
    simp only [Model.SuffixDataModel.toValue, Model.DeltaModel.toValue, List.forall_mem_append]
  · exact ⟨⟨⟨depth_optionalMember_stringValue _ _ _, depth_optionalMember_stringValue _ _ _⟩,
      depth_optionalMember fun a ha => by have := hanchor a ha; omega⟩, depth_optionalMember_stringValue _ _ _⟩
  · exact ⟨depth_optionalMember_stringValue _ _ _, depth_optionalMember hps⟩

theorem parseDID_newCreateRequest (codec : NumberCodec N) (mh : MultihashChecks) (clib : ClientLibraries N)
    {info : CreateRequestInfo N} {B : List UInt8} (h : newCreateRequest codec mh clib info = .ok B)
    (hanchor : ∀ a ∈ info.anchorOrigin, a ≠ .null ∧ a.depth + 2 ≤ maxNestingDepth)
    (hpatches : ∀ ps, getPatches clib info.opaqueDocument info.patches = .ok ps →
      ∀ m ∈ ps, (Model.patchValue m).depth + 3 ≤ maxNestingDepth)
    (method s : String) (hs : ':' ∉ s.toList) :
    parseDID codec ("did:" ++ method) ("did:" ++ method ++ ":" ++ s ++ ":" ++ encodeToString B) =
      .ok ("did:" ++ method ++ ":" ++ s, some B) := by
  obtain ⟨-, patches, deltaHash, hp, hB⟩ := newCreateRequest_ok codec mh clib h
  have hnull : ∀ sd ∈ (createSchema info patches deltaHash).suffixData, sd.anchorOrigin ≠ some .null := by
    rintro sd hsd hsd'
    cases hsd
    exact (hanchor .null hsd').1 rfl
  have hdepth := createSchema_depth (fun a ha => (hanchor a ha).2) (hpatches patches hp) deltaHash
  obtain ⟨c', hc', hsame⟩ := parseInitialState_encode codec _ hnull hdepth hB
  have hc'B : marshalCanonical codec.format c'.toValue = .ok B := by
    rw [marshalCanonical, hsame]
    exact hB
  rw [parseDID_longForm_eq codec method s _ hs (colon_not_mem_encodeToString B), hc']
  simp only [liftError, Except.ok_bind, hc'B]
  rfl

def acceptingChecks : MultihashChecks := ⟨fun _ => true, fun _ _ => true⟩

def createSampleInfo : CreateRequestInfo Unit where
  opaqueDocument := "doc"
  patches := []
  recoveryCommitment := "recovery"
  updateCommitment := "update"
  anchorOrigin := some (.string "origin")
  type := ""
  multihashCode := 18

def createSampleBytes : List UInt8 :=
  utf8Encode ("\x7b\"delta\":\x7b\"updateCommitment\":\"update\"\x7d,\"suffixData\":\x7b\"anchorOrigin\":\"origin\"," ++
    "\"deltaHash\":\"deltaHash\",\"recoveryCommitment\":\"recovery\"\x7d,\"type\":\"create\"\x7d")

theorem parseDID_newCreateRequest_sample :
    (newCreateRequest NumberCodec.zero acceptingChecks (recoverSampleClient "update" "recovery") createSampleInfo =
        .ok createSampleBytes ∧
      (∀ a ∈ createSampleInfo.anchorOrigin, a ≠ .null ∧ a.depth + 2 ≤ maxNestingDepth) ∧
      (∀ ps, getPatches (recoverSampleClient "update" "recovery") createSampleInfo.opaqueDocument
        createSampleInfo.patches = .ok ps → ∀ m ∈ ps, (Model.patchValue m).depth + 3 ≤ maxNestingDepth) ∧
      ':' ∉ "suffix".toList) ∧
    parseDID NumberCodec.zero ("did:" ++ "orb") ("did:" ++ "orb" ++ ":" ++ "suffix" ++ ":" ++ encodeToString createSampleBytes) =
      .ok ("did:" ++ "orb" ++ ":" ++ "suffix", some createSampleBytes) :=
  have hB : newCreateRequest NumberCodec.zero acceptingChecks (recoverSampleClient "update" "recovery") createSampleInfo =
      .ok createSampleBytes := by decide
  have hanchor : ∀ a ∈ createSampleInfo.anchorOrigin, a ≠ .null ∧ a.depth + 2 ≤ maxNestingDepth := by
    rintro a ⟨⟩
    exact ⟨Value.noConfusion, by decide⟩
  have hpatches : ∀ ps, getPatches (recoverSampleClient "update" "recovery") createSampleInfo.opaqueDocument
      createSampleInfo.patches = .ok ps → ∀ m ∈ ps, (Model.patchValue m).depth + 3 ≤ maxNestingDepth := by
    rintro ps ⟨⟩ m hm
    cases hm
  ⟨⟨hB, hanchor, hpatches, by decide⟩,
    parseDID_newCreateRequest NumberCodec.zero acceptingChecks _ hB hanchor hpatches "orb" "suffix" (by decide)⟩

end DidGo.Client
