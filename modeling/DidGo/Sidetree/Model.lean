import DidGo.Json.Struct

namespace DidGo.Model
open DidGo.Json DidGo.Encoding

variable {N : Type}

structure SuffixDataModel (N : Type) where
  deltaHash : String := ""
  recoveryCommitment : String := ""
  anchorOrigin : Option (Value N) := none
  type : String := ""

-- Modelled from the spec: the patch package is not in the source tree; a patch.Patch is the JSON object of
-- one tagged patch, map[string]interface{}, and a nil one is written as null.
structure DeltaModel (N : Type) where
  updateCommitment : String := ""
  patches : List (Option (Map N)) := []

structure CreateRequest (N : Type) where
  operation : String := ""
  suffixData : Option (SuffixDataModel N) := none
  delta : Option (DeltaModel N) := none

def patchValue : Option (Map N) → Value N
  | some m => .object m
  | none => .null

def patchesValue (patches : List (Option (Map N))) : Option (Value N) :=
  if patches.isEmpty then none else some (.array (patches.map patchValue))

def SuffixDataModel.toValue (s : SuffixDataModel N) : Value N :=
  .object (optionalMember "deltaHash" (stringValue s.deltaHash) ++
    optionalMember "recoveryCommitment" (stringValue s.recoveryCommitment) ++
    optionalMember "anchorOrigin" s.anchorOrigin ++ optionalMember "type" (stringValue s.type))

def DeltaModel.toValue (d : DeltaModel N) : Value N :=
  .object (optionalMember "updateCommitment" (stringValue d.updateCommitment) ++
    optionalMember "patches" (patchesValue d.patches))

def CreateRequest.toValue (c : CreateRequest N) : Value N :=
  .object (optionalMember "type" (stringValue c.operation) ++
    optionalMember "suffixData" (c.suffixData.map SuffixDataModel.toValue) ++
    optionalMember "delta" (c.delta.map DeltaModel.toValue))

section Decode
variable (parseFloat : String → Except String N)

def decodePatch (ctx : ErrorContext) (current : Option (Map N)) : Raw → Except String (Option (Map N))
  | .null => .ok none
  | .object ms => some <$> toInterfaceMembers parseFloat ctx (current.getD []) ms
  | x => .error (unmarshalTypeError x.kind "patch.Patch" ctx)

def decodePatchList (ctx : ErrorContext) :
    List (Option (Map N)) → List Raw → Except String (List (Option (Map N)))
  | _, [] => .ok []
  | current, x :: rest => do
    let p ← decodePatch parseFloat ctx current.head?.join x
    let ps ← decodePatchList ctx current.tail rest
    pure (p :: ps)

def decodePatches (ctx : ErrorContext) (current : List (Option (Map N))) :
    Raw → Except String (List (Option (Map N)))
  | .null => .ok []
  | .array xs => decodePatchList parseFloat ctx current xs
  | .strings xs => decodePatchList parseFloat ctx current (xs.map .string)
  | x => .error (unmarshalTypeError x.kind "[]patch.Patch" ctx)

def anchorOriginField : StructField (SuffixDataModel N) :=
  ⟨"anchorOrigin", fun ctx s x => (fun v => { s with anchorOrigin := v }) <$> decodeInterface parseFloat ctx x⟩

def suffixDataFields : List (StructField (SuffixDataModel N)) :=
  [stringField "string" "deltaHash" (·.deltaHash) fun s v => { s with deltaHash := v },
    stringField "string" "recoveryCommitment" (·.recoveryCommitment) fun s v => { s with recoveryCommitment := v },
    anchorOriginField parseFloat,
    stringField "string" "type" (·.type) fun s v => { s with type := v }]

def patchesField : StructField (DeltaModel N) :=
  ⟨"patches", fun ctx d x => (fun ps => { d with patches := ps }) <$> decodePatches parseFloat ctx d.patches x⟩

def deltaFields : List (StructField (DeltaModel N)) :=
  [stringField "string" "updateCommitment" (·.updateCommitment) fun d v => { d with updateCommitment := v },
    patchesField parseFloat]

def suffixDataField : StructField (CreateRequest N) :=
  ⟨"suffixData", fun ctx c x => (fun p => { c with suffixData := p }) <$>
    decodePointer {} (decodeStruct "model.SuffixDataModel" "SuffixDataModel" (suffixDataFields parseFloat) ctx)
      c.suffixData x⟩

def deltaField : StructField (CreateRequest N) :=
  ⟨"delta", fun ctx c x => (fun p => { c with delta := p }) <$>
    decodePointer {} (decodeStruct "model.DeltaModel" "DeltaModel" (deltaFields parseFloat) ctx) c.delta x⟩

def createRequestFields : List (StructField (CreateRequest N)) :=
  [stringField "operation.Type" "type" (·.operation) fun c v => { c with operation := v },
    suffixDataField parseFloat, deltaField parseFloat]

def unmarshalCreateRequest (data : List UInt8) : Except String (CreateRequest N) := do
  let r ← parseText data
  decodeStruct "model.CreateRequest" "CreateRequest" (createRequestFields parseFloat) {} {} r

end Decode

section Canonical
variable (format : N → Except String String)

theorem SuffixDataModel.canonicalValue_toValue (s : SuffixDataModel N) :
    canonicalValue format s.toValue =
      (fun aR => .object (optionalMember "anchorOrigin" aR ++
        (optionalMember "deltaHash" (stringValue s.deltaHash) ++
          optionalMember "recoveryCommitment" (stringValue s.recoveryCommitment)) ++
        optionalMember "type" (stringValue s.type))) <$> canonicalOption format s.anchorOrigin := by
  rw [SuffixDataModel.toValue, canonicalValue, canonicalMembers_append, canonicalMembers_append,
    canonicalMembers_append, canonicalMembers_optional_back format (fun _ h => absurd h (List.not_mem_nil _)),
    canonicalOption_stringValue]
  simp only [Except.map_ok, Except.ok_bind, List.nil_append]
  rw [canonicalMembers_optional_back format (optionalMember_keys_lt (by decide) _), canonicalOption_stringValue]
  simp only [Except.map_ok, Except.ok_bind]
  rw [canonicalMembers_optional_front format
    (List.forall_mem_append.mpr ⟨lt_optionalMember_keys (by decide) _, lt_optionalMember_keys (by decide) _⟩)]
  cases canonicalOption format s.anchorOrigin with
  | error e => rfl
  | ok aR =>
    simp only [Except.map_ok, Except.ok_bind]
    rw [canonicalMembers_optional_back format (List.forall_mem_append.mpr ⟨optionalMember_keys_lt (by decide) _,
      List.forall_mem_append.mpr ⟨optionalMember_keys_lt (by decide) _, optionalMember_keys_lt (by decide) _⟩⟩),
      canonicalOption_stringValue]
    rfl

theorem DeltaModel.canonicalValue_toValue (d : DeltaModel N) :
    canonicalValue format d.toValue =
      (fun pR => .object (optionalMember "patches" pR ++
        optionalMember "updateCommitment" (stringValue d.updateCommitment))) <$>
        canonicalOption format (patchesValue d.patches) := by
  rw [DeltaModel.toValue, canonicalValue, canonicalMembers_append,
    canonicalMembers_optional_back format (fun _ h => absurd h (List.not_mem_nil _)), canonicalOption_stringValue]
  simp only [Except.map_ok, Except.ok_bind, List.nil_append]
  rw [canonicalMembers_optional_front format (lt_optionalMember_keys (by decide) _)]
  cases canonicalOption format (patchesValue d.patches) <;> rfl

theorem CreateRequest.canonicalValue_toValue (c : CreateRequest N) :
    canonicalValue format c.toValue = (do
      let sR ← canonicalOption format (c.suffixData.map SuffixDataModel.toValue)
      let dR ← canonicalOption format (c.delta.map DeltaModel.toValue)
      pure (.object (optionalMember "delta" dR ++
        (optionalMember "suffixData" sR ++ optionalMember "type" (stringValue c.operation))))) := by
  rw [CreateRequest.toValue, canonicalValue, canonicalMembers_append, canonicalMembers_append,
    canonicalMembers_optional_back format (fun _ h => absurd h (List.not_mem_nil _)), canonicalOption_stringValue]
  simp only [Except.map_ok, Except.ok_bind, List.nil_append]
  rw [canonicalMembers_optional_front format (lt_optionalMember_keys (by decide) _)]
  cases canonicalOption format (c.suffixData.map SuffixDataModel.toValue) with
  | error e => rfl
  | ok sR =>
    simp only [Except.map_ok, Except.ok_bind]
    rw [canonicalMembers_optional_front format
      (List.forall_mem_append.mpr ⟨lt_optionalMember_keys (by decide) _, lt_optionalMember_keys (by decide) _⟩)]
    cases canonicalOption format (c.delta.map DeltaModel.toValue) <;> rfl

theorem CreateRequest.canonicalValue_setOperation {c : CreateRequest N} {T : Raw}
    (hT : canonicalValue format c.toValue = .ok T) (o : String) :
    ∃ T', canonicalValue format { c with operation := o }.toValue = .ok T' := by
  rw [CreateRequest.canonicalValue_toValue] at hT ⊢
  obtain ⟨sR, hsR, hT⟩ := Except.bind_eq_ok_iff.mp hT
  obtain ⟨dR, hdR, -⟩ := Except.bind_eq_ok_iff.mp hT
  exact ⟨_, by simp only [hsR, hdR, Except.ok_bind]; rfl⟩

end Canonical

section Reencode
variable (codec : NumberCodec N) (ctx : ErrorContext)

theorem lookup_updateCommitment :
    lookupField (deltaFields codec.parseFloat) "updateCommitment" =
      some (stringField "string" "updateCommitment" (·.updateCommitment) fun d v => { d with updateCommitment := v }) :=
  rfl

theorem lookup_patches : lookupField (deltaFields codec.parseFloat) "patches" = some (patchesField codec.parseFloat) :=
  rfl

theorem decodePatch_canonical {p : Option (Map N)} {r : Raw}
    (h : canonicalValue codec.format (patchValue p) = .ok r) :
    ∃ p', decodePatch codec.parseFloat ctx none r = .ok p' ∧ canonicalValue codec.format (patchValue p') = .ok r := by
  cases p with
  | none => cases h; exact ⟨none, rfl, rfl⟩
  | some m =>
    obtain ⟨out, -, rfl⟩ := Except.map_eq_ok_iff.mp h
    obtain ⟨w, hw, hcw⟩ := toInterface_canonical codec ctx (canonicalValue_canonical codec.format h)
    rw [toInterface] at hw
    obtain ⟨ws, hws, rfl⟩ := Except.map_eq_ok_iff.mp hw
    exact ⟨some ws, by rw [decodePatch, Option.getD_none, hws]; rfl, hcw⟩

theorem decodePatchList_canonical : ∀ {ps : List (Option (Map N))} {rs : List Raw},
    canonicalElements codec.format (ps.map patchValue) = .ok rs →
    ∃ ps', decodePatchList codec.parseFloat ctx [] rs = .ok ps' ∧ ps'.length = ps.length ∧
      canonicalElements codec.format (ps'.map patchValue) = .ok rs
  | [], _, h => by cases h; exact ⟨[], rfl, rfl, rfl⟩
  | p :: ps, _, h => by
    rw [List.map_cons] at h
    obtain ⟨r, hr, h⟩ := Except.bind_eq_ok_iff.mp h
    obtain ⟨rs, hrs, h⟩ := Except.bind_eq_ok_iff.mp h
    cases h
    obtain ⟨p', hp', hcp'⟩ := decodePatch_canonical codec ctx hr
    obtain ⟨ps', hps', hlen, hcps'⟩ := decodePatchList_canonical hrs
    refine ⟨p' :: ps', ?_, by rw [List.length_cons, List.length_cons, hlen], ?_⟩
    · rw [decodePatchList]
      simp only [List.head?_nil, List.tail_nil, hps', Except.ok_bind]
      rw [show (none : Option (Option (Map N))).join = none from rfl, hp']
      rfl
    · rw [List.map_cons, canonicalElements, hcp']
      simp only [Except.ok_bind, hcps']
      rfl

theorem DeltaModel.decode_canonical (d : DeltaModel N) {T : Raw}
    (hT : canonicalValue codec.format d.toValue = .ok T) :
    ∃ d', decodeStruct "model.DeltaModel" "DeltaModel" (deltaFields codec.parseFloat) ctx {} T = .ok d' ∧
      canonicalValue codec.format d'.toValue = .ok T := by
  rw [DeltaModel.canonicalValue_toValue] at hT
  obtain ⟨pR, hpR, rfl⟩ := Except.map_eq_ok_iff.mp hT
  obtain ⟨ps', hdec, hcps'⟩ : ∃ ps', decodeFields "DeltaModel" (deltaFields codec.parseFloat) ctx {}
      (optionalMember "patches" pR) = .ok { patches := ps' } ∧
      canonicalOption codec.format (patchesValue ps') = .ok pR := by
    unfold patchesValue at hpR
    split_ifs at hpR with hempty
    · cases hpR
      exact ⟨[], rfl, rfl⟩
    · obtain ⟨r, hr, rfl⟩ := Except.map_eq_ok_iff.mp hpR
      obtain ⟨rs, hrs, rfl⟩ := Except.map_eq_ok_iff.mp hr
      obtain ⟨ps', hps', hlen, hcps'⟩ := decodePatchList_canonical codec (ctx.enter "DeltaModel" "patches") hrs
      have hne : ps'.isEmpty = false := by
        cases ps' with
        | nil => exact absurd (List.isEmpty_iff.mpr (List.length_eq_zero.mp hlen.symm)) hempty
        | cons _ _ => rfl
      refine ⟨ps', ?_, ?_⟩
      · rw [decodeFields_optional _ _ _ (lookup_patches codec)]
        simp only [patchesField, decodePatches, hps']
        rfl
      · rw [patchesValue, hne, if_neg Bool.false_ne_true, canonicalOption, canonicalValue, hcps']
        rfl
  refine ⟨{ patches := ps', updateCommitment := d.updateCommitment }, ?_, ?_⟩
  · rw [decodeStruct, decodeFields_append, hdec, Except.ok_bind,
      decodeFields_stringValue _ _ _ (lookup_updateCommitment codec) (s := { patches := ps' }) rfl]
  · rw [DeltaModel.canonicalValue_toValue, hcps']
    rfl

theorem lookup_anchorOrigin :
    lookupField (suffixDataFields codec.parseFloat) "anchorOrigin" = some (anchorOriginField codec.parseFloat) :=
  rfl

theorem lookup_deltaHash : lookupField (suffixDataFields codec.parseFloat) "deltaHash" =
    some (stringField "string" "deltaHash" (·.deltaHash) fun s v => { s with deltaHash := v }) :=
  rfl

theorem lookup_recoveryCommitment : lookupField (suffixDataFields codec.parseFloat) "recoveryCommitment" =
    some (stringField "string" "recoveryCommitment" (·.recoveryCommitment)
      fun s v => { s with recoveryCommitment := v }) :=
  rfl

theorem lookup_suffixDataType : lookupField (suffixDataFields codec.parseFloat) "type" =
    some (stringField "string" "type" (·.type) fun s v => { s with type := v }) :=
  rfl

theorem SuffixDataModel.decode_canonical (sd : SuffixDataModel N) (hnull : sd.anchorOrigin ≠ some .null)
    {T : Raw} (hT : canonicalValue codec.format sd.toValue = .ok T) :
    ∃ sd', decodeStruct "model.SuffixDataModel" "SuffixDataModel" (suffixDataFields codec.parseFloat) ctx {} T =
      .ok sd' ∧ canonicalValue codec.format sd'.toValue = .ok T := by
  rw [SuffixDataModel.canonicalValue_toValue] at hT
  obtain ⟨aR, haR, rfl⟩ := Except.map_eq_ok_iff.mp hT
  obtain ⟨a', hdec, hca'⟩ : ∃ a', decodeFields "SuffixDataModel" (suffixDataFields codec.parseFloat) ctx {}
      (optionalMember "anchorOrigin" aR) = .ok { anchorOrigin := a' } ∧ canonicalOption codec.format a' = .ok aR := by
    rw [decodeFields_optional _ _ _ (lookup_anchorOrigin codec)]
    cases aR with
    | none => exact ⟨none, rfl, rfl⟩
    | some r =>
      cases hv : sd.anchorOrigin with
      | none => rw [hv] at haR; cases haR
      | some v =>
        rw [hv] at haR hnull
        obtain ⟨r', hr', hrr⟩ := Except.map_eq_ok_iff.mp haR
        cases hrr
        have hr : r ≠ .null := fun h => by
          subst h
          exact hnull (congrArg some (canonicalValue_eq_null codec.format hr'))
        obtain ⟨w, hw, hcw⟩ := toInterface_canonical codec (ctx.enter "SuffixDataModel" "anchorOrigin")
          (canonicalValue_canonical codec.format hr')
        refine ⟨some w, ?_, by rw [canonicalOption, hcw]; rfl⟩
        simp only [anchorOriginField, decodeInterface_of_ne_null hr, hw]
        rfl
  refine ⟨{ sd with anchorOrigin := a' }, ?_, ?_⟩
  · rw [decodeStruct, decodeFields_append, decodeFields_append, hdec, Except.ok_bind, decodeFields_append,
      decodeFields_stringValue _ _ _ (lookup_deltaHash codec) (s := { anchorOrigin := a' }) rfl, Except.ok_bind,
      decodeFields_stringValue _ _ _ (lookup_recoveryCommitment codec)
        (s := { anchorOrigin := a', deltaHash := sd.deltaHash }) rfl, Except.ok_bind,
      decodeFields_stringValue _ _ _ (lookup_suffixDataType codec)
        (s := { anchorOrigin := a', deltaHash := sd.deltaHash, recoveryCommitment := sd.recoveryCommitment }) rfl]
  · rw [SuffixDataModel.canonicalValue_toValue, hca']
    rfl

theorem lookup_operation : lookupField (createRequestFields codec.parseFloat) "type" =
    some (stringField "operation.Type" "type" (·.operation) fun c v => { c with operation := v }) :=
  rfl

theorem lookup_suffixData :
    lookupField (createRequestFields codec.parseFloat) "suffixData" = some (suffixDataField codec.parseFloat) :=
  rfl

theorem lookup_delta : lookupField (createRequestFields codec.parseFloat) "delta" = some (deltaField codec.parseFloat) :=
  rfl

theorem CreateRequest.decode_canonical (c : CreateRequest N)
    (hnull : ∀ sd ∈ c.suffixData, sd.anchorOrigin ≠ some .null) {T : Raw}
    (hT : canonicalValue codec.format c.toValue = .ok T) :
    ∃ c', decodeStruct "model.CreateRequest" "CreateRequest" (createRequestFields codec.parseFloat) ctx {} T =
      .ok c' ∧ c'.operation = c.operation ∧
      canonicalOption codec.format (c'.suffixData.map SuffixDataModel.toValue) =
        canonicalOption codec.format (c.suffixData.map SuffixDataModel.toValue) ∧
      canonicalOption codec.format (c'.delta.map DeltaModel.toValue) =
        canonicalOption codec.format (c.delta.map DeltaModel.toValue) := by
  rw [CreateRequest.canonicalValue_toValue] at hT
  obtain ⟨sR, hsR, hT⟩ := Except.bind_eq_ok_iff.mp hT
  obtain ⟨dR, hdR, hT⟩ := Except.bind_eq_ok_iff.mp hT
  cases hT
  obtain ⟨d', hdec, hcd'⟩ : ∃ d', decodeFields "CreateRequest" (createRequestFields codec.parseFloat) ctx {}
      (optionalMember "delta" dR) = .ok { delta := d' } ∧
      canonicalOption codec.format (d'.map DeltaModel.toValue) = .ok dR := by
    rw [decodeFields_optional _ _ _ (lookup_delta codec)]
    cases dR with
    | none => exact ⟨none, rfl, rfl⟩
    | some r =>
      cases hd : c.delta with
      | none => rw [hd] at hdR; cases hdR
      | some d =>
        rw [hd] at hdR
        obtain ⟨r', hr', hrr⟩ := Except.map_eq_ok_iff.mp hdR
        cases hrr
        have hr : r ≠ .null := fun h => by
          subst h
          have := canonicalValue_eq_null codec.format hr'
          simp [DeltaModel.toValue] at this
        obtain ⟨d', hd', hcd'⟩ := DeltaModel.decode_canonical codec (ctx.enter "CreateRequest" "delta") d hr'
        refine ⟨some d', ?_, by rw [Option.map_some', canonicalOption, hcd']; rfl⟩
        simp only [deltaField, decodePointer_of_ne_null hr, Option.getD_none, hd']
        rfl
  obtain ⟨s', hdec', hcs'⟩ : ∃ s', decodeFields "CreateRequest" (createRequestFields codec.parseFloat) ctx
      { delta := d' } (optionalMember "suffixData" sR) = .ok { delta := d', suffixData := s' } ∧
      canonicalOption codec.format (s'.map SuffixDataModel.toValue) = .ok sR := by
    rw [decodeFields_optional _ _ _ (lookup_suffixData codec)]
    cases sR with
    | none => exact ⟨none, rfl, rfl⟩
    | some r =>
      cases hs : c.suffixData with
      | none => rw [hs] at hsR; cases hsR
      | some sd =>
        rw [hs] at hsR
        obtain ⟨r', hr', hrr⟩ := Except.map_eq_ok_iff.mp hsR
        cases hrr
        have hr : r ≠ .null := fun h => by
          subst h
          have := canonicalValue_eq_null codec.format hr'
          simp [SuffixDataModel.toValue] at this
        obtain ⟨s', hs', hcs'⟩ := SuffixDataModel.decode_canonical codec (ctx.enter "CreateRequest" "suffixData") sd
          (hnull sd hs) hr'
        refine ⟨some s', ?_, by rw [Option.map_some', canonicalOption, hcs']; rfl⟩
        simp only [suffixDataField, decodePointer_of_ne_null hr, Option.getD_none, hs']
        rfl
  refine ⟨{ delta := d', suffixData := s', operation := c.operation }, ?_, rfl, hcs'.trans hsR.symm,
    hcd'.trans hdR.symm⟩
  rw [decodeStruct, decodeFields_append, hdec, Except.ok_bind, decodeFields_append, hdec', Except.ok_bind,
    decodeFields_stringValue _ _ _ (lookup_operation codec) (s := { delta := d', suffixData := s' }) rfl]

end Reencode

end DidGo.Model
