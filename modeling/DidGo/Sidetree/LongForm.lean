import DidGo.Sidetree.Model
import DidGo.Encoding.Base64

namespace DidGo.OperationParser
open DidGo.Json DidGo.Encoding

-- Long-form DIDs (operationparser's did.go): <namespace>:<suffix>:<base64url(JCS(create request))>. Go slices
-- the DID by bytes; every separator is the ASCII ':', which no multi-byte rune contains, so the model cuts
-- the DID's runes at the same places.

def longFormSeparator : Char := ':'

def didSeparator : Char := ':'

-- Modelled from the spec: operation.TypeCreate (the operation package is not in the source tree) is the type
-- "create".
def typeCreate : String := "create"

-- strings.Replace with a non-empty old, from the left: an occurrence found is replaced and the scan goes on
-- after it; skip counts the characters of that occurrence still to pass.
def replaceFrom (old new : List Char) : Nat → List Char → List Char
  | _, [] => []
  | skip + 1, _ :: rest => replaceFrom old new skip rest
  | 0, c :: rest =>
    if old.isPrefixOf (c :: rest) then new ++ replaceFrom old new (old.length - 1) rest
    else c :: replaceFrom old new 0 rest

def replaceAll (s old new : List Char) : List Char :=
  match old with
  | [] => new ++ s.flatMap (· :: new)
  | _ :: _ => replaceFrom old new 0 s

def index (s : List Char) (c : Char) : Option Nat := s.findIdx? (· == c)

def lastIndex (c : Char) : List Char → Option Nat
  | [] => none
  | x :: rest =>
    match lastIndex c rest with
    | some i => some (i + 1)
    | none => if x = c then some 0 else none

section Strings
variable (old new : List Char)

theorem replaceFrom_skip : ∀ xs rest : List Char,
    replaceFrom old new xs.length (xs ++ rest) = replaceFrom old new 0 rest
  | [], _ => rfl
  | _ :: xs, rest => by rw [List.length_cons, List.cons_append, replaceFrom]; exact replaceFrom_skip xs rest

theorem replaceFrom_prefix (h : old ≠ []) (rest : List Char) :
    replaceFrom old new 0 (old ++ rest) = new ++ replaceFrom old new 0 rest := by
  obtain ⟨o, os, rfl⟩ := List.exists_cons_of_ne_nil h
  have hp : (o :: os).isPrefixOf (o :: (os ++ rest)) = true :=
    List.isPrefixOf_iff_prefix.mpr (List.prefix_append (o :: os) rest)
  rw [List.cons_append, replaceFrom, if_pos hp, List.length_cons, Nat.add_sub_cancel, replaceFrom_skip]

theorem replaceFrom_of_count {c : Char} : ∀ {xs : List Char}, xs.count c < old.count c →
    replaceFrom old new 0 xs = xs
  | [], _ => rfl
  | x :: xs, h => by
    have hle := (List.sublist_cons_self x xs).count_le c
    have hne : old.isPrefixOf (x :: xs) = false := Bool.eq_false_iff.mpr fun hp => by
      have := (List.isPrefixOf_iff_prefix.mp hp).sublist.count_le c
      omega
    rw [replaceFrom, hne, if_neg Bool.false_ne_true, replaceFrom_of_count (c := c) (by omega)]

theorem replaceAll_of_ne_nil {old : List Char} (h : old ≠ []) (s new : List Char) :
    replaceAll s old new = replaceFrom old new 0 s := by
  cases old with
  | nil => exact absurd rfl h
  | cons _ _ => rfl

theorem take_sep (xs ys : List Char) (c : Char) : (xs ++ c :: ys).take xs.length = xs := by
  induction xs with
  | nil => rfl
  | cons x xs ih => exact congrArg (x :: ·) ih

theorem drop_sep (xs ys : List Char) (c : Char) : (xs ++ c :: ys).drop (xs.length + 1) = ys := by
  induction xs with
  | nil => rfl
  | cons x xs ih => exact ih

theorem index_isSome {s : List Char} {c : Char} (h : c ∈ s) : (index s c).isSome := by
  rw [index, List.findIdx?_isSome, List.any_eq_true]
  exact ⟨c, h, beq_self_eq_true c⟩

theorem lastIndex_eq_none {c : Char} : ∀ {ys : List Char}, c ∉ ys → lastIndex c ys = none
  | [], _ => rfl
  | y :: ys, h => by
    rw [lastIndex, lastIndex_eq_none fun hm => h (List.mem_cons_of_mem _ hm)]
    exact if_neg fun (he : y = c) => h (he ▸ List.mem_cons_self y ys)

theorem lastIndex_append {c : Char} {ys : List Char} (h : c ∉ ys) :
    ∀ xs : List Char, lastIndex c (xs ++ c :: ys) = some xs.length
  | [] => by rw [List.nil_append, lastIndex, lastIndex_eq_none h]; exact if_pos rfl
  | x :: xs => by rw [List.cons_append, lastIndex, lastIndex_append h xs]; rfl

end Strings

section Parser
variable {N : Type} (codec : NumberCodec N)

def parseInitialState (initialState : String) : Except String (Model.CreateRequest N) := do
  let decodedJCS ← decodeString initialState
  let createRequest ← Model.unmarshalCreateRequest codec.parseFloat decodedJCS
  let expected ← marshalCanonical codec.format createRequest.toValue
  if encodeToString expected ≠ initialState then throw "initial state is not valid"
  pure { createRequest with operation := typeCreate }

def parseDID (ns shortOrLongFormDID : String) : Go (String × Option (List UInt8)) := do
  let withoutNamespace := replaceAll shortOrLongFormDID.toList (ns.toList ++ [didSeparator]) []
  match index withoutNamespace longFormSeparator with
  | none => pure (shortOrLongFormDID, none)
  | some _ =>
    match lastIndex longFormSeparator shortOrLongFormDID.toList with
    | none => throw (.panic "runtime error: slice bounds out of range [:-1]")
    | some endOfDIDPos =>
      let did : String := ⟨shortOrLongFormDID.toList.take endOfDIDPos⟩
      let longFormDID : String := ⟨shortOrLongFormDID.toList.drop (endOfDIDPos + 1)⟩
      let createRequest ← liftError (parseInitialState codec longFormDID)
      let createRequestBytes ← liftError (marshalCanonical codec.format createRequest.toValue)
      pure (did, some createRequestBytes)

theorem parseDID_tail {ns p t d : String} {B : List UInt8} (ht : ':' ∉ t.toList)
    (h : parseDID codec ns (p ++ ":" ++ t) = .ok (d, some B)) :
    ∃ c, parseInitialState codec t = .ok c ∧ marshalCanonical codec.format c.toValue = .ok B := by
  have hl : (p ++ ":" ++ t).toList = p.toList ++ ':' :: t.toList := by
    simp only [String.toList, String.data_append, List.append_assoc, List.singleton_append]
  simp only [parseDID, longFormSeparator] at h
  split at h
  · cases h
  · rw [hl, lastIndex_append ht] at h
    simp only [drop_sep] at h
    obtain ⟨c, hc, h⟩ := Except.bind_eq_ok_iff.mp h
    obtain ⟨b, hb, h⟩ := Except.bind_eq_ok_iff.mp h
    cases h
    exact ⟨c, (liftError_ok_iff _ _).mp hc, (liftError_ok_iff _ _).mp hb⟩

theorem parseDID_longForm_eq (method s t : String) (hs : ':' ∉ s.toList) (ht : ':' ∉ t.toList) :
    parseDID codec ("did:" ++ method) ("did:" ++ method ++ ":" ++ s ++ ":" ++ t) = (do
      let c ← liftError (parseInitialState codec t)
      let b ← liftError (marshalCanonical codec.format c.toValue)
      pure ("did:" ++ method ++ ":" ++ s, some b)) := by
  have hold : ("did:" ++ method).toList ++ [didSeparator] ≠ [] := by simp
  have hfull : ("did:" ++ method ++ ":" ++ s ++ ":" ++ t).toList =
      (("did:" ++ method).toList ++ [didSeparator]) ++ (s.toList ++ ':' :: t.toList) := by
    simp only [String.toList, String.data_append, List.append_assoc, List.singleton_append, didSeparator,
      List.cons_append, List.nil_append]
  have hcount : (s.toList ++ ':' :: t.toList).count ':' < (("did:" ++ method).toList ++ [didSeparator]).count ':' := by
    simp only [List.count_append, List.count_cons, List.count_eq_zero_of_not_mem hs, List.count_eq_zero_of_not_mem ht]
    simp [String.toList, didSeparator]
  have hwithout : replaceAll ("did:" ++ method ++ ":" ++ s ++ ":" ++ t).toList
      (("did:" ++ method).toList ++ [didSeparator]) [] = s.toList ++ ':' :: t.toList := by
    rw [hfull, replaceAll_of_ne_nil hold, replaceFrom_prefix _ _ hold, List.nil_append,
      replaceFrom_of_count _ _ hcount]
  obtain ⟨i, hi⟩ := Option.isSome_iff_exists.mp
    (index_isSome (List.mem_append_right s.toList (List.mem_cons_self ':' t.toList)))
  have hlast : ("did:" ++ method ++ ":" ++ s ++ ":" ++ t).toList =
      ("did:" ++ method ++ ":" ++ s).toList ++ ':' :: t.toList := by
    simp only [String.toList, String.data_append, List.append_assoc, List.singleton_append]
  simp only [parseDID, longFormSeparator]
  rw [hwithout, hi]
  simp only [hlast, lastIndex_append ht, take_sep, drop_sep]
  rfl

theorem parseInitialState_ok {t : String} {c : Model.CreateRequest N} (h : parseInitialState codec t = .ok c) :
    ∃ u X, (decodeString t >>= Model.unmarshalCreateRequest codec.parseFloat) = .ok u ∧
      marshalCanonical codec.format u.toValue = .ok X ∧ encodeToString X = t ∧
      c = { u with operation := typeCreate } := by
  obtain ⟨E, hE, h⟩ := Except.bind_eq_ok_iff.mp h
  obtain ⟨u, hu, h⟩ := Except.bind_eq_ok_iff.mp h
  obtain ⟨X, hX, h⟩ := Except.bind_eq_ok_iff.mp h
  by_cases hne : encodeToString X = t
  · rw [if_neg (not_not.mpr hne)] at h
    cases h
    exact ⟨u, X, by rw [hE]; exact hu, hX, hne, rfl⟩
  · rw [if_pos hne] at h
    cases h

theorem parseInitialState_encode (c : Model.CreateRequest N)
    (hnull : ∀ sd ∈ c.suffixData, sd.anchorOrigin ≠ some .null) (hdepth : c.toValue.depth ≤ maxNestingDepth)
    {B : List UInt8} (hB : marshalCanonical codec.format c.toValue = .ok B) :
    ∃ c', parseInitialState codec (encodeToString B) = .ok c' ∧
      canonicalValue codec.format c'.toValue = canonicalValue codec.format { c with operation := typeCreate }.toValue := by
  obtain ⟨T, hT, rfl⟩ := Except.map_eq_ok_iff.mp hB
  have hplain : T.Plain := Value.Canonical.plain codec (canonicalValue_canonical codec.format hT)
  have hdT : T.depth ≤ maxNestingDepth := by rw [canonicalValue_depth codec.format hT]; exact hdepth
  have hparse : parseText (utf8Encode ⟨writeValue T⟩) = .ok T := parseText_writeValue hplain hdT
  obtain ⟨c1, hdec, hop, hsd, hdl⟩ := Model.CreateRequest.decode_canonical codec {} c hnull hT
  have hsame : ∀ o, canonicalValue codec.format { c1 with operation := o }.toValue =
      canonicalValue codec.format { c with operation := o }.toValue := fun o => by
    rw [Model.CreateRequest.canonicalValue_toValue, Model.CreateRequest.canonicalValue_toValue]
    simp only [hsd, hdl]
  have hre : canonicalValue codec.format c1.toValue = .ok T := by
    have e1 : ({ c1 with operation := c.operation } : Model.CreateRequest N) = c1 := by rw [← hop]
    have := hsame c.operation
    rw [e1] at this
    exact this.trans hT
  refine ⟨{ c1 with operation := typeCreate }, ?_, hsame typeCreate⟩
  simp only [parseInitialState, decodeString_encodeToString, Except.ok_bind, Model.unmarshalCreateRequest, hparse,
    hdec, marshalCanonical, hre, Except.map_ok, ne_eq, not_true_eq_false, if_false]
  rfl

end Parser

section LongFormRoundTrip
variable {N : Type} (codec : NumberCodec N)

theorem parseDID_longForm_roundTrip (c : Model.CreateRequest N) (method s : String) (hs : ':' ∉ s.toList)
    (hnull : ∀ sd ∈ c.suffixData, sd.anchorOrigin ≠ some .null) (hdepth : c.toValue.depth ≤ maxNestingDepth)
    {B : List UInt8} (hB : marshalCanonical codec.format c.toValue = .ok B) :
    ∃ B', marshalCanonical codec.format { c with operation := typeCreate }.toValue = .ok B' ∧
      parseDID codec ("did:" ++ method) ("did:" ++ method ++ ":" ++ s ++ ":" ++ encodeToString B) =
        .ok ("did:" ++ method ++ ":" ++ s, some B') := by
  obtain ⟨c', hp, hsame⟩ := parseInitialState_encode codec c hnull hdepth hB
  obtain ⟨T, hT, -⟩ := Except.map_eq_ok_iff.mp hB
  obtain ⟨T', hT'⟩ := Model.CreateRequest.canonicalValue_setOperation codec.format hT typeCreate
  refine ⟨utf8Encode ⟨writeValue T'⟩, by rw [marshalCanonical, hT']; rfl, ?_⟩
  rw [parseDID_longForm_eq codec method s _ hs (colon_not_mem_encodeToString B), hp]
  simp only [liftError, Except.ok_bind, marshalCanonical, hsame, hT', Except.map_ok]
  rfl

def anchoredCreateRequest : Model.CreateRequest Unit :=
  { suffixData := some { deltaHash := "h", recoveryCommitment := "r", anchorOrigin := some (.string "o") },
    delta := some { updateCommitment := "u", patches := [some [("action", .string "add-services")]] } }

theorem parseDID_longForm_example :
    (∀ sd ∈ anchoredCreateRequest.suffixData, sd.anchorOrigin ≠ some .null) ∧
      anchoredCreateRequest.toValue.depth ≤ maxNestingDepth ∧
      marshalCanonical NumberCodec.zero.format anchoredCreateRequest.toValue = .ok (utf8Encode ("\x7b\"delta\":" ++
        "\x7b\"patches\":[\x7b\"action\":\"add-services\"\x7d],\"updateCommitment\":\"u\"\x7d,\"suffixData\":" ++
        "\x7b\"anchorOrigin\":\"o\",\"deltaHash\":\"h\",\"recoveryCommitment\":\"r\"\x7d\x7d")) ∧
      ∃ B', marshalCanonical NumberCodec.zero.format { anchoredCreateRequest with operation := typeCreate }.toValue =
          .ok B' ∧
        parseDID NumberCodec.zero ("did:" ++ "x") ("did:" ++ "x" ++ ":" ++ "s" ++ ":" ++
          encodeToString (utf8Encode ("\x7b\"delta\":" ++
            "\x7b\"patches\":[\x7b\"action\":\"add-services\"\x7d],\"updateCommitment\":\"u\"\x7d,\"suffixData\":" ++
            "\x7b\"anchorOrigin\":\"o\",\"deltaHash\":\"h\",\"recoveryCommitment\":\"r\"\x7d\x7d"))) =
          .ok ("did:" ++ "x" ++ ":" ++ "s", some B') := by
  refine ⟨?hnull, ?hdepth, ?hB,
    parseDID_longForm_roundTrip NumberCodec.zero anchoredCreateRequest "x" "s" (by decide) ?hnull ?hdepth ?hB⟩
  · simp [anchoredCreateRequest]
  · decide
  · decide

theorem parseDID_rejects_null_anchorOrigin :
    marshalCanonical NumberCodec.zero.format
        ({ suffixData := some { anchorOrigin := some .null } } : Model.CreateRequest Unit).toValue =
      .ok (utf8Encode "\x7b\"suffixData\":\x7b\"anchorOrigin\":null\x7d\x7d") ∧
    parseDID NumberCodec.zero ("did:" ++ "x") ("did:" ++ "x" ++ ":" ++ "s" ++ ":" ++
      encodeToString (utf8Encode "\x7b\"suffixData\":\x7b\"anchorOrigin\":null\x7d\x7d")) =
      .error (.error "initial state is not valid") :=
  ⟨rfl, rfl⟩

theorem parseDID_tail_unique {ns s t₁ t₂ d₁ d₂ : String} {B : List UInt8} (ht₁ : ':' ∉ t₁.toList)
    (ht₂ : ':' ∉ t₂.toList) (h₁ : parseDID codec ns (ns ++ ":" ++ s ++ ":" ++ t₁) = .ok (d₁, some B))
    (h₂ : parseDID codec ns (ns ++ ":" ++ s ++ ":" ++ t₂) = .ok (d₂, some B))
    (htype : (·.operation) <$> (decodeString t₁ >>= Model.unmarshalCreateRequest codec.parseFloat) =
      (·.operation) <$> (decodeString t₂ >>= Model.unmarshalCreateRequest codec.parseFloat)) :
    t₁ = t₂ := by
  obtain ⟨c₁, hp₁, hb₁⟩ := parseDID_tail codec ht₁ h₁
  obtain ⟨c₂, hp₂, hb₂⟩ := parseDID_tail codec ht₂ h₂
  obtain ⟨u₁, X₁, hu₁, hX₁, rfl, rfl⟩ := parseInitialState_ok codec hp₁
  obtain ⟨u₂, X₂, hu₂, hX₂, rfl, rfl⟩ := parseInitialState_ok codec hp₂
  rw [hu₁, hu₂, Except.map_ok, Except.map_ok] at htype
  injection htype with hop
  obtain ⟨T₁, hT₁, hB₁⟩ := Except.map_eq_ok_iff.mp hb₁
  obtain ⟨T₂, hT₂, hB₂⟩ := Except.map_eq_ok_iff.mp hb₂
  have hTT : T₁ = T₂ := writeValue_injective (Value.Canonical.plain codec (canonicalValue_canonical codec.format hT₁))
    (Value.Canonical.plain codec (canonicalValue_canonical codec.format hT₂)) (hB₁.trans hB₂.symm)
  rw [Model.CreateRequest.canonicalValue_toValue] at hT₁ hT₂
  obtain ⟨sR₁, hs₁, hT₁⟩ := Except.bind_eq_ok_iff.mp hT₁
  obtain ⟨dR₁, hd₁, hT₁⟩ := Except.bind_eq_ok_iff.mp hT₁
  obtain ⟨sR₂, hs₂, hT₂⟩ := Except.bind_eq_ok_iff.mp hT₂
  obtain ⟨dR₂, hd₂, hT₂⟩ := Except.bind_eq_ok_iff.mp hT₂
  cases hT₁
  cases hT₂
  injection hTT with hms
  have hkeys : ∀ (sR : Option Raw), ∀ p ∈ optionalMember "suffixData" sR ++
      optionalMember "type" (stringValue typeCreate : Option Raw), p.1 ≠ "delta" := fun _ p hp => by
    rcases List.mem_append.mp hp with hp | hp <;> rw [mem_optionalMember hp] <;> decide
  have htkey : ∀ p ∈ (optionalMember "type" (stringValue typeCreate : Option Raw)), p.1 ≠ "suffixData" :=
    fun p hp => by rw [mem_optionalMember hp]; decide
  obtain ⟨hd, hrest⟩ := optionalMember_append_inj (hkeys sR₁) (hkeys sR₂) hms
  obtain ⟨hs, -⟩ := optionalMember_append_inj htkey htkey hrest
  have hcan : canonicalValue codec.format u₁.toValue = canonicalValue codec.format u₂.toValue := by
    rw [Model.CreateRequest.canonicalValue_toValue, Model.CreateRequest.canonicalValue_toValue]
    simp only at hs₁ hs₂ hd₁ hd₂
    rw [hs₁, hs₂, hd₁, hd₂, hop, hs, hd]
  rw [marshalCanonical, hcan] at hX₁
  rw [marshalCanonical, hX₁] at hX₂
  injection hX₂ with hX
  rw [hX]

theorem parseDID_tail_unique_e30 :
    (':' ∉ ("e30" : String).toList ∧
      parseDID NumberCodec.zero "did:x" ("did:x" ++ ":" ++ "s" ++ ":" ++ "e30") =
        .ok ("did:x:s", some (utf8Encode "\x7b\"type\":\"create\"\x7d")) ∧
      (·.operation) <$> (decodeString "e30" >>= Model.unmarshalCreateRequest NumberCodec.zero.parseFloat) =
        (·.operation) <$> (decodeString "e30" >>= Model.unmarshalCreateRequest NumberCodec.zero.parseFloat)) ∧
      ("e30" : String) = "e30" :=
  have ht : ':' ∉ ("e30" : String).toList := by decide
  have h : parseDID NumberCodec.zero "did:x" ("did:x" ++ ":" ++ "s" ++ ":" ++ "e30") =
      .ok ("did:x:s", some (utf8Encode "\x7b\"type\":\"create\"\x7d")) := rfl
  ⟨⟨ht, h, rfl⟩, parseDID_tail_unique NumberCodec.zero ht ht h h rfl⟩

theorem parseDID_type_tails :
    parseDID NumberCodec.zero "did:x" ("did:x" ++ ":" ++ "s" ++ ":" ++ "e30") =
      .ok ("did:x:s", some (utf8Encode "\x7b\"type\":\"create\"\x7d")) ∧
    parseDID NumberCodec.zero "did:x" ("did:x" ++ ":" ++ "s" ++ ":" ++ "eyJ0eXBlIjoiY3JlYXRlIn0") =
      .ok ("did:x:s", some (utf8Encode "\x7b\"type\":\"create\"\x7d")) ∧
    "e30" ≠ "eyJ0eXBlIjoiY3JlYXRlIn0" :=
  ⟨rfl, rfl, by decide⟩

end LongFormRoundTrip

end DidGo.OperationParser
