import DidGo.Json.Value

namespace DidGo.PatchValidator
open DidGo.Json

variable {N : Type}

structure Document (N : Type) where
  id : Map N → String
  type : Map N → String
  purpose : Map N → List String
  publicKeyJwk : Map N → Option (Map N)
  publicKeyBase58 : Map N → String
  serviceEndpoint : Map N → Value N
  validate : Map N → Except String Unit
  purpose_absent : ∀ pk, pk.get "purposes" = none → purpose pk = []

def bls12381G2Key2020 : String := "Bls12381G2Key2020"
def jsonWebKey2020 : String := "JsonWebKey2020"
def ecdsaSecp256k1VerificationKey2019 : String := "EcdsaSecp256k1VerificationKey2019"
def x25519KeyAgreementKey2019 : String := "X25519KeyAgreementKey2019"
def ed25519VerificationKey2018 : String := "Ed25519VerificationKey2018"
def ed25519VerificationKey2020 : String := "Ed25519VerificationKey2020"

def maxIDLength : Nat := 50
def maxServiceTypeLength : Nat := 30

def allowedPurposes : List String :=
  ["authentication", "assertionMethod", "keyAgreement", "capabilityDelegation",
    "capabilityInvocation"]

def allowedKeyTypesGeneral : List String :=
  [bls12381G2Key2020, jsonWebKey2020, ecdsaSecp256k1VerificationKey2019,
    ed25519VerificationKey2018, ed25519VerificationKey2020, x25519KeyAgreementKey2019]

def allowedKeyTypesVerification : List String :=
  [bls12381G2Key2020, jsonWebKey2020, ecdsaSecp256k1VerificationKey2019,
    ed25519VerificationKey2018, ed25519VerificationKey2020]

def allowedKeyTypesAgreement : List String :=
  [bls12381G2Key2020, jsonWebKey2020, ecdsaSecp256k1VerificationKey2019,
    x25519KeyAgreementKey2019]

def allowedKeyTypes : String → Option (List String)
  | "authentication" => some allowedKeyTypesVerification
  | "assertionMethod" => some allowedKeyTypesVerification
  | "keyAgreement" => some allowedKeyTypesAgreement
  | "capabilityDelegation" => some allowedKeyTypesVerification
  | "capabilityInvocation" => some allowedKeyTypesVerification
  | _ => none

def asciiRegexMatch (s : String) : Bool :=
  !s.toList.isEmpty && s.toList.all (fun c => c.isAlphanum || c == '_' || c == '-')

def validateID (id : String) : Except String Unit :=
  if id.utf8ByteSize > maxIDLength then .error s!"id exceeds maximum length: {maxIDLength}"
  else if !asciiRegexMatch id then .error "id contains invalid characters"
  else .ok ()

def IdChar (c : Char) : Prop :=
  'A' ≤ c ∧ c ≤ 'Z' ∨ 'a' ≤ c ∧ c ≤ 'z' ∨ '0' ≤ c ∧ c ≤ '9' ∨ c = '_' ∨ c = '-'

def ValidID (id : String) : Prop := id.utf8ByteSize ≤ maxIDLength ∧ id ≠ "" ∧ ∀ c ∈ id.toList, IdChar c

instance (c : Char) : Decidable (IdChar c) :=
  inferInstanceAs (Decidable ('A' ≤ c ∧ c ≤ 'Z' ∨ 'a' ≤ c ∧ c ≤ 'z' ∨ '0' ≤ c ∧ c ≤ '9' ∨ c = '_' ∨ c = '-'))

instance (id : String) : Decidable (ValidID id) :=
  inferInstanceAs (Decidable (id.utf8ByteSize ≤ maxIDLength ∧ id ≠ "" ∧ ∀ c ∈ id.toList, IdChar c))

theorem idChar_iff (c : Char) : (c.isAlphanum || c == '_' || c == '-') = true ↔ IdChar c := by
  simp only [Char.isAlphanum, Char.isAlpha, Char.isUpper, Char.isLower, Char.isDigit, IdChar, Char.le_def,
    Bool.or_eq_true, Bool.and_eq_true, decide_eq_true_eq, beq_iff_eq, ge_iff_le, or_assoc]
  rfl

theorem asciiRegexMatch_iff (s : String) : asciiRegexMatch s = true ↔ s ≠ "" ∧ ∀ c ∈ s.toList, IdChar c := by
  simp only [asciiRegexMatch, Bool.and_eq_true, Bool.not_eq_true', List.isEmpty_eq_false, List.all_eq_true,
    idChar_iff]
  exact and_congr_left' ⟨fun h e => h (by simp [e]), fun h e => h (String.ext e)⟩

theorem validateID_ok_iff (id : String) : validateID id = .ok () ↔ ValidID id := by
  rw [ValidID, ← asciiRegexMatch_iff]
  unfold validateID
  split
  · simp; omega
  · split <;> simp_all

section Services

variable (d : Document N) (parseRequestURI : String → Except String Unit)

def validateServiceID (id : String) : Except String Unit := do
  check (id != "") "service id is missing"
  prefixError "service: " (validateID id)

def validateServiceType (serviceType : String) : Except String Unit := do
  check (serviceType != "") "service type is missing"
  check (serviceType.utf8ByteSize ≤ maxServiceTypeLength)
    s!"service type exceeds maximum length: {maxServiceTypeLength}"

def validateURI (uri : String) : Except String Unit :=
  if uri = "" then .error "service endpoint URI is empty"
  else match parseRequestURI uri with
    | .error e => .error ("service endpoint '" ++ uri ++ "' is not a valid URI: " ++ e)
    | .ok () => .ok ()

def validateURIs (uris : List String) : Except String Unit :=
  uris.forM (validateURI parseRequestURI)

def validateServiceEndpointObjects : List (Value N) → Except String Unit
  | [] => .ok ()
  | .string uri :: _ => validateURI parseRequestURI uri
  | _ :: rest => validateServiceEndpointObjects rest

def validateServiceEndpoint : Value N → Except String Unit
  | .null => .error "service endpoint is missing"
  | .string uri => validateURI parseRequestURI uri
  | .strings uris => validateURIs parseRequestURI uris
  | .array objs => validateServiceEndpointObjects parseRequestURI objs
  | _ => .ok ()

def validateService (service : Map N) : Except String Unit := do
  validateServiceID (d.id service)
  validateServiceType (d.type service)
  validateServiceEndpoint parseRequestURI (d.serviceEndpoint service)

def validateServices (services : List (Map N)) : Except String Unit :=
  go [] services
where
  go (ids : List String) : List (Map N) → Except String Unit
    | [] => .ok ()
    | service :: rest => do
      validateService d parseRequestURI service
      check (d.id service ∉ ids) ("duplicate service id: " ++ d.id service)
      go (d.id service :: ids) rest

def ValidURI (uri : String) : Prop := uri ≠ "" ∧ parseRequestURI uri = .ok ()

instance (uri : String) : Decidable (ValidURI parseRequestURI uri) :=
  inferInstanceAs (Decidable (uri ≠ "" ∧ parseRequestURI uri = .ok ()))

theorem validateURI_ok_iff (uri : String) :
    validateURI parseRequestURI uri = .ok () ↔ ValidURI parseRequestURI uri := by
  unfold validateURI ValidURI
  split
  · simp_all
  · split <;> simp_all

theorem validateURIs_ok_iff (uris : List String) :
    validateURIs parseRequestURI uris = .ok () ↔ ∀ u ∈ uris, ValidURI parseRequestURI u := by
  simp [validateURIs, Except.forM_ok_iff, validateURI_ok_iff]

def firstString : List (Value N) → Option String
  | [] => none
  | .string s :: _ => some s
  | _ :: rest => firstString rest

theorem firstString_mem {xs : List (Value N)} {u : String} (h : firstString xs = some u) :
    .string u ∈ xs := by
  induction xs with
  | nil => cases h
  | cons x rest ih =>
    cases x <;> simp only [firstString, Option.some.injEq] at h
    all_goals first | (subst h; exact List.mem_cons_self _ _) | exact List.mem_cons_of_mem _ (ih h)

theorem validateServiceEndpointObjects_ok_iff (objs : List (Value N)) :
    validateServiceEndpointObjects parseRequestURI objs = .ok () ↔
      ∀ u, firstString objs = some u → ValidURI parseRequestURI u := by
  induction objs with
  | nil => simp [validateServiceEndpointObjects, firstString]
  | cons x rest ih =>
    cases x <;> simp [validateServiceEndpointObjects, firstString, ih, validateURI_ok_iff]

def EndpointAccepted (arrayOk : List (Value N) → Prop) : Value N → Prop
  | .null => False
  | .string uri => ValidURI parseRequestURI uri
  | .strings uris => ∀ u ∈ uris, ValidURI parseRequestURI u
  | .array objs => arrayOk objs
  | _ => True

def ServiceAccepted (arrayOk : List (Value N) → Prop) (service : Map N) : Prop :=
  d.id service ≠ "" ∧ ValidID (d.id service) ∧ d.type service ≠ "" ∧
    (d.type service).utf8ByteSize ≤ maxServiceTypeLength ∧
    EndpointAccepted parseRequestURI arrayOk (d.serviceEndpoint service)

def FirstStringOk (objs : List (Value N)) : Prop :=
  ∀ u, firstString objs = some u → ValidURI parseRequestURI u

theorem validateServiceEndpoint_ok_iff (v : Value N) :
    validateServiceEndpoint parseRequestURI v = .ok () ↔
      EndpointAccepted parseRequestURI (FirstStringOk parseRequestURI) v := by
  cases v <;> simp [validateServiceEndpoint, EndpointAccepted, FirstStringOk, validateURI_ok_iff,
    validateURIs_ok_iff, validateServiceEndpointObjects_ok_iff]

theorem validateService_ok_iff (service : Map N) :
    validateService d parseRequestURI service = .ok () ↔
      ServiceAccepted d parseRequestURI (FirstStringOk parseRequestURI) service := by
  simp [validateService, validateServiceID, validateServiceType, Except.bind_ok_iff,
    validateServiceEndpoint_ok_iff, validateID_ok_iff, ServiceAccepted, and_assoc]

theorem validateServices_go_ok_iff (ids : List String) (services : List (Map N)) :
    validateServices.go d parseRequestURI ids services = .ok () ↔
      (∀ s ∈ services, ServiceAccepted d parseRequestURI (FirstStringOk parseRequestURI) s) ∧
        (services.map d.id).Nodup ∧ ∀ s ∈ services, d.id s ∉ ids := by
  induction services generalizing ids with
  | nil => simp [validateServices.go]
  | cons s rest ih =>
    simp only [validateServices.go, Except.bind_ok_iff, validateService_ok_iff, check_ok_iff,
      decide_eq_true_eq, ih, List.forall_mem_cons, List.map_cons, List.nodup_cons, List.mem_map,
      List.mem_cons, not_or, not_exists, not_and, forall_eq_or_imp]
    constructor
    · rintro ⟨h1, h2, h3, h4, h5⟩
      exact ⟨⟨h1, h3⟩, ⟨fun x hx he => (h5 x hx).1 he, h4⟩, h2, fun x hx => (h5 x hx).2⟩
    · rintro ⟨⟨h1, h2⟩, ⟨h3, h4⟩, h5, h6⟩
      exact ⟨h1, h5, h2, h4, fun x hx => ⟨h3 x hx, h6 x hx⟩⟩

theorem validateServices_ok_iff (services : List (Map N)) :
    validateServices d parseRequestURI services = .ok () ↔
      (∀ s ∈ services, ServiceAccepted d parseRequestURI (FirstStringOk parseRequestURI) s) ∧
        (services.map d.id).Nodup := by
  simp [validateServices, validateServices_go_ok_iff]

end Services

section PublicKeys

variable (d : Document N)

def requiredKeys : List String := ["type", "id"]
def optionalKeys : List String := ["purposes"]
def oneOfNKeys : List (List String) := [["publicKeyJwk", "publicKeyBase58"]]
def allowedKeys : List String := requiredKeys ++ optionalKeys ++ oneOfNKeys.flatten

def exactlyOne (pk : Map N) : Bool → List String → Bool
  | satisfied, [] => satisfied
  | satisfied, key :: rest =>
    if pk.has key && satisfied then false else exactlyOne pk (satisfied || pk.has key) rest

def validatePublicKeyProperties (pk : Map N) : Except String Unit := do
  requiredKeys.forM fun required =>
    check (pk.has required) ("key '" ++ required ++ "' is required for public key")
  oneOfNKeys.forM fun keyGroup =>
    check (exactlyOne pk false keyGroup)
      ("exactly one key required of '" ++ "', '".intercalate keyGroup ++ "'")
  pk.keys.forM fun key => check (key ∈ allowedKeys) ("key '" ++ key ++ "' is not allowed for public key")

def validateKeyPurposes (pk : Map N) : Except String Unit := do
  check (!(pk.has "purposes" && (d.purpose pk).isEmpty))
    "if 'purposes' key is specified, it must contain at least one purpose"
  check ((d.purpose pk).length ≤ allowedPurposes.length)
    ("public key purpose exceeds maximum length: " ++ toString allowedPurposes.length)
  (d.purpose pk).forM fun purpose => check (purpose ∈ allowedPurposes) ("invalid purpose: " ++ purpose)

def validateKeyTypePurpose (pk : Map N) : Bool :=
  (!(d.purpose pk).isEmpty || d.type pk ∈ allowedKeyTypesGeneral) &&
    (d.purpose pk).all (fun purpose => d.type pk ∈ (allowedKeyTypes purpose).getD [])

def validateJWK : Option (Map N) → Except String Unit
  | none => .error "key has to be in JWK format"
  | some jwk => d.validate jwk

def validateKeyJWK (pk : Map N) : Except String Unit :=
  match validateJWK d (d.publicKeyJwk pk) with
  | .error e => if d.publicKeyBase58 pk = "" || d.type pk = jsonWebKey2020 then .error e else .ok ()
  | .ok () => .ok ()

def validatePublicKeys (pubKeys : List (Map N)) : Except String Unit :=
  go [] pubKeys
where
  go (ids : List String) : List (Map N) → Except String Unit
    | [] => .ok ()
    | pk :: rest => do
      validatePublicKeyProperties pk
      prefixError "public key: " (validateID (d.id pk))
      check (d.id pk ∉ ids) ("duplicate public key id: " ++ d.id pk)
      validateKeyPurposes d pk
      check (validateKeyTypePurpose d pk) ("invalid key type: " ++ d.type pk)
      validateKeyJWK d pk
      go (d.id pk :: ids) rest

def KeyAccepted (pk : Map N) : Prop :=
  pk.has "id" ∧ pk.has "type" ∧ pk.has "publicKeyJwk" ≠ pk.has "publicKeyBase58" ∧
    (∀ k ∈ pk.keys, k ∈ allowedKeys) ∧ ValidID (d.id pk) ∧
    (pk.has "purposes" →
      d.purpose pk ≠ [] ∧ (d.purpose pk).length ≤ 5 ∧ ∀ p ∈ d.purpose pk, p ∈ allowedPurposes) ∧
    (d.purpose pk = [] → d.type pk ∈ allowedKeyTypesGeneral) ∧
    (∀ p ∈ d.purpose pk, d.type pk ∈ (allowedKeyTypes p).getD []) ∧
    ((∃ jwk, d.publicKeyJwk pk = some jwk ∧ d.validate jwk = .ok ()) ∨
      d.publicKeyBase58 pk ≠ "" ∧ d.type pk ≠ jsonWebKey2020)

theorem exactlyOne_pair (pk : Map N) (a b : String) :
    exactlyOne pk false [a, b] = (pk.has a != pk.has b) := by
  cases ha : pk.has a <;> cases hb : pk.has b <;> simp [exactlyOne, ha, hb]

theorem validatePublicKeyProperties_ok_iff (pk : Map N) :
    validatePublicKeyProperties pk = .ok () ↔
      pk.has "type" ∧ pk.has "id" ∧ pk.has "publicKeyJwk" ≠ pk.has "publicKeyBase58" ∧
        ∀ k ∈ pk.keys, k ∈ allowedKeys := by
  simp [validatePublicKeyProperties, Except.bind_ok_iff, Except.forM_ok_iff, requiredKeys,
    oneOfNKeys, exactlyOne_pair]

theorem validateKeyPurposes_ok_iff (pk : Map N) :
    validateKeyPurposes d pk = .ok () ↔
      (pk.has "purposes" →
        d.purpose pk ≠ [] ∧ (d.purpose pk).length ≤ 5 ∧ ∀ p ∈ d.purpose pk, p ∈ allowedPurposes) := by
  simp only [validateKeyPurposes, Except.bind_ok_iff, Except.forM_ok_iff, check_ok_iff,
    decide_eq_true_eq, Bool.not_eq_true', Bool.and_eq_false_iff, List.isEmpty_eq_false]
  by_cases h : pk.has "purposes"
  · simp [h, allowedPurposes, List.isEmpty_iff]
  · have hp : d.purpose pk = [] := d.purpose_absent pk (by simpa [Map.has] using h)
    simp [h, hp]

theorem validateKeyTypePurpose_iff (pk : Map N) :
    validateKeyTypePurpose d pk = true ↔
      (d.purpose pk = [] → d.type pk ∈ allowedKeyTypesGeneral) ∧
        ∀ p ∈ d.purpose pk, d.type pk ∈ (allowedKeyTypes p).getD [] := by
  simp [validateKeyTypePurpose, or_iff_not_imp_left, List.isEmpty_iff]

theorem validateJWK_ok_iff (jwk : Option (Map N)) :
    validateJWK d jwk = .ok () ↔ ∃ m, jwk = some m ∧ d.validate m = .ok () := by
  cases jwk <;> simp [validateJWK]

theorem validateKeyJWK_ok_iff (pk : Map N) :
    validateKeyJWK d pk = .ok () ↔ (∃ jwk, d.publicKeyJwk pk = some jwk ∧ d.validate jwk = .ok ()) ∨
      d.publicKeyBase58 pk ≠ "" ∧ d.type pk ≠ jsonWebKey2020 := by
  rw [← validateJWK_ok_iff]
  unfold validateKeyJWK
  split <;> (try split) <;> simp_all
  tauto

theorem validatePublicKeys_step (ids : List String) (pk : Map N) (rest : List (Map N)) :
    validatePublicKeys.go d ids (pk :: rest) = .ok () ↔
      KeyAccepted d pk ∧ d.id pk ∉ ids ∧ validatePublicKeys.go d (d.id pk :: ids) rest = .ok () := by
  rw [KeyAccepted, ← validateKeyJWK_ok_iff]
  simp only [validatePublicKeys.go, Except.bind_ok_iff, validatePublicKeyProperties_ok_iff,
    prefixError_ok_iff, validateID_ok_iff, check_ok_iff, decide_eq_true_eq,
    validateKeyPurposes_ok_iff, validateKeyTypePurpose_iff]
  tauto

theorem validatePublicKeys_go_ok_iff (ids : List String) (pubKeys : List (Map N)) :
    validatePublicKeys.go d ids pubKeys = .ok () ↔
      (∀ pk ∈ pubKeys, KeyAccepted d pk) ∧ (pubKeys.map d.id).Nodup ∧
        ∀ pk ∈ pubKeys, d.id pk ∉ ids := by
  induction pubKeys generalizing ids with
  | nil => simp [validatePublicKeys.go]
  | cons pk rest ih =>
    simp only [validatePublicKeys_step, ih, List.forall_mem_cons, List.map_cons, List.nodup_cons,
      List.mem_map, List.mem_cons, not_or, not_exists, not_and, forall_eq_or_imp]
    constructor
    · rintro ⟨h1, h2, h3, h4, h5⟩
      exact ⟨⟨h1, h3⟩, ⟨fun x hx he => (h5 x hx).1 he, h4⟩, h2, fun x hx => (h5 x hx).2⟩
    · rintro ⟨⟨h1, h2⟩, ⟨h3, h4⟩, h5, h6⟩
      exact ⟨h1, h5, h2, h4, fun x hx => ⟨h3 x hx, h6 x hx⟩⟩

theorem validatePublicKeys_ok_iff (pubKeys : List (Map N)) :
    validatePublicKeys d pubKeys = .ok () ↔
      (∀ pk ∈ pubKeys, KeyAccepted d pk) ∧ (pubKeys.map d.id).Nodup := by
  simp [validatePublicKeys, validatePublicKeys_go_ok_iff]

end PublicKeys

section WellFormed

variable (d : Document N) (parseRequestURI : String → Except String Unit)

def WellFormedEndpoint : Value N → Prop
  | .string uri => ValidURI parseRequestURI uri
  | .strings uris => ∀ u ∈ uris, ValidURI parseRequestURI u
  | .array objs => (∀ x ∈ objs, ∃ u, x = .string u ∧ ValidURI parseRequestURI u) ∨
      ∀ x ∈ objs, ∃ (m : Map N) (u : String), x = .object m ∧
        m.get "serviceEndpoint" = some (.string u) ∧
        ValidURI parseRequestURI u
  | _ => False

def WellFormedServices (services : List (Map N)) : Prop :=
  (∀ s ∈ services, d.id s ≠ "" ∧ ValidID (d.id s) ∧ d.type s ≠ "" ∧
    (d.type s).utf8ByteSize ≤ maxServiceTypeLength ∧
    WellFormedEndpoint parseRequestURI (d.serviceEndpoint s)) ∧ (services.map d.id).Nodup

end WellFormed

def stringArray : Option (Value N) → List String
  | some (.array xs) => xs.map (fun x => stringEntry (some x))
  | some (.strings xs) => xs
  | _ => []

def Document.entries (validate : Map N → Except String Unit) : Document N where
  id m := stringEntry (m.get "id")
  type m := stringEntry (m.get "type")
  purpose m := stringArray (m.get "purposes")
  publicKeyJwk m := match m.get "publicKeyJwk" with
    | some (.object jwk) => some jwk
    | _ => none
  publicKeyBase58 m := stringEntry (m.get "publicKeyBase58")
  serviceEndpoint m := (m.get "serviceEndpoint").getD .null
  validate := validate
  purpose_absent pk h := by simp [h, stringArray]

theorem validateServices_checks_first_uri_only (d : Document N) (parseRequestURI : String → Except String Unit)
    {service : Map N} {u v : String} {rest : List (Value N)}
    (hid : d.id service ≠ "" ∧ ValidID (d.id service))
    (htype : d.type service ≠ "" ∧ (d.type service).utf8ByteSize ≤ maxServiceTypeLength)
    (hend : d.serviceEndpoint service = .array (.string u :: rest)) (hu : ValidURI parseRequestURI u)
    (hv : .string v ∈ rest) (hbad : ¬ ValidURI parseRequestURI v) :
    validateServices d parseRequestURI [service] = .ok () ∧ validateURIs parseRequestURI [u, v] ≠ .ok () ∧
      ¬ WellFormedServices d parseRequestURI [service] := by
  refine ⟨(validateServices_ok_iff d parseRequestURI [service]).mpr ⟨?_, by simp⟩, ?_, ?_⟩
  · simp only [List.mem_singleton, forall_eq]
    refine ⟨hid.1, hid.2, htype.1, htype.2, ?_⟩
    rw [hend]
    rintro w ⟨⟩
    exact hu
  · simp [validateURIs_ok_iff, hbad]
  · rintro ⟨h, -⟩
    have he := (h service (List.mem_singleton_self _)).2.2.2.2
    rw [hend] at he
    rcases he with he | he
    · obtain ⟨w, hw, hw'⟩ := he _ (List.mem_cons_of_mem _ hv)
      cases hw
      exact hbad hw'
    · obtain ⟨m, w, hw, -⟩ := he _ (List.mem_cons_self _ _)
      cases hw

def httpsRequestURI (s : String) : Except String Unit :=
  if s.toList.take 8 = "https://".toList then .ok () else .error ("parse " ++ s ++ ": invalid URI for request")

def firstURIOnlyService : Map Unit :=
  [("id", .string "hub"), ("type", .string "LinkedDomains"),
    ("serviceEndpoint", .array [.string "https://example.com", .string "not a uri"])]

theorem validateServices_checks_first_uri_only_sample :
    ((Document.entries fun _ => .ok ()).id firstURIOnlyService ≠ "" ∧
        ValidID ((Document.entries fun _ => .ok ()).id firstURIOnlyService)) ∧
      ((Document.entries fun _ => .ok ()).type firstURIOnlyService ≠ "" ∧
        ((Document.entries fun _ => .ok ()).type firstURIOnlyService).utf8ByteSize ≤ maxServiceTypeLength) ∧
      (Document.entries fun _ => .ok ()).serviceEndpoint firstURIOnlyService =
        .array [.string "https://example.com", .string "not a uri"] ∧
      ValidURI httpsRequestURI "https://example.com" ∧ ¬ ValidURI httpsRequestURI "not a uri" ∧
      (validateServices (Document.entries fun _ => .ok ()) httpsRequestURI [firstURIOnlyService] = .ok () ∧
        validateURIs httpsRequestURI ["https://example.com", "not a uri"] ≠ .ok () ∧
        ¬ WellFormedServices (Document.entries fun _ => .ok ()) httpsRequestURI [firstURIOnlyService]) :=
  have hid : (Document.entries fun _ => .ok ()).id firstURIOnlyService ≠ "" ∧
      ValidID ((Document.entries fun _ => .ok ()).id firstURIOnlyService) := by decide
  have htype : (Document.entries fun _ => .ok ()).type firstURIOnlyService ≠ "" ∧
      ((Document.entries fun _ => .ok ()).type firstURIOnlyService).utf8ByteSize ≤ maxServiceTypeLength := by
    decide
  have hu : ValidURI httpsRequestURI "https://example.com" := by decide
  have hbad : ¬ ValidURI httpsRequestURI "not a uri" := by decide
  ⟨hid, htype, rfl, hu, hbad, validateServices_checks_first_uri_only _ httpsRequestURI hid htype rfl hu
    (List.mem_singleton_self _) hbad⟩

section Patches
variable {P : Type} (d : Document N) (parseRequestURI : String → Except String Unit)
  (getValue : P → Except String (Value N)) (stringArray : List (Value N) → List String)
  (parseServices : Value N → List (Map N))

def getRequiredArray : Value N → Except String (List (Value N))
  | .array arr => if arr.isEmpty then .error "required array is empty" else .ok arr
  | _ => .error "expected array of interfaces"

def validateIds (ids : List String) : Except String Unit := ids.forM validateID

-- RemoveServicesValidator.Validate. patch.Patch.GetValue and document.StringArray are outside the source
-- tree: getValue and stringArray.
def removeServicesValidate (p : P) : Except String Unit := do
  let value ← getValue p
  let genericArr ← (getRequiredArray value).mapError ("invalid remove services value: " ++ ·)
  validateIds (stringArray genericArr)

-- AddServicesValidator.Validate; document.ParseServices, outside the source tree, is parseServices.
def addServicesValidate (p : P) : Except String Unit := do
  let value ← getValue p
  let _ ← (getRequiredArray value).mapError ("invalid add services value: " ++ ·)
  validateServices d parseRequestURI (parseServices value)

end Patches

end DidGo.PatchValidator
