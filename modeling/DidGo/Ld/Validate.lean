import DidGo.Ld.Validator

namespace DidGo.Ld
open DidGo.Json

variable {N L : Type}

-- validateOpts. The document loader is json-gold's, kept as a value of a type parameter; none is a nil
-- loader.
structure ValidateOpts (L : Type) where
  strict : Bool
  jsonldDocumentLoader : Option L
  externalContext : List String
  contextURIPositions : List String
  jsonldIncludeDetailedStructureDiffOnError : Bool

inductive ValidateOpt (L : Type) where
  | withDocumentLoader (jsonldDocumentLoader : L)
  | withJSONLDIncludeDetailedStructureDiffOnError
  | withExternalContext (externalContext : List String)
  | withStrictValidation (checkStructure : Bool)
  | withStrictContextURIPosition (uri : String)

def ValidateOpt.apply (opts : ValidateOpts L) : ValidateOpt L → ValidateOpts L
  | .withDocumentLoader l => { opts with jsonldDocumentLoader := some l }
  | .withJSONLDIncludeDetailedStructureDiffOnError => { opts with jsonldIncludeDetailedStructureDiffOnError := true }
  | .withExternalContext c => { opts with externalContext := c }
  | .withStrictValidation b => { opts with strict := b }
  | .withStrictContextURIPosition uri => { opts with contextURIPositions := opts.contextURIPositions ++ [uri] }

def defaultValidateOpts : ValidateOpts L :=
  { strict := true, jsonldDocumentLoader := none, externalContext := [], contextURIPositions := [],
    jsonldIncludeDetailedStructureDiffOnError := false }

def getValidateOpts (options : List (ValidateOpt L)) : ValidateOpts L :=
  options.foldl ValidateOpt.apply defaultValidateOpts

-- processor.Default()'s Compact and Expand (json-gold, outside the source tree), given the options' loader
-- and external context.
structure JsonLdProcessor (N L : Type) where
  compact : Option L → List String → Map N → Except String (Map N)
  expand : Option L → List String → Map N → Except String (List (Value N))

section Entry
variable [DecidableEq N] (equalFold : String → String → Bool) (sprint : Value N → String)
  (marshalDiff : Diffs N → String) (proc : JsonLdProcessor N L)

def wrapGoError (p : String) : Go Unit → Go Unit
  | .error (.error e) => .error (.error (p ++ e))
  | r => r

def validateJSONLDMap (docMap : Map N) (options : List (ValidateOpt L)) : Go Unit :=
  let opts := getValidateOpts options
  match proc.compact opts.jsonldDocumentLoader opts.externalContext docMap with
  | .error e => throw (.error ("compact JSON-LD document: " ++ e))
  | .ok docCompactedMap =>
    let mapDiff := findMapDiff docMap docCompactedMap
    if opts.strict && mapDiff.length != 0 then
      let errText := "JSON-LD doc has different structure after compaction"
      throw (.error (if opts.jsonldIncludeDetailedStructureDiffOnError then
        errText ++ ". Details: " ++ marshalDiff mapDiff else errText))
    else
      wrapGoError "validate context URI position: "
        (validateContextURIPosition equalFold opts.contextURIPositions docMap)

def declaredTypes : Value N → Option (List (Value N))
  | .array types => some types
  | .string t => some [.string t]
  | _ => none

-- ValidateJSONLDTypes. The set of the document's types it builds is passed to validateTypesInExpandedDoc,
-- which never reads it.
def validateJSONLDTypes (docMap : Map N) (options : List (ValidateOpt L)) : Go Unit :=
  match docMap.get "type" with
  | none => pure ()
  | some typesObj =>
    match declaredTypes typesObj with
    | none => throw (.error "type must be an array or string")
    | some types =>
      if types.length = 0 then pure ()
      else
        let opts := getValidateOpts options
        match proc.expand opts.jsonldDocumentLoader opts.externalContext docMap with
        | .error e => throw (.error (e ++ "\n" ++ "expand JSON-LD document"))
        | .ok docExpanded => validateTypesInExpandedDoc sprint docExpanded

end Entry

def lastSet {α : Type} (f : ValidateOpt L → Option α) (options : List (ValidateOpt L)) (d : α) : α :=
  (options.filterMap f).getLastD d

def ValidateOpt.loader? : ValidateOpt L → Option (Option L)
  | .withDocumentLoader l => some (some l)
  | _ => none

def ValidateOpt.externalContext? : ValidateOpt L → Option (List String)
  | .withExternalContext c => some c
  | _ => none

def ValidateOpt.strict? : ValidateOpt L → Option Bool
  | .withStrictValidation b => some b
  | _ => none

def ValidateOpt.uri? : ValidateOpt L → Option String
  | .withStrictContextURIPosition uri => some uri
  | _ => none

def ValidateOpt.isDetailed : ValidateOpt L → Bool
  | .withJSONLDIncludeDetailedStructureDiffOnError => true
  | _ => false

theorem foldl_apply (options : List (ValidateOpt L)) :
    ∀ opts : ValidateOpts L, options.foldl ValidateOpt.apply opts =
      { strict := lastSet ValidateOpt.strict? options opts.strict,
        jsonldDocumentLoader := lastSet ValidateOpt.loader? options opts.jsonldDocumentLoader,
        externalContext := lastSet ValidateOpt.externalContext? options opts.externalContext,
        contextURIPositions := opts.contextURIPositions ++ options.filterMap ValidateOpt.uri?,
        jsonldIncludeDetailedStructureDiffOnError :=
          opts.jsonldIncludeDetailedStructureDiffOnError || options.any ValidateOpt.isDetailed } := by
  induction options with
  | nil => intro opts; simp [lastSet]
  | cons o rest ih =>
    intro opts
    rw [List.foldl_cons, ih]
    cases o <;> simp only [lastSet, ValidateOpt.apply, ValidateOpt.strict?, ValidateOpt.loader?,
      ValidateOpt.externalContext?, ValidateOpt.uri?, ValidateOpt.isDetailed, List.filterMap_cons, List.getLastD_cons,
      List.any_cons, Bool.or_true, Bool.true_or, Bool.or_false, Bool.false_or, List.append_assoc, List.singleton_append]

theorem getValidateOpts_eq (options : List (ValidateOpt L)) :
    getValidateOpts options =
      { strict := lastSet ValidateOpt.strict? options true,
        jsonldDocumentLoader := lastSet ValidateOpt.loader? options none,
        externalContext := lastSet ValidateOpt.externalContext? options [],
        contextURIPositions := options.filterMap ValidateOpt.uri?,
        jsonldIncludeDetailedStructureDiffOnError := options.any ValidateOpt.isDetailed } := by
  rw [getValidateOpts, foldl_apply]
  simp [defaultValidateOpts]

section Checks
variable [DecidableEq N] (equalFold : String → String → Bool) (marshalDiff : Diffs N → String)
  (proc : JsonLdProcessor N L)

theorem validateJSONLDMap_error (docMap : Map N) (options : List (ValidateOpt L)) {e : String}
    (h : validateJSONLDMap equalFold marshalDiff proc docMap options = .error (.error e)) :
    (∃ t, e = "compact JSON-LD document: " ++ t) ∨
      (∃ t, e = "JSON-LD doc has different structure after compaction" ++ t) ∨
      (∃ t, e = "validate context URI position: " ++ t) := by
  unfold validateJSONLDMap at h
  dsimp only at h
  split at h
  · cases h
    exact .inl ⟨_, rfl⟩
  · split_ifs at h with _ hd
    · cases h
      exact .inr (.inl ⟨_, String.append_assoc _ _ _⟩)
    · cases h
      exact .inr (.inl ⟨"", (String.append_empty _).symm⟩)
    · unfold wrapGoError at h
      split at h
      · cases h
        exact .inr (.inr ⟨_, rfl⟩)
      · rename_i hne
        exact absurd h (hne _)

end Checks

end DidGo.Ld
