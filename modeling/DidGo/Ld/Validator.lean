import DidGo.Json.Value

namespace DidGo.Ld
open DidGo.Json

variable {N : Type}

def compactValue : Value N → Value N
  | .array [x] => compactValue x
  | .object [(k, w)] => if k = "id" then w else .object [(k, w)]
  | v => v

/- The Go compaction functions, fused so that every call is on a subterm: `compactEntry v` is
what `compactMap` stores for `v` (the type switch on `compactValue v`), `compactItem v` what
`compactSlice` stores. `compactMap_eq` and `compactSlice_eq` restate them in the source's shape. -/
mutual
def compactMap : Map N → Map N
  | [] => []
  | (k, v) :: rest =>
    if k = "@context" then compactMap rest else (k, compactEntry v) :: compactMap rest

def compactEntry : Value N → Value N
  | .array [x] => compactEntry x
  | .array xs => .array (compactSlice xs)
  | .object [(k, w)] =>
    if k = "id" then compactKind w
    else .object (if k = "@context" then [] else [(k, compactEntry w)])
  | .object m => .object (compactMap m)
  | .null => .null
  | .bool b => .bool b
  | .number x => .number x
  | .string s => .string s
  | .strings xs => .strings xs

def compactKind : Value N → Value N
  | .array xs => .array (compactSlice xs)
  | .object m => .object (compactMap m)
  | .null => .null
  | .bool b => .bool b
  | .number x => .number x
  | .string s => .string s
  | .strings xs => .strings xs

def compactSlice : List (Value N) → List (Value N)
  | [] => []
  | x :: rest => compactItem x :: compactSlice rest

def compactItem : Value N → Value N
  | .array [x] => compactItem x
  | .array xs => .array xs
  | .object [(k, w)] =>
    if k = "id" then compactSliceItem w
    else .object (if k = "@context" then [] else [(k, compactEntry w)])
  | .object m => .object (compactMap m)
  | .null => .null
  | .bool b => .bool b
  | .number x => .number x
  | .string s => .string s
  | .strings xs => .strings xs

def compactSliceItem : Value N → Value N
  | .object kv => .object (compactMap kv)
  | .array xs => .array xs
  | .null => .null
  | .bool b => .bool b
  | .number x => .number x
  | .string s => .string s
  | .strings xs => .strings xs
end

theorem compactEntry_compactItem_eq (v : Value N) :
    compactEntry v = compactKind (compactValue v) ∧ compactItem v = compactSliceItem (compactValue v) := by
  induction v using compactValue.induct with
  | case1 x ih => exact ih
  | case2 w => exact ⟨if_pos rfl, if_pos rfl⟩
  | case3 k w hk => simp [compactEntry, compactItem, compactValue, compactKind, compactSliceItem, compactMap, hk]
  | case4 v h1 h2 =>
    cases v with
    | array xs =>
      obtain _ | ⟨x, _ | _⟩ := xs
      · exact ⟨rfl, rfl⟩
      · exact (h1 x rfl).elim
      · exact ⟨rfl, rfl⟩
    | object m =>
      obtain _ | ⟨⟨k, w⟩, _ | _⟩ := m
      · exact ⟨rfl, rfl⟩
      · exact (h2 k w rfl).elim
      · exact ⟨rfl, rfl⟩
    | _ => exact ⟨rfl, rfl⟩

theorem compactEntry_eq (v : Value N) : compactEntry v = compactKind (compactValue v) :=
  (compactEntry_compactItem_eq v).1

theorem compactItem_eq (v : Value N) : compactItem v = compactSliceItem (compactValue v) :=
  (compactEntry_compactItem_eq v).2

theorem compactMap_eq (m : Map N) :
    compactMap m = m.filterMap fun (k, v) =>
      if k = "@context" then none else some (k, compactKind (compactValue v)) := by
  induction m with
  | nil => rfl
  | cons kv rest ih =>
    obtain ⟨k, v⟩ := kv
    simp only [compactMap, List.filterMap_cons, ih, compactEntry_eq]
    split <;> rfl

theorem compactSlice_eq (s : List (Value N)) :
    compactSlice s = s.map fun x => compactSliceItem (compactValue x) := by
  induction s with
  | nil => rfl
  | cons x rest ih => rw [compactSlice, ih, compactItem_eq, List.map_cons]

theorem sizeOf_compactMap_le (m : Map N) : sizeOf (compactMap m) ≤ sizeOf m := by
  apply compactMap.induct (fun m => sizeOf (compactMap m) ≤ sizeOf m)
    (fun v => sizeOf (compactEntry v) ≤ sizeOf v) (fun v => sizeOf (compactKind v) ≤ sizeOf v)
    (fun s => sizeOf (compactSlice s) ≤ sizeOf s) (fun v => sizeOf (compactItem v) ≤ sizeOf v)
    (fun v => sizeOf (compactSliceItem v) ≤ sizeOf v)
  all_goals intros
  all_goals simp_all [compactMap, compactEntry, compactKind, compactSlice, compactItem, compactSliceItem]
  all_goals (try split_ifs) <;> simp only [List.nil.sizeOf_spec, List.cons.sizeOf_spec,
    Prod.mk.sizeOf_spec] at * <;> omega

theorem keys_compactMap (m : Map N) :
    (compactMap m).keys = m.keys.filter (· ≠ "@context") := by
  induction m with
  | nil => rfl
  | cons kv rest ih =>
    obtain ⟨k, v⟩ := kv
    by_cases hk : k = "@context" <;> simp [compactMap, Map.keys, hk] at ih ⊢ <;> exact ih

theorem keys_filter_ne (m : Map N) (k : String) :
    Map.keys (m.filter (·.1 ≠ k)) = m.keys.filter (· ≠ k) := by
  simp [Map.keys, List.filter_map, Function.comp_def]

def isContainer : Value N → Bool
  | .array _ => true
  | .object _ => true
  | _ => false

theorem compactKind_compactValue_flat {v : Value N} (h : isContainer v = false) :
    compactKind (compactValue v) = v := by
  cases v <;> simp [isContainer, compactValue, compactKind] at h ⊢

theorem compactMap_flat {m : Map N} (h : ∀ p ∈ m, isContainer p.2 = false) :
    ∀ p ∈ compactMap m, isContainer p.2 = false := by
  rw [compactMap_eq]
  intro p hp
  obtain ⟨⟨k, v⟩, hv, hp⟩ := List.mem_filterMap.mp hp
  dsimp only at hp
  split_ifs at hp
  cases hp
  rw [compactKind_compactValue_flat (h (k, v) hv)]
  exact h (k, v) hv

theorem keys_compactMap_compactMap (m : Map N) :
    (compactMap (compactMap m)).keys = m.keys.filter (· ≠ "@context") := by
  simp [keys_compactMap, List.filter_filter]

theorem Map.has_iff_mem_keys (m : Map N) (k : String) : m.has k = true ↔ k ∈ m.keys := by
  induction m with
  | nil => simp [Map.has, Map.get, Map.keys]
  | cons kv rest ih =>
    obtain ⟨k', v⟩ := kv
    by_cases h : k = k'
    · simp [Map.has, Map.get, Map.keys, List.lookup_cons, h]
    · simp_all [Map.has, Map.get, Map.keys, List.lookup_cons, beq_false_of_ne h]

structure Diff (N : Type) where
  originalValue : Value N
  compactedValue : Value N

abbrev Diffs (N : Type) := List (String × List (Diff N))

def appendDiffs : Diffs N → String → List (Diff N) → Diffs N
  | [], key, ds => [(key, ds)]
  | (k, old) :: rest, key, ds =>
    if k = key then (k, old ++ ds) :: rest else (k, old) :: appendDiffs rest key ds

def missingDiffs (original compacted : Map N) (path : String) : Diffs N :=
  let diffs := original.foldl (fun diffs (k, v) =>
    if compacted.has k then diffs
    else appendDiffs diffs (path ++ "." ++ k) [⟨v, .string "!missing!"⟩]) []
  compacted.foldl (fun diffs (k, v) =>
    if original.has k then diffs
    else appendDiffs diffs (path ++ "." ++ k) [⟨.string "!missing!", v⟩]) diffs

theorem appendDiffs_ne_nil (diffs : Diffs N) (key : String) (ds : List (Diff N)) :
    appendDiffs diffs key ds ≠ [] := by
  cases diffs with
  | nil => simp [appendDiffs]
  | cons d rest => unfold appendDiffs; split <;> simp

theorem foldl_ne_nil {α : Type} (f : Diffs N → α → Diffs N) (hf : ∀ d x, d ≠ [] → f d x ≠ []) :
    ∀ (l : List α) (d : Diffs N), (d ≠ [] ∨ ∃ x ∈ l, ∀ d, f d x ≠ []) → l.foldl f d ≠ []
  | [], d, h => by simpa using h
  | x :: rest, d, h => by
    rw [List.foldl_cons]
    apply foldl_ne_nil f hf rest
    rcases h with hd | ⟨y, hy, hfy⟩
    · exact .inl (hf d x hd)
    · rcases List.mem_cons.mp hy with rfl | hy
      · exact .inl (hfy d)
      · exact .inr ⟨y, hy, hfy⟩

theorem missingDiffs_ne_nil {original compacted : Map N} {k : String} (hk : k ∈ original.keys)
    (hc : k ∉ compacted.keys) (path : String) : missingDiffs original compacted path ≠ [] := by
  obtain ⟨⟨k, v⟩, hmem, rfl⟩ := List.mem_map.mp hk
  have hnot : compacted.has k = false := by simpa [← Map.has_iff_mem_keys] using hc
  refine foldl_ne_nil _ (fun d _ hd => by split; split_ifs <;> simp [hd, appendDiffs_ne_nil]) _ _
    (.inl (foldl_ne_nil _ (fun d _ hd => by split; split_ifs <;> simp [hd, appendDiffs_ne_nil]) _ _
      (.inr ⟨(k, v), hmem, fun d => by simp [hnot, appendDiffs_ne_nil]⟩)))

theorem missingDiffs_ne_nil_of_compacted {original compacted : Map N} {k : String} (hk : k ∉ original.keys)
    (hc : k ∈ compacted.keys) (path : String) : missingDiffs original compacted path ≠ [] := by
  obtain ⟨⟨k, v⟩, hmem, rfl⟩ := List.mem_map.mp hc
  have hnot : original.has k = false := by simpa [← Map.has_iff_mem_keys] using hk
  exact foldl_ne_nil _ (fun d _ hd => by split; split_ifs <;> simp [hd, appendDiffs_ne_nil]) _ _
    (.inr ⟨(k, v), hmem, fun d => by simp [hnot, appendDiffs_ne_nil]⟩)

theorem missingDiffs_ne_nil_of_length {original compacted : Map N} (ho : original.keys.Nodup)
    (hc : compacted.keys.Nodup) (hlen : original.length ≠ compacted.length) (path : String) :
    missingDiffs original compacted path ≠ [] := by
  by_cases h1 : ∃ k ∈ original.keys, k ∉ compacted.keys
  · obtain ⟨k, hk, hk'⟩ := h1
    exact missingDiffs_ne_nil hk hk' path
  by_cases h2 : ∃ k ∈ compacted.keys, k ∉ original.keys
  · obtain ⟨k, hk, hk'⟩ := h2
    exact missingDiffs_ne_nil_of_compacted hk' hk path
  push_neg at h1 h2
  have hle := (List.subperm_of_subset ho fun k hk => h1 k hk).length_le
  have hge := (List.subperm_of_subset hc fun k hk => h2 k hk).length_le
  simp only [Map.keys, List.length_map] at hle hge
  omega

theorem mem_compactMap {m : Map N} {k : String} {x : Value N} (h : (k, x) ∈ m) (hc : k ≠ "@context") :
    (k, compactKind (compactValue x)) ∈ compactMap m := by
  rw [compactMap_eq]
  exact List.mem_filterMap.mpr ⟨(k, x), h, if_neg hc⟩

theorem compactKind_compactValue_object {u : Map N} (h : 2 ≤ u.length) :
    compactKind (compactValue (.object u)) = .object (compactMap u) := by
  match u, h with
  | _ :: _ :: _, _ => rfl

theorem length_compactMap (m : Map N) : (compactMap m).length = (m.keys.filter (· ≠ "@context")).length := by
  rw [← keys_compactMap, Map.keys, List.length_map]

def mergeDiffs (diffs mp : Diffs N) : Diffs N :=
  mp.foldl (fun diffs (m1, m2) => appendDiffs diffs m1 m2) diffs

theorem mergeDiffs_ne_nil {diffs : Diffs N} (h : diffs ≠ []) (mp : Diffs N) : mergeDiffs diffs mp ≠ [] :=
  foldl_ne_nil _ (fun _ ⟨_, _⟩ _ => appendDiffs_ne_nil _ _ _) mp diffs (.inl h)

section Structure
variable [DecidableEq N]

theorem Value.deepEqual_object_length {a b : Map N} (h : Value.deepEqual (.object a) (.object b) = true) :
    a.length = b.length := by
  have h' : (a.length == b.length && Value.mapEqual a b) = true := h
  simp only [Bool.and_eq_true, beq_iff_eq] at h'
  exact h'.1

mutual
def mapsHaveSameStructure (originalMap compactedMap : Map N) (path : String) : Diffs N :=
  let original := compactMap originalMap
  let compacted := compactMap compactedMap
  if Value.deepEqual (.object original) (.object compacted) then []
  else if original.length ≠ compacted.length then missingDiffs original compacted path
  else sameStructureLoop compacted path original []
termination_by (sizeOf originalMap, 2)
decreasing_by exact Prod.Lex.right' _ (sizeOf_compactMap_le _) (by decide)

-- The loop of mapsHaveSameStructure over the entries of original.
def sameStructureLoop (compacted : Map N) (path : String) : Map N → Diffs N → Diffs N
  | [], diffs => diffs
  | (k, v1) :: rest, diffs =>
    sameStructureLoop compacted path rest (sameStructureEntry compacted (path ++ "." ++ k) k v1 diffs)
termination_by original => (sizeOf original, 1)

def sameStructureEntry (compacted : Map N) (diffKey k : String) (v1 : Value N) (diffs : Diffs N) :
    Diffs N :=
  match v1 with
  | .object v1Map =>
    match compacted.get k with
    | none => diffs
    | some v2 =>
      match v2 with
      | .object v2Map => mergeDiffs diffs (mapsHaveSameStructure v1Map v2Map diffKey)
      | _ => mergeDiffs (appendDiffs diffs diffKey [⟨v1, v2⟩]) (mapsHaveSameStructure v1Map [] diffKey)
  | _ => diffs
termination_by (sizeOf v1, 0)
end

def findMapDiff (originalMap compactedMap : Map N) : Diffs N :=
  mapsHaveSameStructure (compactMap originalMap) (compactMap compactedMap) "$"

theorem findMapDiff_reports_dropped_key (m : Map N) (hm : m.keys.Nodup) {k : String}
    (hk : k ∈ m.keys) (hc : k ≠ "@context") : findMapDiff m (m.filter (·.1 ≠ k)) ≠ [] := by
  have ho : (compactMap (compactMap m)).keys = m.keys.filter (· ≠ "@context") := by
    simp [keys_compactMap, List.filter_filter]
  have hn : (m.keys.filter (· ≠ "@context")).Nodup := hm.filter _
  have hd : (compactMap (compactMap (m.filter (·.1 ≠ k)))).keys =
      (m.keys.filter (· ≠ "@context")).erase k := by
    rw [hn.erase_eq_filter, keys_compactMap, keys_compactMap, keys_filter_ne]
    simp only [List.filter_filter]
    congr 1; funext a
    by_cases h1 : a = k <;> by_cases h2 : a = "@context" <;> simp [h1, h2]
  have hko : k ∈ (compactMap (compactMap m)).keys := by simp [ho, hk, hc]
  have hkd : k ∉ (compactMap (compactMap (m.filter (·.1 ≠ k)))).keys := by
    rw [hd]; exact hn.not_mem_erase
  have hlen : (compactMap (compactMap m)).length ≠
      (compactMap (compactMap (m.filter (·.1 ≠ k)))).length := by
    have h1 := congrArg List.length ho
    have h2 := congrArg List.length hd
    rw [List.length_erase_of_mem (ho ▸ hko)] at h2
    have h3 := List.length_pos_of_mem hko
    simp only [Map.keys, List.length_map] at h1 h2 h3
    omega
  rw [findMapDiff, mapsHaveSameStructure, if_neg (fun h => hlen (Value.deepEqual_object_length h)),
    if_pos hlen]
  exact missingDiffs_ne_nil hko hkd "$"

def credentialSubjects (first : Map Unit) : Map Unit :=
  [("credentialSubject", .array [.object first,
    .object [("id", .string "did:example:2"), ("name", .string "John")]])]

def janeDoe : Map Unit := [("id", .string "did:example:1"), ("name", .string "Jane Doe")]

theorem findMapDiff_misses_drop_in_array :
    findMapDiff (credentialSubjects (janeDoe ++ [("favoriteFood", .string "Papaya")]))
      (credentialSubjects janeDoe) = [] := by
  rw [findMapDiff, mapsHaveSameStructure, if_neg, if_neg] <;>
    simp [credentialSubjects, janeDoe, compactMap, compactEntry, compactSlice, compactItem, compactSliceItem,
      sameStructureLoop, sameStructureEntry, Value.deepEqual, Value.sliceEqual, Value.mapEqual]

theorem findMapDiff_reports_dropped_name :
    (janeDoe.keys.Nodup ∧ "name" ∈ janeDoe.keys ∧ "name" ≠ "@context") ∧
      findMapDiff janeDoe (janeDoe.filter (·.1 ≠ "name")) ≠ [] :=
  ⟨⟨by decide, by decide, by decide⟩,
    findMapDiff_reports_dropped_key janeDoe (by decide) (by decide) (by decide)⟩

theorem sameStructureLoop_flat (compacted : Map N) (path : String) :
    ∀ {original : Map N}, (∀ p ∈ original, isContainer p.2 = false) → ∀ diffs : Diffs N,
      sameStructureLoop compacted path original diffs = diffs
  | [], _, _ => by rw [sameStructureLoop]
  | (k, v) :: rest, h, diffs => by
    have hv : isContainer v = false := h (k, v) (List.mem_cons_self _ _)
    have hentry : sameStructureEntry compacted (path ++ "." ++ k) k v diffs = diffs := by
      cases v <;> simp [isContainer, sameStructureEntry] at hv ⊢
    rw [sameStructureLoop, hentry, sameStructureLoop_flat compacted path fun p hp => h p (List.mem_cons_of_mem _ hp)]

theorem findMapDiff_flat_iff (m m' : Map N) (hm : m.keys.Nodup) (hm' : m'.keys.Nodup)
    (hflat : ∀ p ∈ m, isContainer p.2 = false) :
    findMapDiff m m' = [] ↔
      (m.keys.filter (· ≠ "@context")).length = (m'.keys.filter (· ≠ "@context")).length := by
  have hko := keys_compactMap_compactMap m
  have hkc := keys_compactMap_compactMap m'
  have hlen : (compactMap (compactMap m)).length = (m.keys.filter (· ≠ "@context")).length ∧
      (compactMap (compactMap m')).length = (m'.keys.filter (· ≠ "@context")).length := by
    rw [← hko, ← hkc]
    simp only [Map.keys, List.length_map, and_self]
  rw [← hlen.1, ← hlen.2, findMapDiff, mapsHaveSameStructure]
  constructor
  · intro h
    by_contra hne
    rw [if_neg (fun h => hne (Value.deepEqual_object_length h)), if_pos hne] at h
    exact missingDiffs_ne_nil_of_length (hko ▸ hm.filter _) (hkc ▸ hm'.filter _) hne "$" h
  · intro h
    split_ifs with hd hne
    · rfl
    · exact absurd h hne
    · exact sameStructureLoop_flat _ _ (compactMap_flat (compactMap_flat hflat)) []

def janeDoeRenamed : Map Unit := [("id", .string "did:example:1"), ("schema:name", .string "Jane Doe")]

theorem findMapDiff_misses_renamed_name :
    (janeDoe.keys.Nodup ∧ janeDoeRenamed.keys.Nodup ∧ ∀ p ∈ janeDoe, isContainer p.2 = false) ∧
      findMapDiff janeDoe janeDoeRenamed = [] :=
  ⟨⟨by decide, by decide, by decide⟩,
    (findMapDiff_flat_iff janeDoe janeDoeRenamed (by decide) (by decide) (by decide)).mpr rfl⟩

theorem Value.mapEqual_has : ∀ {a b : Map N}, Value.mapEqual a b = true → ∀ k ∈ a.keys, b.has k = true
  | [], _, _, _, hk => absurd hk (List.not_mem_nil _)
  | (k', v) :: rest, b, h, k, hk => by
    rw [Value.mapEqual, Bool.and_eq_true] at h
    rcases List.mem_cons.mp hk with rfl | hk
    · cases hb : b.lookup k with
      | none => rw [hb] at h; exact absurd h.1 Bool.false_ne_true
      | some w => simp [Map.has, Map.get, hb]
    · exact Value.mapEqual_has h.2 k hk

end Structure

-- the validator package's copy of the structure check, which reports a map-valued property
-- missing after compaction where update.go's skips it
namespace Validator
section Structure
variable [DecidableEq N]

mutual
def mapsHaveSameStructure (originalMap compactedMap : Map N) (path : String) : Diffs N :=
  let original := compactMap originalMap
  let compacted := compactMap compactedMap
  if Value.deepEqual (.object original) (.object compacted) then []
  else if original.length ≠ compacted.length then missingDiffs original compacted path
  else sameStructureLoop compacted path original []
termination_by (sizeOf originalMap, 2)
decreasing_by exact Prod.Lex.right' _ (sizeOf_compactMap_le _) (by decide)

def sameStructureLoop (compacted : Map N) (path : String) : Map N → Diffs N → Diffs N
  | [], diffs => diffs
  | (k, v1) :: rest, diffs =>
    sameStructureLoop compacted path rest (sameStructureEntry compacted (path ++ "." ++ k) k v1 diffs)
termination_by original => (sizeOf original, 1)

def sameStructureEntry (compacted : Map N) (diffKey k : String) (v1 : Value N) (diffs : Diffs N) :
    Diffs N :=
  match v1 with
  | .object v1Map =>
    match compacted.get k with
    | none => appendDiffs diffs diffKey [⟨v1, .string "!missing!"⟩]
    | some v2 =>
      match v2 with
      | .object v2Map => mergeDiffs diffs (mapsHaveSameStructure v1Map v2Map diffKey)
      | _ => mergeDiffs (appendDiffs diffs diffKey [⟨v1, v2⟩]) (mapsHaveSameStructure v1Map [] diffKey)
  | _ => diffs
termination_by (sizeOf v1, 0)
end

def findMapDiff (originalMap compactedMap : Map N) : Diffs N :=
  mapsHaveSameStructure (compactMap originalMap) (compactMap compactedMap) "$"

theorem sameStructureEntry_ne_nil (compacted : Map N) (diffKey k : String) (v1 : Value N) {diffs : Diffs N}
    (h : diffs ≠ []) : sameStructureEntry compacted diffKey k v1 diffs ≠ [] := by
  rw [sameStructureEntry.eq_def]
  split
  · split
    · exact appendDiffs_ne_nil _ _ _
    · split
      · exact mergeDiffs_ne_nil h _
      · exact mergeDiffs_ne_nil (appendDiffs_ne_nil _ _ _) _
  · exact h

theorem sameStructureLoop_ne_nil (compacted : Map N) (path : String) :
    ∀ {original : Map N} {diffs : Diffs N},
      (diffs ≠ [] ∨ ∃ k v, (k, .object v) ∈ original ∧ compacted.get k = none) →
        sameStructureLoop compacted path original diffs ≠ []
  | [], diffs, h => by
    rw [sameStructureLoop]
    simpa using h
  | (k, v1) :: rest, diffs, h => by
    rw [sameStructureLoop]
    apply sameStructureLoop_ne_nil compacted path
    rcases h with hd | ⟨k', v, hmem, hk⟩
    · exact .inl (sameStructureEntry_ne_nil _ _ _ _ hd)
    · rcases List.mem_cons.mp hmem with heq | hmem
      · cases heq
        rw [sameStructureEntry.eq_def]
        simp only [hk]
        exact .inl (appendDiffs_ne_nil _ _ _)
      · exact .inr ⟨k', v, hmem, hk⟩

theorem findMapDiff_reports_missing_map (m m' : Map N) {k : String} {v : Map N} (hc : k ≠ "@context")
    (hk : (k, .object v) ∈ m) (hv : 2 ≤ (v.keys.filter (· ≠ "@context")).length) (hk' : k ∉ m'.keys) :
    findMapDiff m m' ≠ [] := by
  have hlen₁ : 2 ≤ v.length := (hv.trans (List.length_filter_le _ _)).trans_eq (List.length_map _ _)
  have h₁ := mem_compactMap hk hc
  rw [compactKind_compactValue_object hlen₁] at h₁
  have h₂ := mem_compactMap h₁ hc
  rw [compactKind_compactValue_object (by rw [length_compactMap]; exact hv)] at h₂
  have hko : k ∈ (compactMap (compactMap m)).keys := List.mem_map_of_mem Prod.fst h₂
  have hkc : k ∉ (compactMap (compactMap m')).keys := by
    rw [keys_compactMap_compactMap]
    exact fun h => hk' (List.mem_of_mem_filter h)
  have hget : (compactMap (compactMap m')).get k = none :=
    Option.not_isSome_iff_eq_none.mp fun h => hkc ((Map.has_iff_mem_keys _ _).mp h)
  rw [findMapDiff, mapsHaveSameStructure]
  split_ifs with hd hlen
  · have hd' : (_ == _ && Value.mapEqual _ _) = true := hd
    rw [Bool.and_eq_true] at hd'
    exact absurd ((Map.has_iff_mem_keys _ _).mp (Value.mapEqual_has hd'.2 k hko)) hkc
  · exact missingDiffs_ne_nil hko hkc "$"
  · exact sameStructureLoop_ne_nil _ _ (.inr ⟨k, _, h₂, hget⟩)

end Structure
end Validator

def address : Map Unit := [("street", .string "Main St"), ("city", .string "Springfield")]

def addressDoc : Map Unit := [("id", .string "did:example:1"), ("address", .object address)]

def addressDocRenamed : Map Unit := [("id", .string "did:example:1"), ("schema:address", .object address)]

theorem findMapDiff_renamed_address :
    ("address" ≠ "@context" ∧ ("address", .object address) ∈ addressDoc ∧
        2 ≤ (address.keys.filter (· ≠ "@context")).length ∧ "address" ∉ addressDocRenamed.keys) ∧
      findMapDiff addressDoc addressDocRenamed = [] ∧ Validator.findMapDiff addressDoc addressDocRenamed ≠ [] :=
  have hk : ("address", .object address) ∈ addressDoc := List.mem_cons_of_mem _ (List.mem_singleton_self _)
  have hu : findMapDiff addressDoc addressDocRenamed = [] := by
    rw [findMapDiff, mapsHaveSameStructure, if_neg, if_neg] <;>
      simp [addressDoc, addressDocRenamed, address, compactMap, compactEntry, sameStructureLoop, sameStructureEntry,
        Value.deepEqual, Value.mapEqual, Map.get, List.lookup_cons, List.lookup_nil]
  ⟨⟨by decide, hk, by decide, by decide⟩, hu,
    Validator.findMapDiff_reports_missing_map addressDoc addressDocRenamed (by decide) hk (by decide) (by decide)⟩

section Helpers
variable (equalFold : String → String → Bool) (sprint : Value N → String)

-- reflect.TypeOf(x).String() on a value json.Unmarshal produces. TypeOf(nil) is the nil Type, and calling
-- String on it dereferences nil.
def typeString : Value N → Go String
  | .null => throw nilDereference
  | .bool _ => pure "bool"
  | .number _ => pure "float64"
  | .string _ => pure "string"
  | .strings _ => pure "[]string"
  | .array _ => pure "[]interface \x7b\x7d"
  | .object _ => pure "map[string]interface \x7b\x7d"

def docContexts (docMap : Map N) : List (Value N) :=
  match docMap.get "@context" with
  | some (.string t) => [.string t]
  | some (.array t) => t
  | _ => []

def checkContextURIs (contexts : List (Value N)) : Nat → List String → Go Unit
  | _, [] => pure ()
  | position, uri :: rest =>
    match contexts[position]? with
    | some (.string docURI) =>
      if equalFold docURI uri then checkContextURIs contexts (position + 1) rest
      else throw (.error ("invalid context URI on position " ++ toString position ++ ", " ++ uri ++ " expected"))
    | some x => do
      let t ← typeString x
      throw (.error ("unsupported URI type " ++ t))
    | none => throw (.panic ("runtime error: index out of range [" ++ toString position ++ "] with length " ++
        toString contexts.length))

def validateContextURIPosition (contextURIPositions : List String) (docMap : Map N) : Go Unit :=
  if contextURIPositions.isEmpty then pure ()
  else if (docContexts docMap).length < contextURIPositions.length then
    throw (.error "doc context URIs amount mismatch")
  else checkContextURIs equalFold (docContexts docMap) 0 contextURIPositions

def validateTypesInExpandedDoc (docExpanded : List (Value N)) : Go Unit :=
  match docExpanded with
  | [.object docExpandedMap] =>
    match Map.get docExpandedMap "@type" with
    | none => throw (.error "expanded document does not contain @type")
    | some (.array expandedTypes) => expandedTypes.forM fun t =>
      if (sprint t).startsWith "http://" || (sprint t).startsWith "https://" then pure ()
      else throw (.error ("expanded document contains unexpanded type " ++ sprint t ++
        ". All types should be declared in contexts"))
    | some _ => throw (.error "expanded @type must be an array")
  | [x] => do
    let t ← typeString x
    throw (.error ("document must be a map, got " ++ t))
  | _ => throw (.error ("expanded document must contain only one element, got " ++ toString docExpanded.length))

theorem typeString_ok_or_null (x : Value N) : (∃ t, typeString x = .ok t) ∨ x = .null := by
  cases x
  case null => exact .inr rfl
  all_goals exact .inl ⟨_, rfl⟩

theorem checkContextURIs_panic {contexts : List (Value N)} :
    ∀ {position : Nat} {uris : List String} {f : String}, position + uris.length ≤ contexts.length →
      checkContextURIs equalFold contexts position uris = .error (.panic f) →
      ∃ k < uris.length, contexts[position + k]? = some .null
  | _, [], _, _, h => by cases h
  | position, uri :: rest, f, hlen, h => by
    have hlt : position < contexts.length := by simp at hlen; omega
    have hnext : position + 1 + rest.length ≤ contexts.length := by simp at hlen; omega
    rw [checkContextURIs, List.getElem?_eq_getElem hlt] at h
    cases hc : contexts[position]
    case null => exact ⟨0, by simp, by rw [Nat.add_zero, List.getElem?_eq_getElem hlt, hc]⟩
    case string docURI =>
      rw [hc] at h
      dsimp only at h
      split_ifs at h
      · obtain ⟨k, hk, hnull⟩ := checkContextURIs_panic hnext h
        exact ⟨k + 1, by simp; omega, by rw [← hnull]; congr 1; omega⟩
      · simp at h
    all_goals rw [hc] at h; simp [typeString] at h

theorem validateHelpers_panic_on_null {uris : List String} (huris : uris ≠ []) {rest : List (Value N)}
    (hlen : uris.length ≤ rest.length + 1) :
    validateContextURIPosition equalFold uris [("@context", .array (.null :: rest))] = .error nilDereference ∧
      validateTypesInExpandedDoc sprint [.null] = .error nilDereference := by
  obtain ⟨uri, uris, rfl⟩ := List.exists_cons_of_ne_nil huris
  refine ⟨?_, rfl⟩
  rw [validateContextURIPosition, if_neg (by simp), if_neg (by simpa [docContexts, Map.get] using hlen)]
  simp [checkContextURIs, docContexts, Map.get, typeString]

theorem validateHelpers_panic_on_null_sample :
    validateContextURIPosition (· == ·) ["https://www.w3.org/2018/credentials/v1"]
        ([("@context", .array [.null])] : Map Unit) = .error nilDereference ∧
      validateTypesInExpandedDoc (fun _ => "") ([.null] : List (Value Unit)) = .error nilDereference :=
  validateHelpers_panic_on_null _ _ (by decide) (by decide)

theorem forM_ne_panic {α : Type} (body : α → Go Unit) (hbody : ∀ x f, body x ≠ .error (.panic f)) :
    ∀ (l : List α) (f : String), l.forM body ≠ .error (.panic f)
  | [], _, h => by cases h
  | x :: rest, f, h => by
    simp only [List.forM] at h
    cases hx : body x with
    | error e =>
      rw [hx] at h
      cases h
      exact hbody x f hx
    | ok u => rw [hx] at h; exact forM_ne_panic body hbody rest f h

theorem validateContextURIPosition_panic {uris : List String} {docMap : Map N} {f : String}
    (h : validateContextURIPosition equalFold uris docMap = .error (.panic f)) :
    ∃ k < uris.length, (docContexts docMap)[k]? = some .null := by
  unfold validateContextURIPosition at h
  split_ifs at h with h0 hlt
  · cases h
  · cases h
  · simpa using checkContextURIs_panic equalFold (by simpa using hlt) h

theorem validateContextURIPosition_panic_null :
    validateContextURIPosition (· == ·) ["a"] ([("@context", .array [.null])] : Map Unit) = .error nilDereference ∧
      ∃ k < ["a"].length, (docContexts ([("@context", .array [.null])] : Map Unit))[k]? = some .null :=
  have h : validateContextURIPosition (· == ·) ["a"] ([("@context", .array [.null])] : Map Unit) =
      .error nilDereference := rfl
  ⟨h, validateContextURIPosition_panic (· == ·) h⟩

theorem validateTypesInExpandedDoc_panic {docExpanded : List (Value N)} {f : String}
    (h : validateTypesInExpandedDoc sprint docExpanded = .error (.panic f)) : docExpanded = [.null] := by
  unfold validateTypesInExpandedDoc at h
  split at h
  · split at h
    · cases h
    · refine absurd h (forM_ne_panic _ (fun t f' => ?_) _ f)
      split <;> simp
    · cases h
  · rename_i x _
    rcases typeString_ok_or_null x with ⟨t, ht⟩ | rfl
    · rw [ht] at h
      cases h
    · rfl
  · cases h

theorem validateTypesInExpandedDoc_panic_null :
    validateTypesInExpandedDoc (fun _ => "") ([.null] : List (Value Unit)) = .error nilDereference ∧
      ([.null] : List (Value Unit)) = [.null] :=
  have h : validateTypesInExpandedDoc (fun _ => "") ([.null] : List (Value Unit)) = .error nilDereference := rfl
  ⟨h, validateTypesInExpandedDoc_panic (fun _ => "") h⟩

example : validateTypesInExpandedDoc (fun _ => "x") ([.string "a"] : List (Value Unit)) =
    .error (.error "document must be a map, got string") := rfl

end Helpers

end DidGo.Ld
