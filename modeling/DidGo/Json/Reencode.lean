import DidGo.Json.Roundtrip

namespace DidGo.Json
open DidGo.Encoding

-- strconv on float64, which the source tree does not hold: format writes a number as the canonicalizer does
-- (the shortest text that reads back, NaN and the infinities refused) and parseFloat is strconv.ParseFloat(s,
-- 64). The laws are those of a shortest round-trip format.
structure NumberCodec (N : Type) where
  format : N → Except String String
  parseFloat : String → Except String N
  format_literal : ∀ x t, format x = .ok t → IsNumberLiteral t
  parseFloat_format : ∀ x t, format x = .ok t → ∃ y, parseFloat t = .ok y ∧ format y = .ok t

def NumberCodec.zero : NumberCodec Unit where
  format _ := .ok "0"
  parseFloat _ := .ok ()
  format_literal _ _ h := by
    cases h
    exact ⟨false, ['0'], [], [], rfl, .inl rfl, .inl rfl, .inl rfl⟩
  parseFloat_format _ _ h := by
    cases h
    exact ⟨(), rfl, rfl⟩

section Canonical
variable {N : Type} (format : N → Except String String)

mutual
def Value.Canonical : Raw → Prop
  | .null => True
  | .bool _ => True
  | .number lit => ∃ x, format x = .ok lit
  | .string _ => True
  | .strings _ => False
  | .array xs => Value.CanonicalElements xs
  | .object ms => KeysSorted ms ∧ Value.CanonicalMembers ms

def Value.CanonicalElements : List Raw → Prop
  | [] => True
  | x :: rest => Value.Canonical x ∧ Value.CanonicalElements rest

def Value.CanonicalMembers : List (String × Raw) → Prop
  | [] => True
  | (_, x) :: rest => Value.Canonical x ∧ Value.CanonicalMembers rest
end

theorem Value.canonicalMembers_iff {ms : List (String × Raw)} :
    Value.CanonicalMembers format ms ↔ ∀ p ∈ ms, p.2.Canonical format := by
  induction ms with
  | nil => simp [Value.CanonicalMembers]
  | cons p ms ih =>
    obtain ⟨k, x⟩ := p
    simp [Value.CanonicalMembers, ih]

theorem strings_canonical (xs : List String) : Value.CanonicalElements format (xs.map .string) := by
  induction xs with
  | nil => trivial
  | cons s xs ih => exact ⟨trivial, ih⟩

mutual
theorem canonicalValue_canonical : ∀ {v : Value N} {r : Raw},
    canonicalValue format v = .ok r → r.Canonical format
  | .null, _, h => by cases h; trivial
  | .bool _, _, h => by cases h; trivial
  | .number x, _, h => by
    obtain ⟨lit, hx, rfl⟩ := Except.map_eq_ok_iff.mp h
    exact ⟨x, hx⟩
  | .string _, _, h => by cases h; trivial
  | .strings xs, _, h => by cases h; exact strings_canonical format xs
  | .array xs, _, h => by
    obtain ⟨rs, hrs, rfl⟩ := Except.map_eq_ok_iff.mp h
    exact canonicalElements_canonical hrs
  | .object ms, _, h => by
    obtain ⟨out, hout, rfl⟩ := Except.map_eq_ok_iff.mp h
    exact canonicalMembers_canonical hout List.Pairwise.nil trivial

theorem canonicalElements_canonical : ∀ {xs : List (Value N)} {rs : List Raw},
    canonicalElements format xs = .ok rs → Value.CanonicalElements format rs
  | [], _, h => by cases h; trivial
  | x :: xs, _, h => by
    obtain ⟨r, hr, h⟩ := Except.bind_eq_ok_iff.mp h
    obtain ⟨rs, hrs, h⟩ := Except.bind_eq_ok_iff.mp h
    cases h
    exact ⟨canonicalValue_canonical hr, canonicalElements_canonical hrs⟩

theorem canonicalMembers_canonical : ∀ {ms : List (String × Value N)} {sorted out : List (String × Raw)},
    canonicalMembers format sorted ms = .ok out → KeysSorted sorted →
      Value.CanonicalMembers format sorted → KeysSorted out ∧ Value.CanonicalMembers format out
  | [], _, _, h, hs, hc => by cases h; exact ⟨hs, hc⟩
  | (k, v) :: ms, sorted, _, h, hs, hc => by
    obtain ⟨r, hr, h⟩ := Except.bind_eq_ok_iff.mp h
    obtain ⟨sorted', hins, h⟩ := Except.bind_eq_ok_iff.mp h
    refine canonicalMembers_canonical h (insertMember_sorted hs hins) ?_
    rw [Value.canonicalMembers_iff] at hc ⊢
    intro p hp
    rcases insertMember_mem hins p hp with rfl | hp
    · exact canonicalValue_canonical hr
    · exact hc p hp
end

theorem canonicalValue_eq_null {v : Value N} (h : canonicalValue format v = .ok .null) : v = .null := by
  cases v with
  | null => rfl
  | number x => obtain ⟨_, _, h⟩ := Except.map_eq_ok_iff.mp h; cases h
  | array xs => obtain ⟨_, _, h⟩ := Except.map_eq_ok_iff.mp h; cases h
  | object ms => obtain ⟨_, _, h⟩ := Except.map_eq_ok_iff.mp h; cases h
  | _ => cases h

theorem insertMember_front {α : Type} {k : String} {x : α} {sorted : List (String × α)}
    (h : ∀ p ∈ sorted, utf16 k < utf16 p.1) : insertMember k x sorted = .ok ((k, x) :: sorted) := by
  cases sorted with
  | nil => rfl
  | cons p rest =>
    obtain ⟨k', y⟩ := p
    rw [insertMember, if_pos (h (k', y) (List.mem_cons_self _ _))]

theorem canonicalMembers_append (sorted : List (String × Raw)) (ms ms' : List (String × Value N)) :
    canonicalMembers format sorted (ms ++ ms') =
      canonicalMembers format sorted ms >>= fun sorted' => canonicalMembers format sorted' ms' := by
  induction ms generalizing sorted with
  | nil => rfl
  | cons p ms ih =>
    obtain ⟨k, v⟩ := p
    rw [List.cons_append, canonicalMembers, canonicalMembers]
    simp only [ih, bind_assoc]

section Depth

theorem depthElements_strings (xs : List String) : Value.depthElements (xs.map (.string : String → Raw)) = 0 := by
  induction xs with
  | nil => rfl
  | cons s xs ih => simp only [List.map_cons, Value.depthElements, ih, Value.depth, Nat.max_self]

theorem insertMember_depth {k : String} {x : Raw} :
    ∀ {sorted out : List (String × Raw)}, insertMember k x sorted = .ok out →
      Value.depthMembers out = max x.depth (Value.depthMembers sorted)
  | [], _, h => by cases h; rfl
  | (k', y) :: rest, _, h => by
    simp only [insertMember] at h
    split_ifs at h with h1 h2
    · cases h; rfl
    · obtain ⟨out', h', rfl⟩ := Except.map_eq_ok_iff.mp h
      simp only [Value.depthMembers, insertMember_depth h']
      omega

mutual
theorem canonicalValue_depth : ∀ {v : Value N} {r : Raw}, canonicalValue format v = .ok r → r.depth = v.depth
  | .null, _, h => by cases h; rfl
  | .bool _, _, h => by cases h; rfl
  | .number x, _, h => by obtain ⟨lit, -, rfl⟩ := Except.map_eq_ok_iff.mp h; rfl
  | .string _, _, h => by cases h; rfl
  | .strings xs, _, h => by cases h; simp only [Value.depth, depthElements_strings]
  | .array xs, _, h => by
    obtain ⟨rs, hrs, rfl⟩ := Except.map_eq_ok_iff.mp h
    simp only [Value.depth, canonicalElements_depth hrs]
  | .object ms, _, h => by
    obtain ⟨out, hout, rfl⟩ := Except.map_eq_ok_iff.mp h
    simp only [Value.depth, canonicalMembers_depth hout, Value.depthMembers, Nat.zero_max]

theorem canonicalElements_depth : ∀ {xs : List (Value N)} {rs : List Raw},
    canonicalElements format xs = .ok rs → Value.depthElements rs = Value.depthElements xs
  | [], _, h => by cases h; rfl
  | x :: xs, _, h => by
    obtain ⟨r, hr, h⟩ := Except.bind_eq_ok_iff.mp h
    obtain ⟨rs, hrs, h⟩ := Except.bind_eq_ok_iff.mp h
    cases h
    simp only [Value.depthElements, canonicalValue_depth hr, canonicalElements_depth hrs]

theorem canonicalMembers_depth : ∀ {ms : List (String × Value N)} {sorted out : List (String × Raw)},
    canonicalMembers format sorted ms = .ok out →
      Value.depthMembers out = max (Value.depthMembers sorted) (Value.depthMembers ms)
  | [], _, _, h => by cases h; simp [Value.depthMembers]
  | (k, v) :: ms, sorted, _, h => by
    obtain ⟨r, hr, h⟩ := Except.bind_eq_ok_iff.mp h
    obtain ⟨sorted', hins, h⟩ := Except.bind_eq_ok_iff.mp h
    simp only [canonicalMembers_depth h, insertMember_depth hins, canonicalValue_depth hr, Value.depthMembers]
    omega
end

end Depth

end Canonical

section Interface
variable {N : Type} (codec : NumberCodec N) (ctx : ErrorContext)

mutual
theorem Value.Canonical.plain : ∀ {r : Raw}, r.Canonical codec.format → r.Plain
  | .null, _ => trivial
  | .bool _, _ => trivial
  | .number lit, ⟨x, hx⟩ => codec.format_literal x lit hx
  | .string _, _ => trivial
  | .strings _, h => h
  | .array _, h => Value.CanonicalElements.plain h
  | .object _, h => Value.CanonicalMembers.plain h.2

theorem Value.CanonicalElements.plain : ∀ {xs : List Raw},
    Value.CanonicalElements codec.format xs → Value.PlainElements xs
  | [], _ => trivial
  | _ :: _, h => ⟨Value.Canonical.plain h.1, Value.CanonicalElements.plain h.2⟩

theorem Value.CanonicalMembers.plain : ∀ {ms : List (String × Raw)},
    Value.CanonicalMembers codec.format ms → Value.PlainMembers ms
  | [], _ => trivial
  | (_, _) :: _, h => ⟨Value.Canonical.plain h.1, Value.CanonicalMembers.plain h.2⟩
end

theorem Map.set_of_not_mem {m : Map N} {k : String} (h : ∀ p ∈ m, p.1 ≠ k) (v : Value N) :
    Map.set m k v = m ++ [(k, v)] := by
  have hk : m.lookup k = none := List.lookup_eq_none_iff.mpr fun p hp => bne_iff_ne.mpr (h p hp).symm
  rw [Map.set, Map.has, Map.get, hk]
  rfl

mutual
theorem toInterface_canonical : ∀ {r : Raw}, r.Canonical codec.format →
    ∃ w, toInterface codec.parseFloat ctx r = .ok w ∧ canonicalValue codec.format w = .ok r
  | .null, _ => ⟨.null, rfl, rfl⟩
  | .bool b, _ => ⟨.bool b, rfl, rfl⟩
  | .number lit, ⟨x, hx⟩ => by
    obtain ⟨y, hy, hfy⟩ := codec.parseFloat_format x lit hx
    exact ⟨.number y, by rw [toInterface, hy], by rw [canonicalValue, hfy]; rfl⟩
  | .string s, _ => ⟨.string s, rfl, rfl⟩
  | .strings _, h => absurd h id
  | .array xs, h => by
    obtain ⟨ws, hws, hc⟩ := toInterfaceElements_canonical h
    exact ⟨.array ws, by rw [toInterface, hws]; rfl, by rw [canonicalValue, hc]; rfl⟩
  | .object ms, h => by
    obtain ⟨ws, hws, hc⟩ := toInterfaceMembers_canonical h.1 h.2 [] [] rfl (fun _ hp => absurd hp (List.not_mem_nil _))
    exact ⟨.object ws, by rw [toInterface, hws]; rfl, by rw [canonicalValue, hc]; rfl⟩

theorem toInterfaceElements_canonical : ∀ {xs : List Raw}, Value.CanonicalElements codec.format xs →
    ∃ ws, toInterfaceElements codec.parseFloat ctx xs = .ok ws ∧ canonicalElements codec.format ws = .ok xs
  | [], _ => ⟨[], rfl, rfl⟩
  | x :: xs, h => by
    obtain ⟨w, hw, hcw⟩ := toInterface_canonical h.1
    obtain ⟨ws, hws, hcws⟩ := toInterfaceElements_canonical h.2
    refine ⟨w :: ws, ?_, ?_⟩
    · rw [toInterfaceElements, hw]
      simp only [bind, Except.bind, hws]
      rfl
    · rw [canonicalElements, hcw]
      simp only [bind, Except.bind, hcws]
      rfl

theorem toInterfaceMembers_canonical : ∀ {ms : List (String × Raw)}, KeysSorted ms →
    Value.CanonicalMembers codec.format ms → ∀ (acc : Map N) (accR : List (String × Raw)),
    acc.map Prod.fst = accR.map Prod.fst → (∀ p ∈ accR, ∀ q ∈ ms, utf16 p.1 < utf16 q.1) →
    ∃ ws, toInterfaceMembers codec.parseFloat ctx acc ms = .ok (acc ++ ws) ∧
      canonicalMembers codec.format accR ws = .ok (accR ++ ms)
  | [], _, _, acc, accR, _, _ => ⟨[], by rw [List.append_nil]; rfl, by rw [List.append_nil]; rfl⟩
  | (k, x) :: ms, hs, hc, acc, accR, hkeys, hlt => by
    obtain ⟨hk, hs'⟩ := List.pairwise_cons.mp hs
    obtain ⟨w, hw, hcw⟩ := toInterface_canonical hc.1
    have hfresh : ∀ p ∈ acc, p.1 ≠ k := by
      intro p hp hpk
      obtain ⟨q, hq, hqp⟩ := List.mem_map.mp (hkeys ▸ List.mem_map_of_mem Prod.fst hp)
      have hqk := hlt q hq (k, x) (List.mem_cons_self _ _)
      rw [hqp, hpk] at hqk
      exact lt_irrefl _ hqk
    obtain ⟨ws, hws, hcws⟩ := toInterfaceMembers_canonical hs' hc.2 (acc ++ [(k, w)]) (accR ++ [(k, x)])
      (by simp only [List.map_append, hkeys, List.map_cons, List.map_nil])
      (by
        intro p hp q hq
        rcases List.mem_append.mp hp with hp | hp
        · exact hlt p hp q (List.mem_cons_of_mem _ hq)
        · rw [List.mem_singleton.mp hp]
          exact hk q hq)
    refine ⟨(k, w) :: ws, ?_, ?_⟩
    · rw [toInterfaceMembers, hw]
      simp only [bind, Except.bind]
      rw [Map.set_of_not_mem hfresh, hws, List.append_assoc, List.singleton_append]
    · rw [canonicalMembers, hcw]
      simp only [bind, Except.bind]
      rw [insertMember_of_lt (k := k) fun p hp => hlt p hp (k, x) (List.mem_cons_self _ _)]
      exact hcws.trans (by rw [List.append_assoc, List.singleton_append])
end

end Interface

theorem marshalCanonical_unmarshal {N : Type} (codec : NumberCodec N) {v : Value N} {B : List UInt8}
    (hB : marshalCanonical codec.format v = .ok B) (hd : v.depth ≤ maxNestingDepth) :
    ∃ w, (parseText B >>= toInterface codec.parseFloat {}) = .ok w ∧ marshalCanonical codec.format w = .ok B := by
  obtain ⟨T, hT, rfl⟩ := Except.map_eq_ok_iff.mp hB
  have hc := canonicalValue_canonical codec.format hT
  have hparse : parseText (utf8Encode ⟨writeValue T⟩) = .ok T :=
    parseText_writeValue (Value.Canonical.plain codec hc) (by rw [canonicalValue_depth codec.format hT]; exact hd)
  obtain ⟨w, hw, hcw⟩ := toInterface_canonical codec {} hc
  refine ⟨w, ?_, by rw [marshalCanonical, hcw]; rfl⟩
  rw [hparse]
  exact hw

theorem marshalCanonical_unmarshal_unsorted :
    (marshalCanonical NumberCodec.zero.format (.object [("b", .null), ("a", .string "x")] : Value Unit) =
        .ok (utf8Encode "\x7b\"a\":\"x\",\"b\":null\x7d") ∧
      (Value.object [("b", .null), ("a", .string "x")] : Value Unit).depth ≤ maxNestingDepth) ∧
    ∃ w, (parseText (utf8Encode "\x7b\"a\":\"x\",\"b\":null\x7d") >>= toInterface NumberCodec.zero.parseFloat {}) = .ok w ∧
      marshalCanonical NumberCodec.zero.format w = .ok (utf8Encode "\x7b\"a\":\"x\",\"b\":null\x7d") :=
  have hB : marshalCanonical NumberCodec.zero.format (.object [("b", .null), ("a", .string "x")] : Value Unit) =
      .ok (utf8Encode "\x7b\"a\":\"x\",\"b\":null\x7d") := by decide
  have hd : (Value.object [("b", .null), ("a", .string "x")] : Value Unit).depth ≤ maxNestingDepth := by decide
  ⟨⟨hB, hd⟩, marshalCanonical_unmarshal NumberCodec.zero hB hd⟩

end DidGo.Json
