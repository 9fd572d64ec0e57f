import DidGo.Json.Reencode

namespace DidGo.Json
open DidGo.Encoding

-- encoding/json on Go structs. Marshal writes the fields in their declared order and leaves out a field
-- tagged omitempty that holds its zero value; Unmarshal stores each member of an object into the field its
-- name selects, in the order of the text, and skips the members no field takes.

variable {N : Type}

def optionalMember (name : String) : Option (Value N) → List (String × Value N)
  | some v => [(name, v)]
  | none => []

def stringValue (s : String) : Option (Value N) :=
  if s = "" then none else some (.string s)

-- foldName on one rune. Besides the ASCII letters only four runes fold into ASCII; any other rune folds
-- outside it, so it never matches an ASCII field name and is kept as it is.
def foldRune (c : Char) : Char :=
  if 'a' ≤ c ∧ c ≤ 'z' then Char.ofNat (c.toNat - 32)
  else if c.toNat = 0x130 ∨ c.toNat = 0x131 then 'I'
  else if c.toNat = 0x17F then 'S'
  else if c.toNat = 0x212A then 'K'
  else c

def foldName (s : String) : List Char := s.toList.map foldRune

structure StructField (α : Type) where
  name : String
  store : ErrorContext → α → Raw → Except String α

def lookupField {α : Type} (fields : List (StructField α)) (key : String) : Option (StructField α) :=
  match fields.find? (·.name == key) with
  | some f => some f
  | none => fields.find? fun f => foldName f.name == foldName key

def decodeFields {α : Type} (structName : String) (fields : List (StructField α)) (ctx : ErrorContext) :
    α → List (String × Raw) → Except String α
  | s, [] => .ok s
  | s, (k, x) :: rest =>
    match lookupField fields k with
    | some f => do
      let s' ← f.store (ctx.enter structName f.name) s x
      decodeFields structName fields ctx s' rest
    | none => decodeFields structName fields ctx s rest

def decodeStruct {α : Type} (type structName : String) (fields : List (StructField α)) (ctx : ErrorContext)
    (s : α) : Raw → Except String α
  | .object ms => decodeFields structName fields ctx s ms
  | .null => .ok s
  | x => .error (unmarshalTypeError x.kind type ctx)

def decodePointer {α : Type} (zero : α) (decode : α → Raw → Except String α) (current : Option α) :
    Raw → Except String (Option α)
  | .null => .ok none
  | x => some <$> decode (current.getD zero) x

def decodeInterface (parseFloat : String → Except String N) (ctx : ErrorContext) :
    Raw → Except String (Option (Value N))
  | .null => .ok none
  | x => some <$> toInterface parseFloat ctx x

@[simp] theorem decodePointer_null {α : Type} (zero : α) (decode : α → Raw → Except String α)
    (current : Option α) : decodePointer zero decode current .null = .ok none :=
  rfl

theorem decodePointer_of_ne_null {α : Type} {zero : α} {decode : α → Raw → Except String α}
    {current : Option α} {r : Raw} (h : r ≠ .null) :
    decodePointer zero decode current r = some <$> decode (current.getD zero) r := by
  cases r
  case null => exact absurd rfl h
  all_goals rfl

theorem decodeInterface_of_ne_null {parseFloat : String → Except String N} {ctx : ErrorContext} {r : Raw}
    (h : r ≠ .null) : decodeInterface parseFloat ctx r = some <$> toInterface parseFloat ctx r := by
  cases r
  case null => exact absurd rfl h
  all_goals rfl

def decodeStringField (type : String) (ctx : ErrorContext) (current : String) :
    Raw → Except String String
  | .string s => .ok s
  | .null => .ok current
  | x => .error (unmarshalTypeError x.kind type ctx)

def stringField {α : Type} (type name : String) (get : α → String) (set : α → String → α) : StructField α :=
  ⟨name, fun ctx s x => set s <$> decodeStringField type ctx (get s) x⟩

def canonicalOption (format : N → Except String String) : Option (Value N) → Except String (Option Raw)
  | some v => some <$> canonicalValue format v
  | none => .ok none

@[simp] theorem Except.ok_bind {ε α β : Type} (a : α) (f : α → Except ε β) : (Except.ok a >>= f) = f a :=
  rfl

@[simp] theorem Except.bind_ok_right {ε α : Type} (x : Except ε α) : (x >>= Except.ok) = x := by
  cases x <;> rfl

@[simp] theorem Except.map_ok {ε α β : Type} (f : α → β) (a : α) :
    (f <$> Except.ok a : Except ε β) = .ok (f a) :=
  rfl

section Members
variable (format : N → Except String String)

theorem mem_optionalMember {k : String} {v : Option (Value N)} {p : String × Value N}
    (h : p ∈ optionalMember k v) : p.1 = k := by
  cases v with
  | some v => rw [List.mem_singleton.mp h]
  | none => exact absurd h (List.not_mem_nil p)

theorem mem_optionalMember_value {P : Value N → Prop} {k : String} {v : Option (Value N)} {p : String × Value N}
    (h : p ∈ optionalMember k v) (hv : ∀ r ∈ v, P r) : P p.2 := by
  cases v with
  | some r => rw [List.mem_singleton.mp h]; exact hv r rfl
  | none => exact absurd h (List.not_mem_nil p)

theorem optionalMember_keys_lt {k k' : String} (h : utf16 k < utf16 k') (v : Option (Value N)) :
    ∀ p ∈ optionalMember k v, utf16 p.1 < utf16 k' := fun _ hp => by rw [mem_optionalMember hp]; exact h

theorem lt_optionalMember_keys {k k' : String} (h : utf16 k' < utf16 k) (v : Option (Value N)) :
    ∀ p ∈ optionalMember k v, utf16 k' < utf16 p.1 := fun _ hp => by rw [mem_optionalMember hp]; exact h

theorem optionalMember_append_inj {k : String} {a a' : Option (Value N)} {rest rest' : List (String × Value N)}
    (hr : ∀ p ∈ rest, p.1 ≠ k) (hr' : ∀ p ∈ rest', p.1 ≠ k)
    (h : optionalMember k a ++ rest = optionalMember k a' ++ rest') : a = a' ∧ rest = rest' := by
  cases a <;> cases a' <;> simp only [optionalMember, List.nil_append, List.singleton_append] at h
  · exact ⟨rfl, h⟩
  · exact absurd rfl (hr _ (h ▸ List.mem_cons_self _ _))
  · exact absurd rfl (hr' _ (h ▸ List.mem_cons_self _ _))
  · obtain ⟨h1, h2⟩ := List.cons.inj h
    exact ⟨congrArg some (Prod.mk.inj h1).2, h2⟩

theorem canonicalOption_stringValue (s : String) :
    canonicalOption format (stringValue s : Option (Value N)) = .ok (stringValue s) := by
  unfold stringValue
  split_ifs <;> rfl

theorem canonicalMembers_optional_front {k : String} {acc : List (String × Raw)}
    (h : ∀ p ∈ acc, utf16 k < utf16 p.1) (v : Option (Value N)) :
    canonicalMembers format acc (optionalMember k v) =
      (fun r => optionalMember k r ++ acc) <$> canonicalOption format v := by
  cases v with
  | none => rfl
  | some v =>
    simp only [optionalMember, canonicalMembers, canonicalOption]
    cases canonicalValue format v with
    | error e => rfl
    | ok r => simp only [bind, Except.bind, insertMember_front h]; rfl

theorem canonicalMembers_optional_back {k : String} {acc : List (String × Raw)}
    (h : ∀ p ∈ acc, utf16 p.1 < utf16 k) (v : Option (Value N)) :
    canonicalMembers format acc (optionalMember k v) =
      (fun r => acc ++ optionalMember k r) <$> canonicalOption format v := by
  cases v with
  | none => exact congrArg Except.ok (List.append_nil acc).symm
  | some v =>
    simp only [optionalMember, canonicalMembers, canonicalOption]
    cases canonicalValue format v with
    | error e => rfl
    | ok r => simp only [bind, Except.bind, insertMember_of_lt h]; rfl

end Members

section Objects

theorem plain_of_members : ∀ {ms : List (String × Raw)}, (∀ p ∈ ms, p.2.Plain ∧ p.2.depth ≤ 1) →
    Value.PlainMembers ms ∧ Value.depthMembers ms ≤ 1
  | [], _ => ⟨trivial, Nat.zero_le 1⟩
  | (name, x) :: rest, h => by
    obtain ⟨hx, hd⟩ : x.Plain ∧ x.depth ≤ 1 := h (name, x) (List.mem_cons_self _ _)
    obtain ⟨h1, h2⟩ := plain_of_members fun p hp => h p (List.mem_cons_of_mem _ hp)
    exact ⟨⟨hx, h1⟩, by simp only [Value.depthMembers]; omega⟩

theorem parseTextWithin_object {limit : Nat} (hl : 2 ≤ limit) {ms : List (String × Raw)}
    (h : ∀ p ∈ ms, p.2.Plain ∧ p.2.depth ≤ 1) :
    parseTextWithin limit (utf8 (writeValue (.object ms))) = .ok (.object ms) := by
  obtain ⟨h1, h2⟩ := plain_of_members h
  exact parseTextWithin_writeValue h1 (by rw [Value.depth]; omega)

theorem parseText_object {ms : List (String × Raw)} (h : ∀ p ∈ ms, p.2.Plain ∧ p.2.depth ≤ 1) :
    parseText (utf8 (writeValue (.object ms))) = .ok (.object ms) :=
  parseTextWithin_object (by decide) h

theorem parseTextUnbounded_object {ms : List (String × Raw)} (h : ∀ p ∈ ms, p.2.Plain ∧ p.2.depth ≤ 1) :
    parseTextUnbounded (utf8 (writeValue (.object ms))) = .ok (.object ms) := by
  obtain ⟨b, bs, hb, -⟩ := writeValue_bytes (r := .object ms) (plain_of_members h).1 []
  rw [List.append_nil] at hb
  exact parseTextWithin_object (by rw [hb, List.length_cons]; omega) h

theorem plain_string (s : String) : (Value.string s : Raw).Plain ∧ (Value.string s : Raw).depth ≤ 1 :=
  ⟨trivial, Nat.zero_le 1⟩

end Objects

section Fields
variable {α : Type} (structName : String) (fields : List (StructField α)) (ctx : ErrorContext)

theorem decodeFields_append (s : α) (ms ms' : List (String × Raw)) :
    decodeFields structName fields ctx s (ms ++ ms') =
      decodeFields structName fields ctx s ms >>= fun s' => decodeFields structName fields ctx s' ms' := by
  induction ms generalizing s with
  | nil => rfl
  | cons p ms ih =>
    obtain ⟨k, x⟩ := p
    rw [List.cons_append, decodeFields, decodeFields]
    cases lookupField fields k with
    | some f => simp only [ih, bind_assoc]
    | none => exact ih s

theorem decodeFields_optional {k : String} {f : StructField α} (hf : lookupField fields k = some f) (s : α)
    (r : Option Raw) :
    decodeFields structName fields ctx s (optionalMember k r) =
      match r with
      | some x => f.store (ctx.enter structName f.name) s x
      | none => .ok s := by
  cases r with
  | none => rfl
  | some x =>
    simp only [optionalMember, decodeFields, hf, bind, Except.bind]
    cases f.store (ctx.enter structName f.name) s x <;> rfl

theorem decodeFields_stringValue {type name : String} {get : α → String} {set : α → String → α}
    (hf : lookupField fields name = some (stringField type name get set)) {s : α} (hset : set s "" = s)
    (v : String) :
    decodeFields structName fields ctx s (optionalMember name (stringValue v)) = .ok (set s v) := by
  rw [decodeFields_optional structName fields ctx hf]
  unfold stringValue
  split_ifs with hv
  · rw [hv, hset]
  · rfl

end Fields

end DidGo.Json
