import DidGo.Json.Value
import DidGo.Encoding.Utf8
import Mathlib.Data.List.Lex

namespace DidGo.Json
open DidGo.Encoding

-- Modelled from the spec: canonicalizer.MarshalCanonical (doc/json/canonicalizer) is not in the source tree.
-- It marshals a value with encoding/json and rewrites the text as JCS: object members sorted by the UTF-16
-- code units of their names (a name given twice is refused), numbers in their shortest round-trip form,
-- strings with the minimal escapes, no whitespace. Only the JSON value the marshalling produces reaches the
-- output, so the model canonicalizes that value, in two steps: canonicalValue sorts the members and writes
-- each number as its literal text (format, which refuses NaN and the infinities as json.Marshal does), and
-- writeValue prints the tree.

-- A JSON text read as a tree: numbers keep their literal text, object members their order.
abbrev Raw := Value String

def shortEscape (c : Char) : Option Char :=
  if c = '"' then some '"' else if c = '\\' then some '\\'
  else if c.toNat = 8 then some 'b' else if c.toNat = 12 then some 'f'
  else if c = '\n' then some 'n' else if c = '\r' then some 'r'
  else if c = '\t' then some 't'
  else none

def escapeRune (c : Char) : List Char :=
  match shortEscape c with
  | some e => ['\\', e]
  | none =>
    if c.toNat < 32 then ['\\', 'u', '0', '0', hexDigit (c.toNat / 16), hexDigit (c.toNat % 16)]
    else [c]

def quoteString (s : String) : List Char :=
  '"' :: s.toList.flatMap escapeRune ++ ['"']

mutual
def writeValue : Raw → List Char
  | .null => "null".toList
  | .bool b => if b then "true".toList else "false".toList
  | .number lit => lit.toList
  | .string s => quoteString s
  | .strings xs => '[' :: writeStrings xs
  | .array xs => '[' :: writeElements xs
  | .object ms => '{' :: writeMembers ms

def writeStrings : List String → List Char
  | [] => [']']
  | s :: rest => quoteString s ++ writeStringsTail rest

def writeStringsTail : List String → List Char
  | [] => [']']
  | s :: rest => ',' :: quoteString s ++ writeStringsTail rest

def writeElements : List Raw → List Char
  | [] => [']']
  | x :: rest => writeValue x ++ writeElementsTail rest

def writeElementsTail : List Raw → List Char
  | [] => [']']
  | x :: rest => ',' :: writeValue x ++ writeElementsTail rest

def writeMembers : List (String × Raw) → List Char
  | [] => ['}']
  | (k, x) :: rest => quoteString k ++ ':' :: writeValue x ++ writeMembersTail rest

def writeMembersTail : List (String × Raw) → List Char
  | [] => ['}']
  | (k, x) :: rest => ',' :: quoteString k ++ ':' :: writeValue x ++ writeMembersTail rest
end

def insertMember {α : Type} (k : String) (x : α) :
    List (String × α) → Except String (List (String × α))
  | [] => .ok [(k, x)]
  | (k', y) :: rest =>
    if utf16 k < utf16 k' then .ok ((k, x) :: (k', y) :: rest)
    else if utf16 k = utf16 k' then .error ("Duplicate key: " ++ k)
    else ((k', y) :: ·) <$> insertMember k x rest

section
variable {N : Type} (format : N → Except String String)

mutual
def canonicalValue : Value N → Except String Raw
  | .null => .ok .null
  | .bool b => .ok (.bool b)
  | .number x => Value.number <$> format x
  | .string s => .ok (.string s)
  | .strings xs => .ok (.array (xs.map .string))
  | .array xs => Value.array <$> canonicalElements xs
  | .object ms => Value.object <$> canonicalMembers [] ms

def canonicalElements : List (Value N) → Except String (List Raw)
  | [] => .ok []
  | x :: rest => do
    let r ← canonicalValue x
    let rs ← canonicalElements rest
    pure (r :: rs)

def canonicalMembers (sorted : List (String × Raw)) :
    List (String × Value N) → Except String (List (String × Raw))
  | [] => .ok sorted
  | (k, v) :: rest => do
    let r ← canonicalValue v
    let sorted ← insertMember k r sorted
    canonicalMembers sorted rest
end

def marshalCanonical (v : Value N) : Except String (List UInt8) :=
  (fun r => utf8Encode ⟨writeValue r⟩) <$> canonicalValue format v

end

def KeysSorted {α : Type} (ms : List (String × α)) : Prop :=
  ms.Pairwise (fun a b => utf16 a.1 < utf16 b.1)

section Sorting
variable {α : Type}

theorem insertMember_of_lt {k : String} {x : α} {sorted : List (String × α)}
    (h : ∀ p ∈ sorted, utf16 p.1 < utf16 k) : insertMember k x sorted = .ok (sorted ++ [(k, x)]) := by
  induction sorted with
  | nil => rfl
  | cons p rest ih =>
    obtain ⟨k', y⟩ := p
    have hk := h (k', y) (List.mem_cons_self _ _)
    simp only [insertMember, if_neg (lt_asymm hk), if_neg (ne_of_gt hk),
      ih fun p hp => h p (List.mem_cons_of_mem _ hp)]
    rfl

theorem insertMember_mem {k : String} {x : α} :
    ∀ {sorted out : List (String × α)}, insertMember k x sorted = .ok out →
      ∀ p ∈ out, p = (k, x) ∨ p ∈ sorted
  | [], out, h, p, hp => by
    cases h
    exact .inl (List.mem_singleton.mp hp)
  | (k', y) :: rest, out, h, p, hp => by
    simp only [insertMember] at h
    split_ifs at h with h1 h2
    · cases h
      simpa using hp
    · obtain ⟨out', h', rfl⟩ := Except.map_eq_ok_iff.mp h
      simp only [List.mem_cons] at hp ⊢
      rcases hp with rfl | hp
      · exact .inr (.inl rfl)
      · rcases insertMember_mem h' p hp with h | h
        · exact .inl h
        · exact .inr (.inr h)

theorem insertMember_sorted {k : String} {x : α} :
    ∀ {sorted out : List (String × α)}, KeysSorted sorted → insertMember k x sorted = .ok out →
      KeysSorted out
  | [], out, _, h => by
    cases h
    exact List.pairwise_singleton _ _
  | (k', y) :: rest, out, hs, h => by
    simp only [insertMember] at h
    obtain ⟨hlt, hrest⟩ := List.pairwise_cons.mp hs
    split_ifs at h with h1 h2
    · cases h
      exact List.Pairwise.cons (fun p hp => by
        rcases List.mem_cons.mp hp with rfl | hp
        · exact h1
        · exact lt_trans h1 (hlt p hp)) hs
    · obtain ⟨out', h', rfl⟩ := Except.map_eq_ok_iff.mp h
      have hgt : utf16 k' < utf16 k := lt_of_le_of_ne (not_lt.mp h1) (Ne.symm h2)
      refine List.Pairwise.cons (fun p hp => ?_) (insertMember_sorted hrest h')
      rcases insertMember_mem h' p hp with rfl | hp
      · exact hgt
      · exact hlt p hp

end Sorting

end DidGo.Json
