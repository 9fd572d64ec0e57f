import DidGo.Json.Roundtrip

namespace DidGo.Json
open DidGo.Encoding

def byteChar (b : UInt8) : Char := Char.ofNat b.toNat

theorem toNat_byteChar (b : UInt8) : (byteChar b).toNat = b.toNat := by
  have hb : b.toNat < 256 := b.toNat_lt_size
  have hv : b.toNat.isValidChar := Or.inl (by omega)
  rw [byteChar, Char.ofNat, dif_pos hv]
  rfl

theorem byteChar_of_isByte {b : UInt8} {c : Char} (h : isByte b c) : byteChar b = c :=
  Char.ext (UInt32.toNat.inj (by rw [← Char.toNat, toNat_byteChar]; exact of_decide_eq_true h))

theorem isDigitChar_byteChar (b : UInt8) : isDigitChar (byteChar b) = isDigit b := by
  have h0 : '0' ≤ byteChar b ↔ 48 ≤ b.toNat := by
    show '0'.toNat ≤ (byteChar b).toNat ↔ _
    rw [toNat_byteChar]; rfl
  have h9 : byteChar b ≤ '9' ↔ b.toNat ≤ 57 := by
    show (byteChar b).toNat ≤ '9'.toNat ↔ _
    rw [toNat_byteChar]; rfl
  simp only [isDigitChar, isDigit, decide_eq_decide.mpr h0, decide_eq_decide.mpr h9]

theorem asciiString_toList (lit : List UInt8) : (asciiString lit).toList = lit.map byteChar :=
  rfl

theorem spanDigits_digits_fst : ∀ (bs : List UInt8), ∀ b ∈ (spanDigits bs).1, isDigit b
  | [], _, h => absurd h (List.not_mem_nil _)
  | b :: rest, x, h => by
    rw [spanDigits] at h
    split_ifs at h with hb
    · rcases List.mem_cons.mp h with rfl | h
      · exact hb
      · exact spanDigits_digits_fst rest x h
    · exact absurd h (List.not_mem_nil _)

theorem digits_byteChar {ds : List UInt8} (h : ∀ b ∈ ds, isDigit b) : ∀ x ∈ ds.map byteChar, isDigitChar x := by
  intro x hx
  obtain ⟨y, hy, rfl⟩ := List.mem_map.mp hx
  rw [isDigitChar_byteChar]
  exact h y hy

theorem spanDigits_byteChar (rest : List UInt8) : ∀ x ∈ (spanDigits rest).1.map byteChar, isDigitChar x :=
  digits_byteChar (spanDigits_digits_fst rest)

def DigitRun (cs : List Char) : Prop := cs ≠ [] ∧ ∀ x ∈ cs, isDigitChar x

theorem scanDigits_ok {context : String} {bs ds r : List UInt8} (h : scanDigits context bs = .ok (ds, r)) :
    DigitRun (ds.map byteChar) := by
  cases bs with
  | nil => cases h
  | cons b rest =>
    rw [scanDigits] at h
    split_ifs at h with hb
    · cases h
      refine ⟨List.cons_ne_nil _ _, fun x hx => ?_⟩
      rcases List.mem_cons.mp hx with rfl | hx
      · rw [isDigitChar_byteChar]; exact hb
      · exact spanDigits_byteChar rest x hx

theorem exponentChar {b : UInt8} (h : (isByte b 'e' || isByte b 'E') = true) :
    byteChar b = 'e' ∨ byteChar b = 'E' := by
  rcases Bool.or_eq_true_iff.mp h with h | h
  · exact .inl (byteChar_of_isByte h)
  · exact .inr (byteChar_of_isByte h)

theorem scanExponent_ok {bs e r : List UInt8} (h : scanExponent bs = .ok (e, r)) : ExpPart (e.map byteChar) := by
  cases bs with
  | nil => cases h; exact .inl rfl
  | cons b rest =>
    simp only [scanExponent] at h
    split_ifs at h with he
    · cases rest with
      | nil => cases h
      | cons s r0 =>
        simp only at h
        split_ifs at h with hs
        · obtain ⟨⟨ds, r'⟩, hd, he'⟩ := Except.map_eq_ok_iff.mp h
          cases he'
          have hsign : byteChar s = '+' ∨ byteChar s = '-' :=
            (Bool.or_eq_true_iff.mp hs).imp byteChar_of_isByte byteChar_of_isByte
          exact .inr ⟨_, [byteChar s], _, rfl, exponentChar he, .inr (hsign.imp (congrArg ([·])) (congrArg ([·]))),
            scanDigits_ok hd⟩
        · obtain ⟨⟨ds, r'⟩, hd, he'⟩ := Except.map_eq_ok_iff.mp h
          cases he'
          exact .inr ⟨_, [], _, rfl, exponentChar he, .inl rfl, scanDigits_ok hd⟩
    · cases h; exact .inl rfl

theorem scanFraction_ok {bs f r : List UInt8} (h : scanFraction bs = .ok (f, r)) :
    ∃ frac exp, f.map byteChar = frac ++ exp ∧ FracPart frac ∧ ExpPart exp := by
  cases bs with
  | nil => cases h; exact ⟨[], [], rfl, .inl rfl, .inl rfl⟩
  | cons b rest =>
    rw [scanFraction] at h
    split_ifs at h with hb
    · obtain ⟨⟨ds, r0⟩, hd, h⟩ := Except.bind_eq_ok_iff.mp h
      obtain ⟨⟨e, r'⟩, he, h⟩ := Except.bind_eq_ok_iff.mp h
      cases h
      obtain ⟨hne, hdig⟩ := scanDigits_ok hd
      refine ⟨'.' :: ds.map byteChar, e.map byteChar, ?_, .inr ⟨_, rfl, hne, hdig⟩, scanExponent_ok he⟩
      rw [List.cons_append, List.map_cons, List.map_append, byteChar_of_isByte hb, List.cons_append]
    · exact ⟨[], _, rfl, .inl rfl, scanExponent_ok h⟩

theorem sign_byteChar (negative : Bool) :
    (if negative then [byte 45] else []).map byteChar = if negative then ['-'] else [] := by
  cases negative <;> rfl

theorem digit_ne_zero {b : UInt8} (hd : isDigit b) (h0 : ¬isByte b '0') : '1' ≤ byteChar b ∧ byteChar b ≤ '9' := by
  have hne : b.toNat ≠ 48 := fun h => h0 (decide_eq_true h)
  simp only [isDigit, Bool.and_eq_true, decide_eq_true_eq] at hd
  exact ⟨show '1'.toNat ≤ (byteChar b).toNat by rw [toNat_byteChar]; show 49 ≤ _; omega,
    show (byteChar b).toNat ≤ '9'.toNat by rw [toNat_byteChar]; exact hd.2⟩

theorem scanNumber_ok {negative : Bool} {bs lit r : List UInt8} (h : scanNumber negative bs = .ok (lit, r)) :
    IsNumberLiteral (asciiString lit) := by
  cases bs with
  | nil => cases h
  | cons b rest =>
    rw [scanNumber] at h
    by_cases h0 : isByte b '0' = true
    · rw [if_pos h0] at h
      obtain ⟨⟨f, r'⟩, hf, h⟩ := Except.map_eq_ok_iff.mp h
      cases h
      obtain ⟨frac, exp, hfe, hfrac, hexp⟩ := scanFraction_ok hf
      refine ⟨negative, ['0'], frac, exp, ?_, .inl rfl, hfrac, hexp⟩
      rw [asciiString_toList, List.map_append, sign_byteChar, List.map_cons, byteChar_of_isByte h0, hfe,
        List.append_assoc, List.append_assoc, List.singleton_append]
    · rw [if_neg h0] at h
      by_cases hd : isDigit b = true
      · rw [if_pos hd] at h
        obtain ⟨⟨f, r'⟩, hf, h⟩ := Except.map_eq_ok_iff.mp h
        cases h
        obtain ⟨frac, exp, hfe, hfrac, hexp⟩ := scanFraction_ok hf
        obtain ⟨h1, h9⟩ := digit_ne_zero hd h0
        refine ⟨negative, _ :: (spanDigits rest).1.map byteChar, frac, exp, ?_,
          .inr ⟨_, _, rfl, h1, h9, spanDigits_byteChar rest⟩, hfrac, hexp⟩
        simp only [asciiString_toList, List.map_append, sign_byteChar, List.map_cons, hfe, List.cons_append,
          List.append_assoc]
      · rw [if_neg hd] at h
        cases h

def Fits (limit depth : Nat) (r : Raw) : Prop := r.Plain ∧ depth + r.depth ≤ limit

section Fits
variable {limit depth : Nat}

theorem fits_scalar {r : Raw} (hp : r.Plain) (h0 : r.depth = 0) (hd : depth ≤ limit) : Fits limit depth r :=
  ⟨hp, by omega⟩

theorem fits_elements (hd : depth ≤ limit) :
    ∀ {xs : List Raw}, (∀ x ∈ xs, Fits limit depth x) → Value.PlainElements xs ∧ depth + Value.depthElements xs ≤ limit
  | [], _ => ⟨trivial, hd⟩
  | x :: rest, h => by
    obtain ⟨hx, hxd⟩ := h x (List.mem_cons_self _ _)
    obtain ⟨hr, hrd⟩ := fits_elements hd fun y hy => h y (List.mem_cons_of_mem _ hy)
    exact ⟨⟨hx, hr⟩, by simp only [Value.depthElements]; omega⟩

theorem fits_members (hd : depth ≤ limit) :
    ∀ {ms : List (String × Raw)}, (∀ p ∈ ms, Fits limit depth p.2) →
      Value.PlainMembers ms ∧ depth + Value.depthMembers ms ≤ limit
  | [], _ => ⟨trivial, hd⟩
  | (k, x) :: rest, h => by
    obtain ⟨hx, hxd⟩ : Fits limit depth x := h (k, x) (List.mem_cons_self _ _)
    obtain ⟨hr, hrd⟩ := fits_members hd fun p hp => h p (List.mem_cons_of_mem _ hp)
    exact ⟨⟨hx, hr⟩, by simp only [Value.depthMembers]; omega⟩

theorem fits_array {xs : List Raw} (hd : depth + 1 ≤ limit) (h : ∀ x ∈ xs, Fits limit (depth + 1) x) :
    Fits limit depth (.array xs) := by
  obtain ⟨hp, hxd⟩ := fits_elements hd h
  exact ⟨hp, by simp only [Value.depth]; omega⟩

theorem fits_object {ms : List (String × Raw)} (hd : depth + 1 ≤ limit)
    (h : ∀ p ∈ ms, Fits limit (depth + 1) p.2) : Fits limit depth (.object ms) := by
  obtain ⟨hp, hmd⟩ := fits_members hd h
  exact ⟨hp, by simp only [Value.depth]; omega⟩

theorem fits_literal {v r : Raw} {x : Except String (List UInt8)} {rest : List UInt8}
    (h : (fun r => (v, r)) <$> x = .ok (r, rest)) (hv : v.Plain) (hd : depth ≤ limit) (h0 : v.depth = 0 := by rfl) :
    Fits limit depth r := by
  obtain ⟨_, -, h⟩ := Except.map_eq_ok_iff.mp h
  cases h
  exact fits_scalar hv h0 hd

theorem fits_append {α : Type} {f : α → Raw} {acc : List α} {a : α} (hacc : ∀ p ∈ acc, Fits limit depth (f p))
    (ha : Fits limit depth (f a)) : ∀ p ∈ acc ++ [a], Fits limit depth (f p) := by
  intro p hp
  rcases List.mem_append.mp hp with hp | hp
  · exact hacc p hp
  · rw [List.mem_singleton.mp hp]; exact ha

end Fits

section Reader
variable (limit : Nat)

mutual
theorem parseValue_fits : ∀ {fuel depth : Nat} {input rest : List UInt8} {r : Raw},
    parseValue limit fuel depth input = .ok (r, rest) → depth ≤ limit → Fits limit depth r
  | 0, _, _, _, _, h, _ => by cases h
  | fuel + 1, depth, input, rest, r, h, hd => by
    rw [parseValue] at h
    split at h
    · cases h
    rcases ite_eq_iff.mp h with ⟨-, h⟩ | ⟨-, h⟩
    · rcases ite_eq_iff.mp h with ⟨-, h⟩ | ⟨hlim, h⟩
      · cases h
      split at h
      · cases h
      rcases ite_eq_iff.mp h with ⟨-, h⟩ | ⟨-, h⟩
      · cases h
        exact fits_object (by omega) fun _ hp => absurd hp (List.not_mem_nil _)
      rcases ite_eq_iff.mp h with ⟨-, h⟩ | ⟨-, h⟩
      · exact parseMembers_fits h (by omega) fun _ hp => absurd hp (List.not_mem_nil _)
      · cases h
    rcases ite_eq_iff.mp h with ⟨-, h⟩ | ⟨-, h⟩
    · rcases ite_eq_iff.mp h with ⟨-, h⟩ | ⟨hlim, h⟩
      · cases h
      split at h
      · cases h
      rcases ite_eq_iff.mp h with ⟨-, h⟩ | ⟨-, h⟩
      · cases h
        exact fits_array (by omega) fun _ hp => absurd hp (List.not_mem_nil _)
      obtain ⟨⟨x, r'⟩, hx, h⟩ := Except.bind_eq_ok_iff.mp h
      exact parseElements_fits h (by omega) fun y hy => by
        rw [List.mem_singleton.mp hy]; exact parseValue_fits hx (by omega)
    rcases ite_eq_iff.mp h with ⟨-, h⟩ | ⟨-, h⟩
    · obtain ⟨_, -, h⟩ := Except.map_eq_ok_iff.mp h
      cases h
      exact fits_scalar trivial rfl hd
    rcases ite_eq_iff.mp h with ⟨-, h⟩ | ⟨-, h⟩
    · obtain ⟨_, hs, h⟩ := Except.map_eq_ok_iff.mp h
      cases h
      exact fits_scalar (scanNumber_ok hs) rfl hd
    rcases ite_eq_iff.mp h with ⟨-, h⟩ | ⟨-, h⟩
    · obtain ⟨_, hs, h⟩ := Except.map_eq_ok_iff.mp h
      cases h
      exact fits_scalar (scanNumber_ok hs) rfl hd
    rcases ite_eq_iff.mp h with ⟨-, h⟩ | ⟨-, h⟩
    · exact fits_literal h trivial hd
    rcases ite_eq_iff.mp h with ⟨-, h⟩ | ⟨-, h⟩
    · exact fits_literal h trivial hd
    rcases ite_eq_iff.mp h with ⟨-, h⟩ | ⟨-, h⟩
    · exact fits_literal h trivial hd
    · cases h

theorem parseElements_fits : ∀ {fuel depth : Nat} {acc : List Raw} {input rest : List UInt8} {r : Raw},
    parseElements limit fuel (depth + 1) acc input = .ok (r, rest) → depth + 1 ≤ limit →
      (∀ x ∈ acc, Fits limit (depth + 1) x) → Fits limit depth r
  | 0, _, _, _, _, _, h, _, _ => by cases h
  | fuel + 1, depth, acc, input, rest, r, h, hd, hacc => by
    rw [parseElements] at h
    split at h
    · cases h
    rcases ite_eq_iff.mp h with ⟨-, h⟩ | ⟨-, h⟩
    · obtain ⟨⟨x, r'⟩, hx, h⟩ := Except.bind_eq_ok_iff.mp h
      exact parseElements_fits h hd (fits_append (f := id) hacc (parseValue_fits hx hd))
    rcases ite_eq_iff.mp h with ⟨-, h⟩ | ⟨-, h⟩
    · cases h
      exact fits_array hd hacc
    · cases h

theorem parseMembers_fits : ∀ {fuel depth : Nat} {acc : List (String × Raw)} {input rest : List UInt8} {r : Raw},
    parseMembers limit fuel (depth + 1) acc input = .ok (r, rest) → depth + 1 ≤ limit →
      (∀ p ∈ acc, Fits limit (depth + 1) p.2) → Fits limit depth r
  | 0, _, _, _, _, _, h, _, _ => by cases h
  | fuel + 1, depth, acc, input, rest, r, h, hd, hacc => by
    rw [parseMembers] at h
    obtain ⟨⟨key, r0⟩, -, h⟩ := Except.bind_eq_ok_iff.mp h
    dsimp only at h
    split at h
    · cases h
    rcases ite_eq_iff.mp h with ⟨-, h⟩ | ⟨-, h⟩
    swap
    · cases h
    obtain ⟨⟨x, r'⟩, hx, h⟩ := Except.bind_eq_ok_iff.mp h
    have hacc' := fits_append (f := Prod.snd) (a := (readString key, x)) hacc (parseValue_fits hx hd)
    split at h
    · cases h
    rcases ite_eq_iff.mp h with ⟨-, h⟩ | ⟨-, h⟩
    · split at h
      · cases h
      rcases ite_eq_iff.mp h with ⟨-, h⟩ | ⟨-, h⟩
      · exact parseMembers_fits h hd hacc'
      · cases h
    rcases ite_eq_iff.mp h with ⟨-, h⟩ | ⟨-, h⟩
    · cases h
      exact fits_object hd hacc'
    · cases h
end

end Reader

theorem parseText_fits {input : List UInt8} {r : Raw} (h : parseText input = .ok r) :
    Fits maxNestingDepth 0 r := by
  rw [parseText, parseTextWithin] at h
  obtain ⟨⟨v, rest⟩, hv, h⟩ := Except.bind_eq_ok_iff.mp h
  dsimp only at h
  split at h
  · cases h
    exact parseValue_fits maxNestingDepth hv (Nat.zero_le _)
  · cases h

theorem parseText_sound {input : List UInt8} {r : Raw} (h : parseText input = .ok r) :
    r.Plain ∧ r.depth ≤ maxNestingDepth :=
  ⟨(parseText_fits h).1, Nat.zero_add r.depth ▸ (parseText_fits h).2⟩

theorem parseText_sound_number :
    parseText (utf8Encode "[-0.5e+7]") = .ok (.array [.number "-0.5e+7"]) ∧
      (Value.array [.number "-0.5e+7"] : Raw).Plain ∧ (Value.array [.number "-0.5e+7"] : Raw).depth ≤ maxNestingDepth :=
  have h : parseText (utf8Encode "[-0.5e+7]") = .ok (.array [.number "-0.5e+7"]) := by rfl
  ⟨h, parseText_sound h⟩

theorem parseText_writeValue_iff (r : Raw) :
    parseText (utf8 (writeValue r)) = .ok r ↔ r.Plain ∧ r.depth ≤ maxNestingDepth :=
  ⟨fun h => ⟨(parseText_fits h).1, Nat.zero_add r.depth ▸ (parseText_fits h).2⟩,
    fun h => parseText_writeValue h.1 h.2⟩

end DidGo.Json
