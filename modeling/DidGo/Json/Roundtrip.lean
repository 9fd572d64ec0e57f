import DidGo.Json.Decode

namespace DidGo.Json
open DidGo.Encoding

def utf8 (cs : List Char) : List UInt8 := cs.flatMap encodeRune

@[simp] theorem utf8_nil : utf8 [] = [] := rfl

@[simp] theorem utf8_cons (c : Char) (cs : List Char) : utf8 (c :: cs) = encodeRune c ++ utf8 cs :=
  List.flatMap_cons _ _ _

@[simp] theorem utf8_append (cs ds : List Char) : utf8 (cs ++ ds) = utf8 cs ++ utf8 ds :=
  List.flatMap_append _ _ _

theorem encodeRune_ascii {c : Char} (h : c.toNat < 128) : encodeRune c = [byte c.toNat] := by
  simp [encodeRune, h]

theorem isByte_byte {c : Char} (d : Char) (h : c.toNat < 256) :
    isByte (byte c.toNat) d = decide (c = d) := by
  simp only [isByte, toNat_byte h, decide_eq_decide]
  exact ⟨fun h => Char.ext (UInt32.toNat.inj h), fun h => h ▸ rfl⟩

theorem encodeRune_high {c : Char} (h : 128 ≤ c.toNat) : ∀ b ∈ encodeRune c, 128 ≤ b.toNat := by
  have hv := char_valid c
  simp only [encodeRune]
  split_ifs <;> simp only [List.mem_cons, List.not_mem_nil, or_false] <;> rintro b (rfl | rfl | rfl | rfl) <;>
    rw [toNat_byte (by omega)] <;> omega

theorem encodeRune_eq_cons (c : Char) : ∃ b bs, encodeRune c = b :: bs := by
  simp only [encodeRune]
  split_ifs <;> exact ⟨_, _, rfl⟩

theorem isByte_of_high {b : UInt8} (h : 128 ≤ b.toNat) {c : Char} (hc : c.toNat < 128) :
    isByte b c = false := by
  simp only [isByte, decide_eq_false_iff_not]
  omega

def PlainBytes (bs : List UInt8) : Prop :=
  ∀ b ∈ bs, 32 ≤ b.toNat ∧ isByte b '"' = false ∧ isByte b '\\' = false

theorem scanString_plain {bs : List UInt8} (h : PlainBytes bs) (more : List UInt8) :
    scanString (bs ++ more) = (fun p => (bs ++ p.1, p.2)) <$> scanString more := by
  induction bs with
  | nil => simp only [List.nil_append]; cases scanString more <;> rfl
  | cons b bs ih =>
    obtain ⟨h32, hq, hb⟩ := h b (List.mem_cons_self _ _)
    rw [List.cons_append, scanString, if_neg (by simp [hq]), if_neg (by simp [hb]), if_neg (by omega),
      ih fun x hx => h x (List.mem_cons_of_mem _ hx)]
    cases scanString more <;> rfl

def escapedBytes (c : Char) : List UInt8 := utf8 (escapeRune c)

theorem hexValue_hexDigit : ∀ d < 16, hexValue (byte (hexDigit d).toNat) = some d := by
  decide

theorem hexDigit_lt : ∀ d < 16, (hexDigit d).toNat < 128 := by
  decide

theorem plainBytes_encodeRune {c : Char} (h32 : 32 ≤ c.toNat) (hq : c ≠ '"') (hb : c ≠ '\\') :
    PlainBytes (encodeRune c) := by
  by_cases h : c.toNat < 128
  · rw [encodeRune_ascii h]
    simp [PlainBytes, isByte_byte _ (show c.toNat < 256 by omega), hq, hb, toNat_byte (show c.toNat < 256 by omega), h32]
  · intro b hb'
    have := encodeRune_high (by omega) b hb'
    simp only [isByte]
    refine ⟨by omega, ?_, ?_⟩ <;> simp only [decide_eq_false_iff_not] <;> intro h' <;> rw [h'] at this <;>
      revert this <;> decide

def shortEscapes : List (Char × Char) :=
  [('"', '"'), ('\\', '\\'), (Char.ofNat 8, 'b'), (Char.ofNat 12, 'f'), ('\n', 'n'), ('\r', 'r'),
    ('\t', 't')]

theorem shortEscape_mem {c e : Char} (h : shortEscape c = some e) : (c, e) ∈ shortEscapes := by
  rw [shortEscape] at h
  obtain rfl | h1 := eq_or_ne c '"'
  · cases h; decide
  obtain rfl | h2 := eq_or_ne c '\\'
  · cases h; decide
  rw [if_neg h1, if_neg h2] at h
  by_cases h3 : c.toNat = 8
  · rw [if_pos h3] at h; cases h; rw [← ofNat_eq_of_toNat h3.symm]; decide
  by_cases h4 : c.toNat = 12
  · rw [if_neg h3, if_pos h4] at h; cases h; rw [← ofNat_eq_of_toNat h4.symm]; decide
  rw [if_neg h3, if_neg h4] at h
  obtain rfl | h5 := eq_or_ne c '\n'
  · cases h; decide
  obtain rfl | h6 := eq_or_ne c '\r'
  · cases h; decide
  obtain rfl | h7 := eq_or_ne c '\t'
  · cases h; decide
  rw [if_neg h5, if_neg h6, if_neg h7] at h
  cases h

theorem shortEscape_none {c : Char} (h : shortEscape c = none) : c ≠ '"' ∧ c ≠ '\\' := by
  refine ⟨?_, ?_⟩ <;> rintro rfl <;> cases h

theorem shortEscapes_ascii : ∀ p ∈ shortEscapes, p.1.toNat < 128 ∧ p.2.toNat < 128 := by
  decide

theorem shortEscapes_scan :
    ∀ p ∈ shortEscapes, "bfnrt\\/\"".toList.any (isByte (byte p.2.toNat)) = true := by
  decide

theorem unescape_short {c e : Char} (h : (c, e) ∈ shortEscapes) (r : List UInt8) :
    unescape (byte 92 :: byte e.toNat :: r) = some (c, r) := by
  simp only [shortEscapes, List.mem_cons, Prod.mk.injEq, List.mem_singleton, List.not_mem_nil,
    or_false] at h
  rcases h with ⟨rfl, rfl⟩ | ⟨rfl, rfl⟩ | ⟨rfl, rfl⟩ | ⟨rfl, rfl⟩ | ⟨rfl, rfl⟩ | ⟨rfl, rfl⟩ |
    ⟨rfl, rfl⟩ <;> rfl

theorem escapedBytes_short {c e : Char} (h : shortEscape c = some e) :
    escapedBytes c = [byte 92, byte e.toNat] := by
  simp [escapedBytes, escapeRune, h, encodeRune_ascii (shortEscapes_ascii _ (shortEscape_mem h)).2]
  rfl

theorem escapedBytes_control {c : Char} (h : shortEscape c = none) (hc : c.toNat < 32) :
    escapedBytes c = [byte 92, byte 117, byte 48, byte 48, byte (hexDigit (c.toNat / 16)).toNat,
      byte (hexDigit (c.toNat % 16)).toNat] := by
  simp [escapedBytes, escapeRune, h, hc, encodeRune_ascii (hexDigit_lt _ (Nat.mod_lt _ (by omega))),
    encodeRune_ascii (hexDigit_lt (c.toNat / 16) (by omega))]
  rfl

theorem escapedBytes_plain {c : Char} (h : shortEscape c = none) (hc : ¬c.toNat < 32) :
    escapedBytes c = encodeRune c := by
  simp [escapedBytes, escapeRune, h, hc]

theorem unescape_unicode {d1 d2 : Nat} {b1 b2 : UInt8} (h1 : hexValue b1 = some d1)
    (h2 : hexValue b2 = some d2) (hu : d1 * 16 + d2 < 0xD800) (more : List UInt8) :
    unescape (byte 92 :: byte 117 :: byte 48 :: byte 48 :: b1 :: b2 :: more) =
      some (Char.ofNat (d1 * 16 + d2), more) := by
  have h0 : hexValue (byte 48) = some 0 := rfl
  rw [unescape, if_neg (by decide), if_neg (by decide), if_neg (by decide), if_neg (by decide),
    if_neg (by decide), if_pos (by decide), getu4, if_pos (by decide), h0, h1, h2]
  simp only [Nat.zero_mul, Nat.zero_add]
  rw [if_neg (by omega)]

theorem scanString_escapedBytes (c : Char) (more : List UInt8) :
    scanString (escapedBytes c ++ more) =
      (fun p => (escapedBytes c ++ p.1, p.2)) <$> scanString more := by
  cases h : shortEscape c with
  | some e =>
    rw [escapedBytes_short h, List.cons_append, List.cons_append, List.nil_append, scanString,
      if_neg (by decide), if_pos (by decide), scanEscape, if_pos (shortEscapes_scan _ (shortEscape_mem h))]
    cases scanString more <;> rfl
  | none =>
    by_cases hc : c.toNat < 32
    · have h1 := hexValue_hexDigit (c.toNat / 16) (by omega)
      have h2 := hexValue_hexDigit (c.toNat % 16) (Nat.mod_lt _ (by omega))
      rw [escapedBytes_control h hc]
      simp only [List.cons_append, List.nil_append]
      rw [scanString, if_neg (by decide), if_pos (by decide), scanEscape, if_neg (by decide),
        if_pos (by decide), scanUnicode, if_pos (by rw [h1, h2]; rfl)]
      cases scanString more <;> rfl
    · obtain ⟨hq, hb⟩ := shortEscape_none h
      rw [escapedBytes_plain h hc]
      exact scanString_plain (plainBytes_encodeRune (by omega) hq hb) more

theorem unquote_escapedBytes (c : Char) (fuel : Nat) (more : List UInt8) :
    unquote (fuel + 1) (escapedBytes c ++ more) = c :: unquote fuel more := by
  cases h : shortEscape c with
  | some e =>
    rw [escapedBytes_short h, List.cons_append, List.cons_append, List.nil_append, unquote,
      if_pos (by decide), unescape_short (shortEscape_mem h)]
  | none =>
    by_cases hc : c.toNat < 32
    · have h1 := hexValue_hexDigit (c.toNat / 16) (by omega)
      have h2 := hexValue_hexDigit (c.toNat % 16) (Nat.mod_lt _ (by omega))
      rw [escapedBytes_control h hc]
      simp only [List.cons_append, List.nil_append]
      rw [unquote, if_pos (by decide), unescape_unicode h1 h2 (by omega),
        ofNat_eq_of_toNat (c := c) (by omega)]
    · obtain ⟨hq, hb⟩ := shortEscape_none h
      rw [escapedBytes_plain h hc]
      by_cases ha : c.toNat < 128
      · rw [encodeRune_ascii ha, List.singleton_append, unquote,
          if_neg (by rw [isByte_byte _ (by omega)]; simpa using hb), if_pos (by rw [toNat_byte (by omega)]; exact ha),
          toNat_byte (by omega), Char.ofNat_toNat]
      · obtain ⟨b, bs, hbs⟩ := encodeRune_eq_cons c
        have hb128 := encodeRune_high (by omega) b (hbs ▸ List.mem_cons_self _ _)
        rw [hbs, List.cons_append, unquote, if_neg (by rw [isByte_of_high hb128 (by decide)]; decide),
          if_neg (by omega), ← List.cons_append, ← hbs, decodeRune_encodeRune]

theorem escapedBytes_ne_nil (c : Char) : escapedBytes c ≠ [] := by
  cases h : shortEscape c with
  | some e => simp [escapedBytes_short h]
  | none =>
    by_cases hc : c.toNat < 32
    · simp [escapedBytes_control h hc]
    · obtain ⟨b, bs, hbs⟩ := encodeRune_eq_cons c
      simp [escapedBytes_plain h hc, hbs]

theorem utf8_flatMap_escapeRune (cs : List Char) :
    utf8 (cs.flatMap escapeRune) = cs.flatMap escapedBytes := by
  induction cs with
  | nil => rfl
  | cons c cs ih => rw [List.flatMap_cons, utf8_append, ih, List.flatMap_cons]; rfl

theorem scanString_body (cs : List Char) (more : List UInt8) :
    scanString (cs.flatMap escapedBytes ++ byte 34 :: more) = .ok (cs.flatMap escapedBytes, more) := by
  induction cs with
  | nil => rw [List.flatMap_nil, List.nil_append, scanString, if_pos (by decide)]
  | cons c cs ih => rw [List.flatMap_cons, List.append_assoc, scanString_escapedBytes, ih]; rfl

theorem unquote_body (cs : List Char) :
    ∀ fuel, cs.length ≤ fuel → unquote fuel (cs.flatMap escapedBytes) = cs := by
  induction cs with
  | nil => intro fuel _; cases fuel <;> rfl
  | cons c cs ih =>
    intro fuel h
    obtain ⟨f, rfl⟩ : ∃ f, fuel = f + 1 := ⟨fuel - 1, by simp at h; omega⟩
    rw [List.flatMap_cons, unquote_escapedBytes, ih f (by simp at h; omega)]

theorem length_le_flatMap_escapedBytes (cs : List Char) : cs.length ≤ (cs.flatMap escapedBytes).length := by
  induction cs with
  | nil => exact Nat.le_refl 0
  | cons c cs ih =>
    have := List.length_pos.mpr (escapedBytes_ne_nil c)
    rw [List.flatMap_cons, List.length_append, List.length_cons]
    omega

theorem readString_body (s : String) : readString (s.toList.flatMap escapedBytes) = s :=
  congrArg String.mk (unquote_body _ _ (length_le_flatMap_escapedBytes _))

theorem utf8_quoteString (s : String) :
    utf8 (quoteString s) = byte 34 :: s.toList.flatMap escapedBytes ++ [byte 34] := by
  simp only [quoteString, utf8_cons, utf8_append, utf8_flatMap_escapeRune, utf8_nil]
  rfl

def isDigitChar (c : Char) : Bool := '0' ≤ c && c ≤ '9'

def IntPart (cs : List Char) : Prop :=
  cs = ['0'] ∨ ∃ d ds, cs = d :: ds ∧ '1' ≤ d ∧ d ≤ '9' ∧ ∀ x ∈ ds, isDigitChar x

def FracPart (cs : List Char) : Prop :=
  cs = [] ∨ ∃ ds, cs = '.' :: ds ∧ ds ≠ [] ∧ ∀ x ∈ ds, isDigitChar x

def ExpPart (cs : List Char) : Prop :=
  cs = [] ∨ ∃ e sign ds, cs = e :: sign ++ ds ∧ (e = 'e' ∨ e = 'E') ∧
    (sign = [] ∨ sign = ['+'] ∨ sign = ['-']) ∧ ds ≠ [] ∧ ∀ x ∈ ds, isDigitChar x

def IsNumberLiteral (lit : String) : Prop :=
  ∃ (negative : Bool) (int frac exp : List Char), lit.toList = (if negative then ['-'] else []) ++ int ++ frac ++ exp ∧
    IntPart int ∧ FracPart frac ∧ ExpPart exp

def Delimited (more : List UInt8) : Prop :=
  ∀ b r, more = b :: r → isByte b ',' = true ∨ isByte b ']' = true ∨ isByte b '}' = true

theorem isDigitChar_ascii {c : Char} (h : isDigitChar c) : c.toNat < 128 := by
  simp only [isDigitChar, Bool.and_eq_true, decide_eq_true_eq] at h
  exact Nat.lt_of_le_of_lt (Char.le_def.mp h.2) (by decide)

theorem isDigit_byte {c : Char} (h : c.toNat < 256) : isDigit (byte c.toNat) = isDigitChar c := by
  simp only [isDigit, toNat_byte h, isDigitChar, Char.le_def]
  rfl

theorem utf8_digits {ds : List Char} (h : ∀ x ∈ ds, isDigitChar x) :
    utf8 ds = ds.map fun d => byte d.toNat := by
  induction ds with
  | nil => rfl
  | cons d ds ih =>
    rw [utf8_cons, encodeRune_ascii (isDigitChar_ascii (h d (List.mem_cons_self _ _))),
      ih fun x hx => h x (List.mem_cons_of_mem _ hx)]
    rfl

def NoDigitHead (more : List UInt8) : Prop := ∀ b r, more = b :: r → isDigit b = false

theorem spanDigits_digits {ds : List Char} (h : ∀ x ∈ ds, isDigitChar x) {more : List UInt8}
    (hm : NoDigitHead more) : spanDigits (utf8 ds ++ more) = (utf8 ds, more) := by
  rw [utf8_digits h]
  induction ds with
  | nil =>
    cases more with
    | nil => rfl
    | cons b r => simp [spanDigits, hm b r rfl]
  | cons d ds ih =>
    have hd := h d (List.mem_cons_self _ _)
    rw [List.map_cons, List.cons_append, spanDigits,
      isDigit_byte (Nat.lt_trans (isDigitChar_ascii hd) (by decide)), if_pos hd,
      ih fun x hx => h x (List.mem_cons_of_mem _ hx)]

theorem scanDigits_digits (context : String) {ds : List Char} (hne : ds ≠ [])
    (h : ∀ x ∈ ds, isDigitChar x) {more : List UInt8} (hm : NoDigitHead more) :
    scanDigits context (utf8 ds ++ more) = .ok (utf8 ds, more) := by
  obtain ⟨d, ds, rfl⟩ := List.exists_cons_of_ne_nil hne
  have hd := h d (List.mem_cons_self _ _)
  have hspan := spanDigits_digits (fun x hx => h x (List.mem_cons_of_mem _ hx)) hm
  rw [utf8_cons, encodeRune_ascii (isDigitChar_ascii hd), List.singleton_append, List.cons_append,
    scanDigits, isDigit_byte (Nat.lt_trans (isDigitChar_ascii hd) (by decide)), if_pos hd, hspan]

theorem delimited_head {more : List UInt8} (h : Delimited more) {b : UInt8} {r : List UInt8}
    (he : more = b :: r) :
    isDigit b = false ∧ isByte b '.' = false ∧ isByte b 'e' = false ∧ isByte b 'E' = false := by
  have := h b r he
  simp only [isByte, isDigit, decide_eq_true_eq, Bool.and_eq_false_imp, decide_eq_false_iff_not] at this ⊢
  refine ⟨?_, ?_, ?_, ?_⟩ <;> revert this <;> simp <;> omega

theorem Delimited.noDigitHead {more : List UInt8} (h : Delimited more) : NoDigitHead more :=
  fun _ _ he => (delimited_head h he).1

theorem utf8_ascii_cons {c : Char} (h : c.toNat < 128) (cs : List Char) :
    utf8 (c :: cs) = byte c.toNat :: utf8 cs := by
  rw [utf8_cons, encodeRune_ascii h, List.singleton_append]

theorem scanExponent_exp {exp : List Char} (h : ExpPart exp) {more : List UInt8} (hm : Delimited more) :
    scanExponent (utf8 exp ++ more) = .ok (utf8 exp, more) := by
  rcases h with rfl | ⟨e, sign, ds, rfl, he, hs, hne, hd⟩
  · cases more with
    | nil => rfl
    | cons b r =>
      obtain ⟨-, -, h1, h2⟩ := delimited_head hm rfl
      simp [scanExponent, h1, h2]
  · have hea : e.toNat < 128 := by rcases he with rfl | rfl <;> decide
    have hee : (isByte (byte e.toNat) 'e' || isByte (byte e.toNat) 'E') = true := by
      rcases he with rfl | rfl <;> decide
    obtain ⟨d, ds', rfl⟩ := List.exists_cons_of_ne_nil hne
    have hdd := hd d (List.mem_cons_self _ _)
    have hscan := scanDigits_digits "in exponent of numeric literal" hne hd hm.noDigitHead
    rw [utf8_ascii_cons (isDigitChar_ascii hdd)] at hscan
    rcases hs with rfl | rfl | rfl
    · have hns : (isByte (byte d.toNat) '+' || isByte (byte d.toNat) '-') = false := by
        have := isDigit_byte (Nat.lt_trans (isDigitChar_ascii hdd) (by decide))
        rw [hdd] at this
        simp only [isDigit, Bool.and_eq_true, decide_eq_true_eq] at this
        simp only [isByte, Bool.or_eq_false_iff, decide_eq_false_iff_not]
        constructor <;> intro h' <;> rw [h'] at this <;> revert this <;> decide
      show scanExponent (utf8 (e :: d :: ds') ++ more) = .ok (utf8 (e :: d :: ds'), more)
      rw [utf8_ascii_cons hea, utf8_ascii_cons (isDigitChar_ascii hdd), List.cons_append,
        List.cons_append, scanExponent, if_pos hee]
      simp only [hns, Bool.false_eq_true, if_false]
      rw [← List.cons_append, hscan]
      rfl
    all_goals
      simp only [List.cons_append, List.nil_append, utf8_ascii_cons hea,
        utf8_ascii_cons (show '+'.toNat < 128 by decide), utf8_ascii_cons (show '-'.toNat < 128 by decide),
        utf8_ascii_cons (isDigitChar_ascii hdd)]
      rw [scanExponent, if_pos hee]
      simp only [show isByte (byte '+'.toNat) '+' = true by decide,
        show isByte (byte '-'.toNat) '-' = true by decide, Bool.true_or, Bool.or_true, if_true]
      rw [← List.cons_append, hscan]
      rfl

theorem exp_head {exp : List Char} (h : ExpPart exp) {more : List UInt8} (hm : Delimited more) :
    ∀ b r, utf8 exp ++ more = b :: r → isDigit b = false ∧ isByte b '.' = false := by
  intro b r hb
  rcases h with rfl | ⟨e, sign, ds, rfl, he, -, -, -⟩
  · exact ⟨(delimited_head hm hb).1, (delimited_head hm hb).2.1⟩
  · have hea : e.toNat < 128 := by rcases he with rfl | rfl <;> decide
    rw [List.cons_append, utf8_ascii_cons hea, List.cons_append, List.cons.injEq] at hb
    rw [← hb.1]
    rcases he with rfl | rfl <;> decide

theorem scanFraction_of_not_dot {input : List UInt8}
    (h : ∀ b r, input = b :: r → isByte b '.' = false) : scanFraction input = scanExponent input := by
  cases input with
  | nil => rfl
  | cons b r => rw [scanFraction, if_neg (by rw [h b r rfl]; decide)]

theorem fracExp_head {frac exp : List Char} (hf : FracPart frac) (he : ExpPart exp) {more : List UInt8}
    (hm : Delimited more) : NoDigitHead (utf8 (frac ++ exp) ++ more) := by
  intro b r hb
  rcases hf with rfl | ⟨ds, rfl, -, -⟩
  · exact (exp_head he hm b r hb).1
  · rw [List.cons_append, utf8_ascii_cons (by decide), List.cons_append, List.cons.injEq] at hb
    rw [← hb.1]
    decide

theorem scanFraction_frac {frac exp : List Char} (hf : FracPart frac) (he : ExpPart exp)
    {more : List UInt8} (hm : Delimited more) :
    scanFraction (utf8 (frac ++ exp) ++ more) = .ok (utf8 (frac ++ exp), more) := by
  rcases hf with rfl | ⟨ds, rfl, hne, hd⟩
  · rw [List.nil_append, scanFraction_of_not_dot fun b r hb => (exp_head he hm b r hb).2,
      scanExponent_exp he hm]
  · have hnd : NoDigitHead (utf8 exp ++ more) := fun b r hb => (exp_head he hm b r hb).1
    rw [List.cons_append, utf8_ascii_cons (by decide), List.cons_append, scanFraction, if_pos (by decide),
      utf8_append, List.append_assoc, scanDigits_digits _ hne hd hnd]
    simp only [bind, Except.bind, scanExponent_exp he hm]
    rfl

theorem scanNumber_literal (negative : Bool) {int frac exp : List Char} (hi : IntPart int)
    (hf : FracPart frac) (he : ExpPart exp) {more : List UInt8} (hm : Delimited more) :
    scanNumber negative (utf8 (int ++ (frac ++ exp)) ++ more) =
      .ok ((if negative then [byte 45] else []) ++ utf8 (int ++ (frac ++ exp)), more) := by
  rcases hi with rfl | ⟨d, ds, rfl, h1, h9, hd⟩
  · rw [List.singleton_append, utf8_ascii_cons (by decide), List.cons_append, scanNumber,
      if_pos (by decide), scanFraction_frac hf he hm]
    rfl
  · have hdd : isDigitChar d := by simp [isDigitChar, h9, Char.le_trans (by decide : '0' ≤ '1') h1]
    have hda := isDigitChar_ascii hdd
    have hd0 : isByte (byte d.toNat) '0' = false := by
      rw [isByte_byte _ (by omega)]
      simp only [decide_eq_false_iff_not]
      rintro rfl
      exact absurd h1 (by decide)
    rw [List.cons_append, utf8_ascii_cons hda, List.cons_append, scanNumber,
      if_neg (by rw [hd0]; decide), if_pos (by rw [isDigit_byte (by omega)]; exact hdd), utf8_append,
      List.append_assoc, spanDigits_digits hd (fracExp_head hf he hm), scanFraction_frac hf he hm]
    simp only [Functor.map, Except.map, utf8_append, List.append_assoc, List.cons_append]

theorem skipSpace_ascii {c : Char} (hc : c.toNat < 128) (hs : c ∉ [' ', '\t', '\n', '\r'])
    (rest : List UInt8) : skipSpace (byte c.toNat :: rest) = byte c.toNat :: rest := by
  simp only [List.mem_cons, List.not_mem_nil, or_false, not_or] at hs
  simp [skipSpace, isSpace, isByte_byte _ (show c.toNat < 256 by omega), hs]

theorem map_ofNat_utf8 {cs : List Char} (h : ∀ c ∈ cs, c.toNat < 128) :
    (utf8 cs).map (fun b => Char.ofNat b.toNat) = cs := by
  induction cs with
  | nil => rfl
  | cons c cs ih =>
    have hc := h c (List.mem_cons_self _ _)
    rw [utf8_ascii_cons hc, List.map_cons, ih fun x hx => h x (List.mem_cons_of_mem _ hx),
      toNat_byte (by omega), Char.ofNat_toNat]

theorem asciiString_utf8 {cs : List Char} (h : ∀ c ∈ cs, c.toNat < 128) : asciiString (utf8 cs) = ⟨cs⟩ :=
  congrArg String.mk (map_ofNat_utf8 h)

theorem intPart_ascii {int : List Char} (h : IntPart int) : ∀ c ∈ int, c.toNat < 128 := by
  rcases h with rfl | ⟨d, ds, rfl, -, h9, hd⟩
  · simp
  · intro c hc
    rcases List.mem_cons.mp hc with rfl | hc
    · exact Nat.lt_of_le_of_lt (Char.le_def.mp h9) (by decide)
    · exact isDigitChar_ascii (hd c hc)

theorem fracPart_ascii {frac : List Char} (h : FracPart frac) : ∀ c ∈ frac, c.toNat < 128 := by
  rcases h with rfl | ⟨ds, rfl, -, hd⟩
  · simp
  · intro c hc
    rcases List.mem_cons.mp hc with rfl | hc
    · decide
    · exact isDigitChar_ascii (hd c hc)

theorem expPart_ascii {exp : List Char} (h : ExpPart exp) : ∀ c ∈ exp, c.toNat < 128 := by
  rcases h with rfl | ⟨e, sign, ds, rfl, he, hs, -, hd⟩
  · simp
  · intro c hc
    simp only [List.cons_append, List.mem_cons, List.mem_append] at hc
    rcases hc with rfl | hc | hc
    · rcases he with rfl | rfl <;> decide
    · rcases hs with rfl | rfl | rfl <;> simp_all
    · exact isDigitChar_ascii (hd c hc)

theorem literal_ascii {lit : String} (h : IsNumberLiteral lit) : ∀ c ∈ lit.toList, c.toNat < 128 := by
  obtain ⟨neg, int, frac, exp, hlit, hi, hf, he⟩ := h
  intro c hc
  rw [hlit] at hc
  simp only [List.mem_append] at hc
  rcases hc with ((hc | hc) | hc) | hc
  · cases neg <;> simp_all
  · exact intPart_ascii hi c hc
  · exact fracPart_ascii hf c hc
  · exact expPart_ascii he c hc

theorem isByte_digit {c : Char} (hc : isDigitChar c) {d : Char} (hd : isDigitChar d = false) :
    isByte (byte c.toNat) d = false := by
  rw [isByte_byte _ (Nat.lt_trans (isDigitChar_ascii hc) (by decide)), decide_eq_false_iff_not]
  rintro rfl
  rw [hc] at hd
  exact Bool.noConfusion hd

theorem digit_not_space {c : Char} (hc : isDigitChar c) : c ∉ [' ', '\t', '\n', '\r'] := by
  intro h
  simp only [List.mem_cons, List.not_mem_nil, or_false] at h
  rcases h with rfl | rfl | rfl | rfl <;> exact absurd hc (by decide)

theorem intPart_head {int : List Char} (h : IntPart int) (rest : List Char) :
    ∃ c cs, int ++ rest = c :: cs ∧ isDigitChar c := by
  rcases h with rfl | ⟨d, ds, rfl, h1, h9, -⟩
  · exact ⟨'0', rest, rfl, by decide⟩
  · exact ⟨d, ds ++ rest, rfl, by simp [isDigitChar, h9, Char.le_trans (by decide : '0' ≤ '1') h1]⟩

section Reader
variable (limit : Nat)

theorem parseValue_number {lit : String} (h : IsNumberLiteral lit) (fuel depth : Nat)
    {more : List UInt8} (hm : Delimited more) :
    parseValue limit (fuel + 1) depth (utf8 lit.toList ++ more) = .ok (.number lit, more) := by
  have hascii := literal_ascii h
  have hlitS : asciiString (utf8 lit.toList) = lit := asciiString_utf8 hascii
  obtain ⟨neg, int, frac, exp, hlit, hi, hf, he⟩ := h
  have hscan := scanNumber_literal neg hi hf he hm
  have hbody : utf8 lit.toList = (if neg then [byte 45] else []) ++ utf8 (int ++ (frac ++ exp)) := by
    rw [hlit]
    cases neg <;> simp [List.append_assoc, utf8_ascii_cons (show '-'.toNat < 128 by decide)]
  cases neg with
  | true =>
    rw [if_pos rfl] at hbody hscan
    rw [hbody, List.singleton_append, List.cons_append, parseValue,
      show byte 45 = byte '-'.toNat from rfl, skipSpace_ascii (by decide) (by decide)]
    simp only []
    rw [if_neg (by decide), if_neg (by decide), if_neg (by decide), if_pos (by decide), hscan]
    simp only [Functor.map, Except.map]
    rw [← hbody, hlitS]
  | false =>
    rw [if_neg (by decide), List.nil_append] at hbody hscan
    obtain ⟨c, cs, hcs, hc⟩ := intPart_head hi (frac ++ exp)
    have hca := isDigitChar_ascii hc
    rw [hbody, hcs, utf8_ascii_cons hca, List.cons_append, parseValue,
      skipSpace_ascii hca (digit_not_space hc)]
    simp only []
    rw [if_neg (by rw [isByte_digit hc (by decide)]; decide), if_neg (by rw [isByte_digit hc (by decide)]; decide),
      if_neg (by rw [isByte_digit hc (by decide)]; decide), if_neg (by rw [isByte_digit hc (by decide)]; decide),
      if_pos (by rw [isDigit_byte (by omega)]; exact hc), ← List.cons_append, ← utf8_ascii_cons hca, ← hcs,
      hscan]
    simp only [Functor.map, Except.map]
    rw [← hbody, hlitS]

section Plain

mutual
-- A tree writeValue prints as text the reader gives back: its number literals are JSON numbers and it has no
-- strings node (the reader only makes arrays).
def Value.Plain : Raw → Prop
  | .null => True
  | .bool _ => True
  | .number lit => IsNumberLiteral lit
  | .string _ => True
  | .strings _ => False
  | .array xs => Value.PlainElements xs
  | .object ms => Value.PlainMembers ms

def Value.PlainElements : List Raw → Prop
  | [] => True
  | x :: rest => x.Plain ∧ Value.PlainElements rest

def Value.PlainMembers : List (String × Raw) → Prop
  | [] => True
  | (_, x) :: rest => x.Plain ∧ Value.PlainMembers rest
end

end Plain

theorem writeValue_head (r : Raw) (hr : r.Plain) :
    ∃ c cs, writeValue r = c :: cs ∧ c.toNat < 128 ∧ c ∉ [' ', '\t', '\n', '\r', ']'] := by
  cases r with
  | null => exact ⟨_, _, rfl, by decide, by decide⟩
  | bool b => cases b <;> exact ⟨_, _, rfl, by decide, by decide⟩
  | number lit =>
    obtain ⟨neg, int, frac, exp, hlit, hi, -, -⟩ := id hr
    cases neg with
    | true => exact ⟨'-', _, by rw [writeValue, hlit]; rfl, by decide, by decide⟩
    | false =>
      obtain ⟨c, cs, hcs, hc⟩ := intPart_head hi (frac ++ exp)
      refine ⟨c, cs, by rw [writeValue, hlit, if_neg (by decide), List.nil_append, List.append_assoc, hcs],
        isDigitChar_ascii hc, ?_⟩
      intro h
      simp only [List.mem_cons, List.not_mem_nil, or_false] at h
      rcases h with rfl | rfl | rfl | rfl | rfl <;> exact absurd hc (by decide)
  | string s => exact ⟨_, _, rfl, by decide, by decide⟩
  | strings xs => exact absurd hr id
  | array xs => exact ⟨_, _, rfl, by decide, by decide⟩
  | object ms => exact ⟨_, _, rfl, by decide, by decide⟩

theorem writeValue_bytes {r : Raw} (hr : r.Plain) (more : List UInt8) :
    ∃ b bs, utf8 (writeValue r) ++ more = b :: bs ∧ skipSpace (b :: bs) = b :: bs ∧
      isByte b ']' = false := by
  obtain ⟨c, cs, hcs, hca, hcn⟩ := writeValue_head r hr
  have hns : c ∉ [' ', '\t', '\n', '\r'] := fun h =>
    hcn ((by decide : [' ', '\t', '\n', '\r'] ⊆ [' ', '\t', '\n', '\r', ']']) h)
  refine ⟨byte c.toNat, utf8 cs ++ more, by rw [hcs, utf8_ascii_cons hca, List.cons_append],
    skipSpace_ascii hca hns _, ?_⟩
  rw [isByte_byte _ (by omega), decide_eq_false_iff_not]
  rintro rfl
  exact hcn (by decide)

theorem delimited_elementsTail (xs : List Raw) (more : List UInt8) :
    Delimited (utf8 (writeElementsTail xs) ++ more) := by
  intro b r h
  cases xs with
  | nil =>
    rw [writeElementsTail, utf8_ascii_cons (by decide), List.cons_append, List.cons.injEq] at h
    rw [← h.1]
    decide
  | cons x xs =>
    rw [writeElementsTail, List.cons_append, utf8_ascii_cons (show ','.toNat < 128 by decide),
      List.cons_append, List.cons.injEq] at h
    rw [← h.1]
    decide

theorem writeMembersTail_cons (k : String) (x : Raw) (ms : List (String × Raw)) :
    writeMembersTail ((k, x) :: ms) = ',' :: writeMembers ((k, x) :: ms) := rfl

theorem delimited_membersTail (ms : List (String × Raw)) (more : List UInt8) :
    Delimited (utf8 (writeMembersTail ms) ++ more) := by
  intro b r h
  cases ms with
  | nil =>
    rw [writeMembersTail, utf8_ascii_cons (by decide), List.cons_append, List.cons.injEq] at h
    rw [← h.1]
    decide
  | cons m ms =>
    obtain ⟨k, x⟩ := m
    rw [writeMembersTail_cons, utf8_ascii_cons (show ','.toNat < 128 by decide), List.cons_append,
      List.cons.injEq] at h
    rw [← h.1]
    decide

theorem writeMembers_cons (k : String) (x : Raw) (ms : List (String × Raw)) :
    writeMembers ((k, x) :: ms) =
      '"' :: (k.toList.flatMap escapeRune ++ '"' :: ':' :: writeValue x ++ writeMembersTail ms) := by
  simp [writeMembers, quoteString]

theorem skipSpace_quote (rest : List UInt8) : skipSpace (byte 34 :: rest) = byte 34 :: rest :=
  skipSpace_ascii (c := '"') (by decide) (by decide) rest

theorem writeMembers_quote (k : String) (x : Raw) (ms : List (String × Raw)) :
    writeMembers ((k, x) :: ms) = '"' :: (writeMembers ((k, x) :: ms)).tail := by
  rw [writeMembers_cons, List.tail_cons]

mutual
theorem parseValue_writeValue : ∀ (r : Raw) (fuel depth : Nat) (more : List UInt8),
    r.Plain → (writeValue r).length ≤ fuel → depth + r.depth ≤ limit → Delimited more →
    parseValue limit fuel depth (utf8 (writeValue r) ++ more) = .ok (r, more)
  | .null, fuel + 1, depth, more, _, _, _, _ => rfl
  | .bool b, fuel + 1, depth, more, _, _, _, _ => by cases b <;> rfl
  | .number lit, fuel + 1, depth, more, hr, _, _, hm => parseValue_number limit hr fuel depth hm
  | .string s, fuel + 1, depth, more, _, _, _, _ => by
    rw [writeValue, utf8_quoteString]
    simp only [List.cons_append, List.append_assoc, List.singleton_append, List.nil_append]
    rw [parseValue, skipSpace_quote]
    simp only []
    rw [if_neg (by decide), if_neg (by decide), if_pos (by decide), scanString_body]
    simp only [Functor.map, Except.map, readString_body]
  | .strings _, _, _, _, hr, _, _, _ => absurd hr id
  | .array [], fuel + 1, depth, more, _, _, hd, _ => by
    rw [Value.depth, Value.depthElements] at hd
    rw [writeValue, writeElements, utf8_ascii_cons (by decide), utf8_ascii_cons (by decide), utf8_nil,
      List.cons_append, List.cons_append, List.nil_append, parseValue, skipSpace_ascii (by decide) (by decide)]
    simp only []
    rw [if_neg (by decide), if_pos (by decide), if_neg (by omega), skipSpace_ascii (by decide) (by decide)]
    simp only []
    rw [if_pos (by decide)]
  | .array (x :: xs), fuel + 1, depth, more, hr, hf, hd, _ => by
    obtain ⟨hx, hxs⟩ := id hr
    simp only [writeValue, writeElements, List.length_cons, List.length_append] at hf
    rw [Value.depth, Value.depthElements] at hd
    have hdx := Nat.le_max_left x.depth (Value.depthElements xs)
    have hdxs := Nat.le_max_right x.depth (Value.depthElements xs)
    obtain ⟨b, bs, hbs, hskip, hb⟩ := writeValue_bytes hx (utf8 (writeElementsTail xs) ++ more)
    rw [writeValue, writeElements, utf8_ascii_cons (by decide), utf8_append, List.cons_append,
      List.append_assoc, parseValue, skipSpace_ascii (by decide) (by decide)]
    simp only []
    rw [if_neg (by decide), if_pos (by decide), if_neg (by omega), hbs, hskip]
    simp only []
    rw [if_neg (by rw [hb]; decide), ← hbs,
      parseValue_writeValue x fuel (depth + 1) _ hx (by omega) (by omega) (delimited_elementsTail xs more)]
    simp only [bind, Except.bind]
    exact parseElements_writeElementsTail xs fuel (depth + 1) [x] more hxs (by omega) (by omega)
  | .object [], fuel + 1, depth, more, _, _, hd, _ => by
    rw [Value.depth, Value.depthMembers] at hd
    rw [writeValue, writeMembers, utf8_ascii_cons (by decide), utf8_ascii_cons (by decide), utf8_nil,
      List.cons_append, List.cons_append, List.nil_append, parseValue, skipSpace_ascii (by decide) (by decide)]
    simp only []
    rw [if_pos (by decide), if_neg (by omega), skipSpace_ascii (by decide) (by decide)]
    simp only []
    rw [if_pos (by decide)]
  | .object ((k, x) :: ms), fuel + 1, depth, more, hr, hf, hd, _ => by
    rw [writeValue, List.length_cons] at hf
    rw [Value.depth] at hd
    rw [writeValue, writeMembers_quote, utf8_ascii_cons (by decide), utf8_ascii_cons (by decide),
      List.cons_append, List.cons_append, parseValue, skipSpace_ascii (by decide) (by decide)]
    simp only []
    rw [if_pos (by decide), if_neg (by omega), skipSpace_ascii (by decide) (by decide)]
    simp only []
    rw [if_neg (by decide), if_pos (by decide)]
    exact parseMembers_writeMembers ((k, x) :: ms) fuel (depth + 1) [] more (List.cons_ne_nil _ _) hr
      (by omega) (by omega)
  | r, 0, _, _, hr, hf, _, _ => by
    obtain ⟨c, cs, hcs, -⟩ := writeValue_head r hr
    rw [hcs] at hf
    exact absurd hf (by simp)

theorem parseElements_writeElementsTail : ∀ (xs : List Raw) (fuel depth : Nat) (acc : List Raw)
    (more : List UInt8), Value.PlainElements xs → (writeElementsTail xs).length ≤ fuel →
    depth + Value.depthElements xs ≤ limit →
    parseElements limit fuel depth acc (utf8 (writeElementsTail xs) ++ more) = .ok (.array (acc ++ xs), more)
  | [], fuel + 1, depth, acc, more, _, _, _ => by
    rw [writeElementsTail, utf8_ascii_cons (by decide), utf8_nil, List.cons_append, List.nil_append,
      parseElements, skipSpace_ascii (by decide) (by decide)]
    simp only []
    rw [if_neg (by decide), if_pos (by decide), List.append_nil]
  | x :: xs, fuel + 1, depth, acc, more, hr, hf, hd => by
    obtain ⟨hx, hxs⟩ := id hr
    simp only [writeElementsTail, List.length_cons, List.length_append] at hf
    rw [Value.depthElements] at hd
    have hdx := Nat.le_max_left x.depth (Value.depthElements xs)
    have hdxs := Nat.le_max_right x.depth (Value.depthElements xs)
    rw [writeElementsTail, List.cons_append, utf8_ascii_cons (by decide), utf8_append, List.cons_append,
      List.append_assoc, parseElements, skipSpace_ascii (by decide) (by decide)]
    simp only []
    rw [if_pos (by decide),
      parseValue_writeValue x fuel depth _ hx (by omega) (by omega) (delimited_elementsTail xs more)]
    simp only [bind, Except.bind]
    rw [parseElements_writeElementsTail xs fuel depth (acc ++ [x]) more hxs (by omega) (by omega),
      List.append_assoc, List.singleton_append]
  | xs, 0, _, _, _, _, hf, _ => by
    cases xs <;> simp [writeElementsTail] at hf

theorem parseMembers_writeMembers : ∀ (ms : List (String × Raw)) (fuel depth : Nat)
    (acc : List (String × Raw)) (more : List UInt8), ms ≠ [] → Value.PlainMembers ms →
    (writeMembers ms).length ≤ fuel + 1 → depth + Value.depthMembers ms ≤ limit →
    parseMembers limit fuel depth acc (utf8 (writeMembers ms).tail ++ more) = .ok (.object (acc ++ ms), more)
  | (k, x) :: ms, fuel + 1, depth, acc, more, _, hr, hf, hd => by
    obtain ⟨hx, hms⟩ := id hr
    simp only [writeMembers_cons, List.length_cons, List.length_append] at hf
    rw [Value.depthMembers] at hd
    have hdx := Nat.le_max_left x.depth (Value.depthMembers ms)
    have hdms := Nat.le_max_right x.depth (Value.depthMembers ms)
    rw [writeMembers_cons, List.tail_cons]
    simp (disch := decide) only [utf8_append, utf8_flatMap_escapeRune, utf8_ascii_cons, List.append_assoc,
      List.cons_append, show byte '"'.toNat = byte 34 from rfl]
    rw [parseMembers, scanString_body]
    simp only [bind, Except.bind]
    rw [skipSpace_ascii (by decide) (by decide)]
    simp only []
    rw [if_pos (by decide),
      parseValue_writeValue x fuel depth _ hx (by omega) (by omega) (delimited_membersTail ms more)]
    simp only [bind, Except.bind, readString_body]
    cases ms with
    | nil =>
      rw [writeMembersTail, utf8_ascii_cons (by decide), utf8_nil, List.cons_append, List.nil_append,
        skipSpace_ascii (by decide) (by decide)]
      simp only []
      rw [if_neg (by decide), if_pos (by decide)]
    | cons m ms =>
      obtain ⟨k', x'⟩ := m
      rw [writeMembersTail_cons, List.length_cons] at hf
      rw [writeMembersTail_cons, writeMembers_quote, utf8_ascii_cons (by decide), utf8_ascii_cons (by decide),
        List.cons_append, List.cons_append, skipSpace_ascii (by decide) (by decide)]
      simp only []
      rw [if_pos (by decide), skipSpace_ascii (by decide) (by decide)]
      simp only []
      rw [if_pos (by decide), parseMembers_writeMembers ((k', x') :: ms) fuel depth (acc ++ [(k, x)]) more
        (List.cons_ne_nil _ _) hms (by omega) (by omega), List.append_assoc, List.singleton_append]
  | [], _, _, _, _, hne, _, _, _ => absurd rfl hne
  | (k, x) :: ms, 0, _, _, _, _, _, hf, _ => by
    simp [writeMembers, quoteString] at hf
end

end Reader

theorem delimited_nil : Delimited [] := fun _ _ h => List.noConfusion h

theorem length_le_utf8 (cs : List Char) : cs.length ≤ (utf8 cs).length := by
  induction cs with
  | nil => exact Nat.le_refl 0
  | cons c cs ih =>
    obtain ⟨b, bs, hb⟩ := encodeRune_eq_cons c
    rw [utf8_cons, hb, List.length_append, List.length_cons, List.length_cons]
    omega

theorem parseTextWithin_writeValue {limit : Nat} {r : Raw} (hr : r.Plain) (hd : r.depth ≤ limit) :
    parseTextWithin limit (utf8 (writeValue r)) = .ok r := by
  have h := parseValue_writeValue limit r ((utf8 (writeValue r)).length + 1) 0 [] hr
    (Nat.le_succ_of_le (length_le_utf8 _)) (by omega) delimited_nil
  rw [List.append_nil] at h
  rw [parseTextWithin, h]
  rfl

theorem parseText_writeValue {r : Raw} (hr : r.Plain) (hd : r.depth ≤ maxNestingDepth) :
    parseText (utf8 (writeValue r)) = .ok r :=
  parseTextWithin_writeValue hr hd

theorem writeValue_injective {r₁ r₂ : Raw} (h₁ : r₁.Plain) (h₂ : r₂.Plain)
    (h : utf8 (writeValue r₁) = utf8 (writeValue r₂)) : r₁ = r₂ := by
  have e₁ := parseValue_writeValue (r₁.depth + r₂.depth) r₁ (utf8 (writeValue r₁)).length 0 [] h₁
    (length_le_utf8 _) (by omega) delimited_nil
  have e₂ := parseValue_writeValue (r₁.depth + r₂.depth) r₂ (utf8 (writeValue r₂)).length 0 [] h₂
    (length_le_utf8 _) (by omega) delimited_nil
  rw [h] at e₁
  have := e₁.symm.trans e₂
  injection this with h
  exact (Prod.ext_iff.mp h).1

end DidGo.Json
