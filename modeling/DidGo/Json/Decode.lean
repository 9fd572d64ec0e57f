import DidGo.Json.Canonical

namespace DidGo.Json
open DidGo.Encoding

-- encoding/json's Unmarshal. The scanner reads the whole text first (checkValid), so a syntax error or a
-- nesting deeper than 10000 is reported before anything is stored; the text is read here into a Raw tree with
-- the scanner's errors. Decoding into a Go value then runs on the tree: toInterface for interface{} targets,
-- and the struct decoders of the request model.

def maxNestingDepth : Nat := 10000

section Depth
variable {N : Type}

mutual
def Value.depth : Value N → Nat
  | .null => 0
  | .bool _ => 0
  | .number _ => 0
  | .string _ => 0
  | .strings _ => 1
  | .array xs => Value.depthElements xs + 1
  | .object ms => Value.depthMembers ms + 1

def Value.depthElements : List (Value N) → Nat
  | [] => 0
  | x :: rest => max x.depth (Value.depthElements rest)

def Value.depthMembers : List (String × Value N) → Nat
  | [] => 0
  | (_, x) :: rest => max x.depth (Value.depthMembers rest)
end

theorem Value.depthElements_le {xs : List (Value N)} {n : Nat} (h : ∀ x ∈ xs, x.depth ≤ n) :
    Value.depthElements xs ≤ n := by
  induction xs with
  | nil => exact Nat.zero_le n
  | cons x rest ih =>
    rw [Value.depthElements]
    exact max_le (h x (List.mem_cons_self _ _)) (ih fun y hy => h y (List.mem_cons_of_mem _ hy))

theorem Value.depthMembers_le {ms : List (String × Value N)} {n : Nat} (h : ∀ p ∈ ms, p.2.depth ≤ n) :
    Value.depthMembers ms ≤ n := by
  induction ms with
  | nil => exact Nat.zero_le n
  | cons p rest ih =>
    obtain ⟨k, x⟩ := p
    rw [Value.depthMembers]
    exact max_le (h (k, x) (List.mem_cons_self _ _)) (ih fun q hq => h q (List.mem_cons_of_mem _ hq))

end Depth

def isByte (b : UInt8) (c : Char) : Bool := b.toNat = c.toNat

def quoteChar (b : UInt8) : String :=
  if isByte b '\'' then "'\\''"
  else if isByte b '"' then "'\"'"
  else "'" ++ quoteRune (Char.ofNat b.toNat) ++ "'"

def syntaxError (b : UInt8) (context : String) : String :=
  "invalid character " ++ quoteChar b ++ " " ++ context

def unexpectedEnd : String := "unexpected end of JSON input"

-- At the end of the input the scanner steps once more on a space: a state that refuses the space reports it,
-- the others report the unexpected end.
def atEnd (context : String) : String := syntaxError (byte 32) context

def isSpace (b : UInt8) : Bool :=
  isByte b ' ' || isByte b '\t' || isByte b '\n' || isByte b '\r'

def isDigit (b : UInt8) : Bool := 48 ≤ b.toNat && b.toNat ≤ 57

def hexValue (b : UInt8) : Option Nat :=
  if isDigit b then some (b.toNat - 48)
  else if 97 ≤ b.toNat ∧ b.toNat ≤ 102 then some (b.toNat - 87)
  else if 65 ≤ b.toNat ∧ b.toNat ≤ 70 then some (b.toNat - 55)
  else none

def skipSpace : List UInt8 → List UInt8
  | [] => []
  | b :: rest => if isSpace b then skipSpace rest else b :: rest

def expectLetters (name : String) : List Char → List UInt8 → Except String (List UInt8)
  | [], input => .ok input
  | l :: _, [] => .error (atEnd ("in literal " ++ name ++ " (expecting '" ++ l.toString ++ "')"))
  | l :: ls, b :: rest =>
    if isByte b l then expectLetters name ls rest
    else .error (syntaxError b ("in literal " ++ name ++ " (expecting '" ++ l.toString ++ "')"))

def spanDigits : List UInt8 → List UInt8 × List UInt8
  | [] => ([], [])
  | b :: rest =>
    if isDigit b then ((b :: (spanDigits rest).1), (spanDigits rest).2) else ([], b :: rest)

def scanDigits (context : String) : List UInt8 → Except String (List UInt8 × List UInt8)
  | [] => .error (atEnd context)
  | b :: rest =>
    if isDigit b then .ok (b :: (spanDigits rest).1, (spanDigits rest).2)
    else .error (syntaxError b context)

def scanExponent : List UInt8 → Except String (List UInt8 × List UInt8)
  | [] => .ok ([], [])
  | b :: rest =>
    if isByte b 'e' || isByte b 'E' then
      match rest with
      | s :: r =>
        if isByte s '+' || isByte s '-' then
          (fun (ds, r') => (b :: s :: ds, r')) <$> scanDigits "in exponent of numeric literal" r
        else (fun (ds, r') => (b :: ds, r')) <$> scanDigits "in exponent of numeric literal" rest
      | [] => .error (atEnd "in exponent of numeric literal")
    else .ok ([], b :: rest)

def scanFraction : List UInt8 → Except String (List UInt8 × List UInt8)
  | [] => .ok ([], [])
  | b :: rest =>
    if isByte b '.' then do
      let (ds, r) ← scanDigits "after decimal point in numeric literal" rest
      let (e, r') ← scanExponent r
      pure (b :: ds ++ e, r')
    else scanExponent (b :: rest)

def scanNumber (negative : Bool) : List UInt8 → Except String (List UInt8 × List UInt8)
  | [] => .error (atEnd "in numeric literal")
  | b :: rest =>
    let sign := if negative then [byte 45] else []
    if isByte b '0' then
      (fun (f, r) => (sign ++ b :: f, r)) <$> scanFraction rest
    else if isDigit b then
      (fun (f, r) => (sign ++ b :: (spanDigits rest).1 ++ f, r)) <$> scanFraction (spanDigits rest).2
    else .error (syntaxError b "in numeric literal")

def hexEscapeError : List UInt8 → String
  | [] => atEnd "in \\u hexadecimal character escape"
  | h :: r =>
    if (hexValue h).isSome then hexEscapeError r
    else syntaxError h "in \\u hexadecimal character escape"

mutual
def scanString : List UInt8 → Except String (List UInt8 × List UInt8)
  | [] => .error unexpectedEnd
  | b :: rest =>
    if isByte b '"' then .ok ([], rest)
    else if isByte b '\\' then (fun p => (b :: p.1, p.2)) <$> scanEscape rest
    else if b.toNat < 32 then .error (syntaxError b "in string literal")
    else (fun p => (b :: p.1, p.2)) <$> scanString rest

def scanEscape : List UInt8 → Except String (List UInt8 × List UInt8)
  | [] => .error (atEnd "in string escape code")
  | e :: r =>
    if "bfnrt\\/\"".toList.any (isByte e) then (fun p => (e :: p.1, p.2)) <$> scanString r
    else if isByte e 'u' then (fun p => (e :: p.1, p.2)) <$> scanUnicode r
    else .error (syntaxError e "in string escape code")

def scanUnicode : List UInt8 → Except String (List UInt8 × List UInt8)
  | h1 :: h2 :: h3 :: h4 :: r =>
    if (hexValue h1).isSome && (hexValue h2).isSome && (hexValue h3).isSome &&
        (hexValue h4).isSome then
      (fun p => (h1 :: h2 :: h3 :: h4 :: p.1, p.2)) <$> scanString r
    else .error (hexEscapeError (h1 :: h2 :: h3 :: h4 :: r))
  | r => .error (hexEscapeError r)
end

def getu4 : List UInt8 → Option (Nat × List UInt8)
  | b :: u :: h1 :: h2 :: h3 :: h4 :: r =>
    if isByte b '\\' && isByte u 'u' then
      match hexValue h1, hexValue h2, hexValue h3, hexValue h4 with
      | some a, some b, some c, some d => some (a * 4096 + b * 256 + c * 16 + d, r)
      | _, _, _, _ => none
    else none
  | _ => none

def unescape : List UInt8 → Option (Char × List UInt8)
  | b :: e :: r =>
    if isByte e 'b' then some (Char.ofNat 8, r)
    else if isByte e 'f' then some (Char.ofNat 12, r)
    else if isByte e 'n' then some ('\n', r)
    else if isByte e 'r' then some ('\r', r)
    else if isByte e 't' then some ('\t', r)
    else if isByte e 'u' then
      match getu4 (b :: e :: r) with
      | some (u, r') =>
        if 0xD800 ≤ u ∧ u < 0xE000 then
          match getu4 r' with
          | some (w, r'') =>
            if u < 0xDC00 ∧ 0xDC00 ≤ w ∧ w < 0xE000 then
              some (Char.ofNat (0x10000 + (u - 0xD800) * 1024 + (w - 0xDC00)), r'')
            else some (runeError, r')
          | none => some (runeError, r')
        else some (Char.ofNat u, r')
      | none => none
    else some (Char.ofNat e.toNat, r)
  | _ => none

-- unquote on a body the scanner accepted; the fuel bounds the steps, one per byte being enough
def unquote : Nat → List UInt8 → List Char
  | 0, _ => []
  | _, [] => []
  | fuel + 1, b :: rest =>
    if isByte b '\\' then
      match unescape (b :: rest) with
      | some (c, r) => c :: unquote fuel r
      | none => []
    else if b.toNat < 128 then Char.ofNat b.toNat :: unquote fuel rest
    else (decodeRune (b :: rest)).1 :: unquote fuel (decodeRune (b :: rest)).2

def readString (body : List UInt8) : String := ⟨unquote body.length body⟩

def asciiString (bytes : List UInt8) : String := ⟨bytes.map fun b => Char.ofNat b.toNat⟩

section Reader
variable (limit : Nat)

mutual
-- limit is the nesting the scanner allows; each call reads at least one byte, so a fuel of one more than
-- the input's length is enough
def parseValue : Nat → Nat → List UInt8 → Except String (Raw × List UInt8)
  | 0, _, _ => .error unexpectedEnd
  | fuel + 1, depth, input =>
    match skipSpace input with
    | [] => .error unexpectedEnd
    | b :: rest =>
      if isByte b '{' then
        if limit < depth + 1 then .error (syntaxError b "exceeded max depth")
        else
          match skipSpace rest with
          | [] => .error unexpectedEnd
          | c :: r =>
            if isByte c '}' then .ok (.object [], r)
            else if isByte c '"' then parseMembers fuel (depth + 1) [] r
            else .error (syntaxError c "looking for beginning of object key string")
      else if isByte b '[' then
        if limit < depth + 1 then .error (syntaxError b "exceeded max depth")
        else
          match skipSpace rest with
          | [] => .error unexpectedEnd
          | c :: r =>
            if isByte c ']' then .ok (.array [], r)
            else do
              let (x, r') ← parseValue fuel (depth + 1) (c :: r)
              parseElements fuel (depth + 1) [x] r'
      else if isByte b '"' then (fun (s, r) => (.string (readString s), r)) <$> scanString rest
      else if isByte b '-' then
        (fun (lit, r) => (.number (asciiString lit), r)) <$> scanNumber true rest
      else if isDigit b then
        (fun (lit, r) => (.number (asciiString lit), r)) <$> scanNumber false (b :: rest)
      else if isByte b 't' then (fun r => (.bool true, r)) <$> expectLetters "true" "rue".toList rest
      else if isByte b 'f' then
        (fun r => (.bool false, r)) <$> expectLetters "false" "alse".toList rest
      else if isByte b 'n' then (fun r => (.null, r)) <$> expectLetters "null" "ull".toList rest
      else .error (syntaxError b "looking for beginning of value")

def parseElements : Nat → Nat → List Raw → List UInt8 → Except String (Raw × List UInt8)
  | 0, _, _, _ => .error unexpectedEnd
  | fuel + 1, depth, acc, input =>
    match skipSpace input with
    | [] => .error unexpectedEnd
    | b :: rest =>
      if isByte b ',' then do
        let (x, r) ← parseValue fuel depth rest
        parseElements fuel depth (acc ++ [x]) r
      else if isByte b ']' then .ok (.array acc, rest)
      else .error (syntaxError b "after array element")

def parseMembers : Nat → Nat → List (String × Raw) → List UInt8 →
    Except String (Raw × List UInt8)
  | 0, _, _, _ => .error unexpectedEnd
  | fuel + 1, depth, acc, input => do
    let (key, r) ← scanString input
    match skipSpace r with
    | [] => .error unexpectedEnd
    | c :: r =>
      if isByte c ':' then do
        let (x, r') ← parseValue fuel depth r
        match skipSpace r' with
        | [] => .error unexpectedEnd
        | d :: r'' =>
          if isByte d ',' then
            match skipSpace r'' with
            | [] => .error unexpectedEnd
            | q :: r''' =>
              if isByte q '"' then parseMembers fuel depth (acc ++ [(readString key, x)]) r'''
              else .error (syntaxError q "looking for beginning of object key string")
          else if isByte d '}' then .ok (.object (acc ++ [(readString key, x)]), r'')
          else .error (syntaxError d "after object key:value pair")
      else .error (syntaxError c "after object key")
end

end Reader

def parseTextWithin (limit : Nat) (input : List UInt8) : Except String Raw := do
  let (v, rest) ← parseValue limit (input.length + 1) 0 input
  match skipSpace rest with
  | [] => pure v
  | b :: _ => .error (syntaxError b "after top-level value")

def parseText (input : List UInt8) : Except String Raw := parseTextWithin maxNestingDepth input

theorem parse_limit_irrelevant (l₁ l₂ : Nat) : ∀ fuel,
    (∀ depth input, depth + fuel ≤ l₁ → depth + fuel ≤ l₂ →
      parseValue l₁ fuel depth input = parseValue l₂ fuel depth input) ∧
    (∀ depth acc input, depth + fuel ≤ l₁ → depth + fuel ≤ l₂ →
      parseElements l₁ fuel depth acc input = parseElements l₂ fuel depth acc input) ∧
    (∀ depth acc input, depth + fuel ≤ l₁ → depth + fuel ≤ l₂ →
      parseMembers l₁ fuel depth acc input = parseMembers l₂ fuel depth acc input)
  | 0 => ⟨fun _ _ _ _ => rfl, fun _ _ _ _ _ => rfl, fun _ _ _ _ _ => rfl⟩
  | fuel + 1 => by
    obtain ⟨hv, he, hm⟩ := parse_limit_irrelevant l₁ l₂ fuel
    refine ⟨fun depth input h₁ h₂ => ?_, fun depth acc input h₁ h₂ => ?_, fun depth acc input h₁ h₂ => ?_⟩
    · have c₁ : ¬ l₁ < depth + 1 := by omega
      have c₂ : ¬ l₂ < depth + 1 := by omega
      simp only [parseValue, c₁, c₂, if_false, hv (depth + 1) _ (by omega) (by omega),
        he (depth + 1) _ _ (by omega) (by omega), hm (depth + 1) _ _ (by omega) (by omega)]
    · simp only [parseElements, hv depth _ (by omega) (by omega), he depth _ _ (by omega) (by omega)]
    · simp only [parseMembers, hv depth _ (by omega) (by omega), hm depth _ _ (by omega) (by omega)]

-- go-jose's fork of encoding/json predates the scanner's nesting limit; each level of nesting
-- opens with a byte, so a limit above the input's length is never reached
def parseTextUnbounded (input : List UInt8) : Except String Raw := parseTextWithin (input.length + 1) input

theorem parseTextWithin_of_length_lt {limit : Nat} {input : List UInt8} (h : input.length < limit) :
    parseTextWithin limit input = parseTextUnbounded input := by
  rw [parseTextUnbounded, parseTextWithin, parseTextWithin,
    (parse_limit_irrelevant limit (input.length + 1) _).1 0 input (by omega) (by omega)]

structure ErrorContext where
  struct : String := ""
  fields : List String := []

def ErrorContext.enter (ctx : ErrorContext) (struct field : String) : ErrorContext :=
  { struct := struct, fields := ctx.fields ++ [field] }

def unmarshalTypeError (value type : String) (ctx : ErrorContext) : String :=
  if ctx.struct = "" ∧ ctx.fields = [] then
    "json: cannot unmarshal " ++ value ++ " into Go value of type " ++ type
  else
    "json: cannot unmarshal " ++ value ++ " into Go struct field " ++ ctx.struct ++ "." ++
      ".".intercalate ctx.fields ++ " of type " ++ type

def Raw.kind : Raw → String
  | .null => "null"
  | .bool _ => "bool"
  | .number _ => "number"
  | .string _ => "string"
  | .strings _ => "array"
  | .array _ => "array"
  | .object _ => "object"

-- A map[string]interface{} assignment: a name already present keeps its place.
def Map.set {N : Type} (m : Map N) (k : String) (v : Value N) : Map N :=
  if m.has k then m.map fun p => if p.1 = k then (k, v) else p else m ++ [(k, v)]

section Interface
variable {N : Type} (parseFloat : String → Except String N) (ctx : ErrorContext)

mutual
-- valueInterface: a JSON value stored into an interface{}; a number is a float64 read by strconv.ParseFloat.
def toInterface : Raw → Except String (Value N)
  | .null => .ok .null
  | .bool b => .ok (.bool b)
  | .number lit =>
    match parseFloat lit with
    | .ok x => .ok (.number x)
    | .error _ => .error (unmarshalTypeError ("number " ++ lit) "float64" ctx)
  | .string s => .ok (.string s)
  | .strings xs => .ok (.strings xs)
  | .array xs => Value.array <$> toInterfaceElements xs
  | .object ms => Value.object <$> toInterfaceMembers [] ms

def toInterfaceElements : List Raw → Except String (List (Value N))
  | [] => .ok []
  | x :: rest => do
    let v ← toInterface x
    let vs ← toInterfaceElements rest
    pure (v :: vs)

def toInterfaceMembers (acc : Map N) : List (String × Raw) → Except String (Map N)
  | [] => .ok acc
  | (k, x) :: rest => do
    let v ← toInterface x
    toInterfaceMembers (Map.set acc k v) rest
end

end Interface

end DidGo.Json
