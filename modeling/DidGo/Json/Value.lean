import Mathlib.Data.List.Basic

namespace DidGo.Json

inductive Value (N : Type) where
  | null
  | bool (b : Bool)
  | number (x : N)
  | string (s : String)
  | strings (xs : List String)
  | array (xs : List (Value N))
  | object (fields : List (String × Value N))
  deriving Repr

abbrev Map (N : Type) := List (String × Value N)

def Map.get {N : Type} (m : Map N) (k : String) : Option (Value N) := m.lookup k

def Map.has {N : Type} (m : Map N) (k : String) : Bool := (m.get k).isSome

def Map.keys {N : Type} (m : Map N) : List String := m.map Prod.fst

mutual
def Value.deepEqual {N : Type} [DecidableEq N] : Value N → Value N → Bool
  | .null, w => match w with | .null => true | _ => false
  | .bool a, w => match w with | .bool b => a == b | _ => false
  | .number a, w => match w with | .number b => decide (a = b) | _ => false
  | .string a, w => match w with | .string b => a == b | _ => false
  | .strings a, w => match w with | .strings b => a == b | _ => false
  | .array a, w => match w with | .array b => Value.sliceEqual a b | _ => false
  | .object a, w => match w with
    | .object b => a.length == b.length && Value.mapEqual a b
    | _ => false

def Value.sliceEqual {N : Type} [DecidableEq N] : List (Value N) → List (Value N) → Bool
  | [], ys => ys.isEmpty
  | x :: xs, ys => match ys with
    | y :: ys => Value.deepEqual x y && Value.sliceEqual xs ys
    | [] => false

def Value.mapEqual {N : Type} [DecidableEq N] : Map N → Map N → Bool
  | [], _ => true
  | (k, v) :: rest, b =>
    (match b.lookup k with
      | some w => Value.deepEqual v w
      | none => false) && Value.mapEqual rest b
end

def hexDigit (n : Nat) : Char := if n < 10 then Char.ofNat (48 + n) else Char.ofNat (87 + n)

-- strconv.Quote of one rune. Of the runes above the ASCII range, only those of U+0080 to U+00FF are told
-- apart: the controls, the no-break space and the soft hyphen are escaped.
def quoteRune (c : Char) : String :=
  if c = '"' then "\\\"" else if c = '\\' then "\\\\"
  else if c.toNat = 7 then "\\a" else if c.toNat = 8 then "\\b" else if c.toNat = 12 then "\\f"
  else if c = '\n' then "\\n" else if c = '\r' then "\\r" else if c = '\t' then "\\t"
  else if c.toNat = 11 then "\\v"
  else if c.toNat < 32 ∨ c.toNat = 127 then
    "\\x" ++ (hexDigit (c.toNat / 16)).toString ++ (hexDigit (c.toNat % 16)).toString
  else if (128 ≤ c.toNat ∧ c.toNat ≤ 160) ∨ c.toNat = 173 then
    "\\u00" ++ (hexDigit (c.toNat / 16)).toString ++ (hexDigit (c.toNat % 16)).toString
  else c.toString

def quote (s : String) : String := "\"" ++ String.join (s.toList.map quoteRune) ++ "\""

def stringEntry {N : Type} : Option (Value N) → String
  | some (.string s) => s
  | _ => ""

theorem Except.bind_ok_iff {ε α : Type} {x : Except ε Unit} {f : Unit → Except ε α} {a : α} :
    (x >>= f) = .ok a ↔ x = .ok () ∧ f () = .ok a := by
  cases x <;> simp [bind, Except.bind]

theorem Except.forM_ok_iff {ε α : Type} (l : List α) (f : α → Except ε Unit) :
    l.forM f = .ok () ↔ ∀ x ∈ l, f x = .ok () := by
  induction l with
  | nil => simp [List.forM, pure, Except.pure]
  | cons x rest ih => simp [List.forM, Except.bind_ok_iff, ih]

def check (c : Bool) (e : String) : Except String Unit := if c then .ok () else .error e

@[simp] theorem check_ok_iff (c : Bool) (e : String) : check c e = .ok () ↔ c = true := by
  cases c <;> simp [check]

def prefixError (p : String) : Except String Unit → Except String Unit
  | .error e => .error (p ++ e)
  | .ok () => .ok ()

@[simp] theorem prefixError_ok_iff (p : String) (x : Except String Unit) :
    prefixError p x = .ok () ↔ x = .ok () := by
  cases x <;> simp [prefixError]

instance Except.instDecidableEq {ε α : Type} [DecidableEq ε] [DecidableEq α] : DecidableEq (Except ε α)
  | .error a, .error b => if h : a = b then isTrue (h ▸ rfl) else isFalse fun e => h (Except.error.inj e)
  | .ok a, .ok b => if h : a = b then isTrue (h ▸ rfl) else isFalse fun e => h (Except.ok.inj e)
  | .error _, .ok _ => isFalse fun e => Except.noConfusion e
  | .ok _, .error _ => isFalse fun e => Except.noConfusion e

inductive GoFailure where
  | error (e : String)
  | panic (msg : String)
  deriving DecidableEq, Repr

abbrev Go (α : Type) := Except GoFailure α

@[simp] theorem Go.throw_def {α : Type} (f : GoFailure) : (throw f : Go α) = .error f := rfl

@[simp] theorem Go.pure_def {α : Type} (a : α) : (pure a : Go α) = .ok a := rfl

@[simp] theorem Go.bind_ok {α β : Type} (a : α) (f : α → Go β) : ((.ok a : Go α) >>= f) = f a := rfl

@[simp] theorem Go.bind_error {α β : Type} (e : GoFailure) (f : α → Go β) :
    ((.error e : Go α) >>= f) = .error e := rfl

def nilDereference : GoFailure :=
  .panic "runtime error: invalid memory address or nil pointer dereference"

def liftError {α : Type} : Except String α → Go α
  | .ok a => .ok a
  | .error e => .error (.error e)

@[simp] theorem liftError_ok_iff {α : Type} (x : Except String α) (a : α) :
    liftError x = .ok a ↔ x = .ok a := by
  cases x <;> simp [liftError]

theorem Except.bind_eq_ok_iff {ε α β : Type} {x : Except ε α} {f : α → Except ε β} {b : β} :
    (x >>= f) = .ok b ↔ ∃ a, x = .ok a ∧ f a = .ok b := by
  cases x <;> simp [bind, Except.bind]

theorem Except.map_eq_ok_iff {ε α β : Type} {x : Except ε α} {f : α → β} {b : β} :
    (f <$> x) = .ok b ↔ ∃ a, x = .ok a ∧ f a = b := by
  cases x <;> simp [Functor.map, Except.map]

@[simp] theorem Except.mapError_eq_ok_iff {ε ε' α : Type} {f : ε → ε'} {x : Except ε α} {a : α} :
    x.mapError f = .ok a ↔ x = .ok a := by
  cases x <;> simp [Except.mapError]

@[simp] theorem Except.map_const_eq_ok_iff {ε α : Type} {x : Except ε Unit} {a b : α} :
    ((fun _ => a) <$> x) = .ok b ↔ x = .ok () ∧ a = b := by
  cases x <;> simp [Functor.map, Except.map]

@[simp] theorem Except.exists_ok_unit {ε : Type} (x : Except ε Unit) :
    (∃ u, x = .ok u) ↔ x = .ok () :=
  ⟨fun ⟨(), h⟩ => h, fun h => ⟨(), h⟩⟩

end DidGo.Json
