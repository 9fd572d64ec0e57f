import DidGo.Json.Value

namespace DidGo.Mocks
open DidGo.Json

structure SidetreeTxn where
  «namespace» : String
  transactionTime : Nat
  transactionNumber : Nat
  anchorString : String
  deriving DecidableEq, Repr

structure MockAnchorWriter where
  «namespace» : String
  anchors : List String
  err : Option String
  deriving DecidableEq, Repr

-- NewMockAnchorWriter; DefaultNS is declared in a file of the package outside the source tree.
def newMockAnchorWriter (defaultNS : String) (err : Option String) : MockAnchorWriter :=
  { «namespace» := defaultNS, anchors := [], err := err }

namespace MockAnchorWriter

-- WriteAnchor. The anchor documents, references and protocol version it is passed are not read.
def writeAnchor (m : MockAnchorWriter) (anchor : String) : Except String MockAnchorWriter :=
  match m.err with
  | some e => .error e
  | none => .ok { m with anchors := m.anchors ++ [anchor] }

-- Read, with Go's int as an integer: a negative index into the anchors panics.
def read (m : MockAnchorWriter) (sinceTransactionNumber : Int) : Go (Bool × Option SidetreeTxn) :=
  let moreTransactions :=
    decide (0 < m.anchors.length ∧ sinceTransactionNumber < (m.anchors.length : Int) - 2)
  if 0 < m.anchors.length ∧ sinceTransactionNumber < (m.anchors.length : Int) - 1 then
    let hashIndex := sinceTransactionNumber + 1
    if hashIndex < 0 then throw (.panic ("runtime error: index out of range [" ++ toString hashIndex ++ "]"))
    else pure (moreTransactions, some { «namespace» := m.«namespace», transactionTime := hashIndex.toNat,
                                        transactionNumber := hashIndex.toNat,
                                        anchorString := m.anchors.getD hashIndex.toNat "" })
  else pure (moreTransactions, none)

def getAnchors (m : MockAnchorWriter) : List String := m.anchors

variable {m : MockAnchorWriter} {c : Int}

theorem read_next (h0 : -1 ≤ c) (h1 : c + 1 < m.anchors.length) :
    m.read c = .ok (decide (c + 2 < m.anchors.length),
      some { «namespace» := m.«namespace», transactionTime := (c + 1).toNat, transactionNumber := (c + 1).toNat,
             anchorString := m.anchors.getD (c + 1).toNat "" }) := by
  have hflag : (0 < m.anchors.length ∧ c < (m.anchors.length : Int) - 2) ↔ c + 2 < m.anchors.length := by omega
  rw [read, if_pos (by omega), if_neg (by omega)]
  simp only [hflag, Go.pure_def]

theorem read_caught_up (h1 : (m.anchors.length : Int) ≤ c + 1) : m.read c = .ok (false, none) := by
  have hflag : ¬(0 < m.anchors.length ∧ c < (m.anchors.length : Int) - 2) := by omega
  rw [read, if_neg (by omega)]
  simp only [hflag, decide_False, Go.pure_def]

end MockAnchorWriter

-- A reader of the anchoring system as Read's contract has it: it passes the number of the last transaction it
-- read, -1 before the first, and keeps the anchors it was handed.
structure Reader where
  cursor : Int
  received : List String
  deriving DecidableEq, Repr

namespace Reader

def initial : Reader := { cursor := -1, received := [] }

def poll (r : Reader) (m : MockAnchorWriter) : Go (Bool × Reader) := do
  let (more, t) ← m.read r.cursor
  match t with
  | some t => pure (more, { cursor := t.transactionNumber, received := r.received ++ [t.anchorString] })
  | none => pure (more, r)

structure Consistent (anchors : List String) (r : Reader) : Prop where
  cursor_ge : -1 ≤ r.cursor
  cursor_lt : r.cursor < anchors.length
  received_eq : r.received = anchors.take (r.cursor + 1).toNat

theorem consistent_initial (anchors : List String) : initial.Consistent anchors :=
  ⟨by simp [initial], by simp only [initial]; omega, rfl⟩

theorem Consistent.append {anchors : List String} {r : Reader} (h : r.Consistent anchors) (a : String) :
    r.Consistent (anchors ++ [a]) where
  cursor_ge := h.cursor_ge
  cursor_lt := by have := h.cursor_lt; simp only [List.length_append, List.length_singleton]; omega
  received_eq := by rw [h.received_eq, List.take_append_of_le_length (by have := h.cursor_lt; omega)]

theorem Consistent.prefix_anchors {anchors : List String} {r : Reader} (h : r.Consistent anchors) :
    r.received <+: anchors :=
  h.received_eq ▸ List.take_prefix _ _

theorem Consistent.length_received {anchors : List String} {r : Reader} (h : r.Consistent anchors) :
    (r.received.length : Int) = r.cursor + 1 := by
  have := h.cursor_ge
  have := h.cursor_lt
  rw [h.received_eq, List.length_take]
  omega

theorem Consistent.poll {m : MockAnchorWriter} {r : Reader} (h : r.Consistent m.anchors) :
    ∃ more r', r.poll m = .ok (more, r') ∧ r'.Consistent m.anchors ∧
      r'.received.length = min (r.received.length + 1) m.anchors.length ∧
      (more = true ↔ r'.received.length < m.anchors.length) := by
  have h0 := h.cursor_ge
  have h1 := h.cursor_lt
  have hlen := h.length_received
  by_cases hc : r.cursor + 1 < m.anchors.length
  case pos =>
    have hk : (r.cursor + 1).toNat < m.anchors.length := by omega
    refine ⟨_, _, by rw [Reader.poll, MockAnchorWriter.read_next h0 hc]; rfl,
      ⟨by dsimp only; omega, by dsimp only; omega, ?_⟩, ?_, ?_⟩
    · simp only [h.received_eq, List.getD_eq_getElem?_getD, List.getElem?_eq_getElem hk, Option.getD_some]
      have hsucc : ((r.cursor + 1).toNat + 1 : Int).toNat = (r.cursor + 1).toNat + 1 := by omega
      rw [hsucc, List.take_concat_get' _ _ hk]
    · simp only [List.length_append, List.length_singleton]
      omega
    · simp only [decide_eq_true_eq, List.length_append, List.length_singleton]
      omega
  case neg =>
    have hcu : (m.anchors.length : Int) ≤ r.cursor + 1 := by omega
    refine ⟨false, r, by rw [Reader.poll, MockAnchorWriter.read_caught_up hcu]; rfl, h, by omega, ?_⟩
    simp only [Bool.false_eq_true, false_iff, not_lt]
    omega

end Reader

structure System where
  writer : MockAnchorWriter
  readers : Nat → Reader

inductive Event where
  | write (anchor : String)
  | poll (reader : Nat)
  deriving DecidableEq, Repr

def Event.anchor? : Event → Option String
  | .write anchor => some anchor
  | .poll _ => none

namespace System

def initial (defaultNS : String) (err : Option String) : System :=
  { writer := newMockAnchorWriter defaultNS err, readers := fun _ => Reader.initial }

def step (s : System) : Event → Go System
  | .write anchor =>
    match s.writer.writeAnchor anchor with
    | .ok w => pure { s with writer := w }
    | .error _ => pure s
  | .poll i => do
    let (_, r) ← (s.readers i).poll s.writer
    pure { s with readers := Function.update s.readers i r }

def run (s : System) : List Event → Go System
  | [] => pure s
  | e :: rest => do
    let s' ← s.step e
    s'.run rest

def written (err : Option String) (events : List Event) : List String :=
  if err.isNone then events.filterMap Event.anchor? else []

theorem written_cons (err : Option String) (e : Event) (events : List Event) :
    written err (e :: events) = written err [e] ++ written err events := by
  unfold written
  split <;> simp only [← List.filterMap_append, List.singleton_append, List.append_nil]

def Inv (s : System) : Prop := ∀ i, (s.readers i).Consistent s.writer.anchors

theorem inv_initial (defaultNS : String) (err : Option String) : (initial defaultNS err).Inv :=
  fun _ => Reader.consistent_initial _

theorem Inv.update {s : System} (h : s.Inv) (i : Nat) {r : Reader} (hr : r.Consistent s.writer.anchors) :
    Inv { s with readers := Function.update s.readers i r } := by
  intro j
  by_cases hj : j = i
  · subst hj
    simpa using hr
  · simpa [hj] using h j

theorem step_poll {s : System} (h : s.Inv) (i : Nat) :
    ∃ r, s.step (.poll i) = .ok { s with readers := Function.update s.readers i r } ∧
      r.Consistent s.writer.anchors ∧
      r.received.length = min ((s.readers i).received.length + 1) s.writer.anchors.length := by
  obtain ⟨more, r, hp, hr, hlen, -⟩ := (h i).poll
  exact ⟨r, by rw [step, hp]; rfl, hr, hlen⟩

theorem step_inv {s : System} (h : s.Inv) (e : Event) :
    ∃ s', s.step e = .ok s' ∧ s'.Inv ∧ s'.writer.err = s.writer.err ∧
      s'.writer.«namespace» = s.writer.«namespace» ∧
      s'.writer.anchors = s.writer.anchors ++ written s.writer.err [e] := by
  cases e with
  | write anchor =>
    cases he : s.writer.err with
    | some msg =>
      refine ⟨s, by simp [step, MockAnchorWriter.writeAnchor, he], h, he, rfl, by simp [written]⟩
    | none =>
      refine ⟨{ s with writer := { s.writer with anchors := s.writer.anchors ++ [anchor] } },
        by simp only [step, MockAnchorWriter.writeAnchor, he]; rfl, fun i => Reader.Consistent.append (h i) anchor, he, rfl,
        by simp [written, Event.anchor?]⟩
  | poll i =>
    obtain ⟨r, hp, hr, -⟩ := step_poll h i
    exact ⟨_, hp, h.update i hr, rfl, rfl, by simp [written, Event.anchor?]⟩

theorem run_inv {s : System} (h : s.Inv) :
    ∀ events, ∃ s', s.run events = .ok s' ∧ s'.Inv ∧ s'.writer.err = s.writer.err ∧
      s'.writer.anchors = s.writer.anchors ++ written s.writer.err events
  | [] => ⟨s, rfl, h, rfl, by simp [written]⟩
  | e :: rest => by
    obtain ⟨s₁, h₁, hi₁, he₁, -, ha₁⟩ := step_inv h e
    obtain ⟨s₂, h₂, hi₂, he₂, ha₂⟩ := run_inv hi₁ rest
    refine ⟨s₂, by rw [run, h₁]; exact h₂, hi₂, he₂.trans he₁, ?_⟩
    rw [ha₂, ha₁, he₁, List.append_assoc, ← written_cons]

theorem run_reads_prefix (defaultNS : String) (err : Option String) (events : List Event) :
    ∃ s, (initial defaultNS err).run events = .ok s ∧ s.writer.getAnchors = written err events ∧
      ∀ i, (s.readers i).received <+: s.writer.getAnchors ∧
        (s.readers i).cursor = (s.readers i).received.length - 1 := by
  obtain ⟨s, hs, hinv, -, ha⟩ := run_inv (inv_initial defaultNS err) events
  exact ⟨s, hs, ha, fun i => ⟨(hinv i).prefix_anchors, by have := (hinv i).length_received; omega⟩⟩

theorem run_poll_flag (defaultNS : String) (err : Option String) (events : List Event) (i : Nat) :
    ∃ s more r, (initial defaultNS err).run events = .ok s ∧ (s.readers i).poll s.writer = .ok (more, r) ∧
      (more = false ↔ r.received = s.writer.getAnchors) := by
  obtain ⟨s, hs, hinv, -, -⟩ := run_inv (inv_initial defaultNS err) events
  obtain ⟨more, r, hp, hr, -, hmore⟩ := (hinv i).poll
  refine ⟨s, more, r, hs, hp, ?_⟩
  rw [← Bool.not_eq_true, hmore, not_lt]
  exact ⟨fun hle => hr.prefix_anchors.eq_of_length (le_antisymm hr.prefix_anchors.length_le hle),
    fun heq => (congrArg List.length heq).ge⟩

theorem run_polls {s : System} (h : s.Inv) (i : Nat) :
    ∀ n, ∃ s', s.run (List.replicate n (.poll i)) = .ok s' ∧ s'.Inv ∧ s'.writer = s.writer ∧
      (s'.readers i).received.length = min ((s.readers i).received.length + n) s.writer.anchors.length
  | 0 => ⟨s, rfl, h, rfl, by have := (h i).length_received; have := (h i).cursor_lt; omega⟩
  | n + 1 => by
    obtain ⟨r, hp, hr, hlen⟩ := step_poll h i
    obtain ⟨s', hs', hi', hw', hlen'⟩ := run_polls (h.update i hr) i n
    refine ⟨s', by rw [List.replicate_succ, run, hp]; exact hs', hi', hw', ?_⟩
    simp only [Function.update_same] at hlen'
    rw [hlen', hlen]
    omega

theorem run_polls_catch_up (defaultNS : String) (err : Option String) (events : List Event) (i n : Nat)
    (hn : (written err events).length ≤ n) :
    ∃ s s', (initial defaultNS err).run events = .ok s ∧ s.run (List.replicate n (.poll i)) = .ok s' ∧
      (s'.readers i).received = s'.writer.getAnchors := by
  obtain ⟨s, hs, hinv, -, ha⟩ := run_inv (inv_initial defaultNS err) events
  obtain ⟨s', hs', hinv', hw, hlen⟩ := run_polls hinv i n
  refine ⟨s, s', hs, hs', (hinv' i).prefix_anchors.eq_of_length ?_⟩
  rw [hlen, hw, ha]
  simp only [initial, newMockAnchorWriter, List.nil_append]
  omega

theorem run_polls_catch_up_two :
    (written none [.write "a", .poll 0, .write "b"]).length ≤ 2 ∧
      ∃ s s', (initial "did:sidetree" none).run [.write "a", .poll 0, .write "b"] = .ok s ∧
        s.run (List.replicate 2 (.poll 0)) = .ok s' ∧ (s'.readers 0).received = s'.writer.getAnchors :=
  ⟨by decide, run_polls_catch_up "did:sidetree" none [.write "a", .poll 0, .write "b"] 0 2 (by decide)⟩

end System

end DidGo.Mocks
