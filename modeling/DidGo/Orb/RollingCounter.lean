import Mathlib.Logic.Relation
import Mathlib.Data.List.Perm.Subperm
import Mathlib.Data.List.Nodup
import Mathlib.Algebra.Order.Ring.Int
import Mathlib.Data.Int.ModEq
import Mathlib.Tactic.NormNum

namespace DidGo.Orb

def toInt32 (i : Int) : Int := i.bmod (2 ^ 32)

theorem toInt32_bounds (i : Int) : -2 ^ 31 ≤ toInt32 i ∧ toInt32 i < 2 ^ 31 := by
  have h1 := Int.emod_nonneg i (by decide : ((2 ^ 32 : Nat) : Int) ≠ 0)
  have h2 := Int.emod_lt_of_pos i (by decide : (0 : Int) < ((2 ^ 32 : Nat) : Int))
  simp only [toInt32, Int.bmod]
  norm_num at h1 h2 ⊢
  split <;> omega

theorem toInt32_of_bounds {i : Int} (h1 : -2 ^ 31 ≤ i) (h2 : i < 2 ^ 31) : toInt32 i = i := by
  simp only [toInt32, Int.bmod]
  norm_num
  split <;> omega

structure Counter where
  index : Int
  isInt32 : -2 ^ 31 ≤ index ∧ index < 2 ^ 31

def Counter.new : Counter := ⟨-1, by decide⟩

def Counter.store (i : Int) : Counter := ⟨toInt32 i, toInt32_bounds i⟩

def next (n current r : Int) : Int :=
  if current = -1 then r else if current + 1 ≥ n then 0 else current + 1

inductive Phase where
  | idle
  | load (n : Int)
  | cas (n current i : Int)
  | done (i : Int)
  deriving DecidableEq, Repr

structure System where
  counter : Counter
  threads : Nat → Phase
  log : List (Nat × Int)

def System.init : System := ⟨Counter.new, fun _ => .idle, []⟩

def System.set (s : System) (g : Nat) (p : Phase) : System :=
  { s with threads := Function.update s.threads g p }

@[simp] theorem System.set_counter (s : System) (g : Nat) (p : Phase) :
    (s.set g p).counter = s.counter := rfl

@[simp] theorem System.set_log (s : System) (g : Nat) (p : Phase) :
    (s.set g p).log = s.log := rfl

@[simp] theorem System.set_threads (s : System) (g h : Nat) (p : Phase) :
    (s.set g p).threads h = if h = g then p else s.threads h := by
  simp [System.set, Function.update_apply]

def System.complete (s : System) (g : Nat) (i : Int) : System :=
  ⟨Counter.store i, (s.set g (.done i)).threads, s.log ++ [(g, i)]⟩

@[simp] theorem System.complete_counter (s : System) (g : Nat) (i : Int) :
    (s.complete g i).counter = Counter.store i := rfl

@[simp] theorem System.complete_log (s : System) (g : Nat) (i : Int) :
    (s.complete g i).log = s.log ++ [(g, i)] := rfl

@[simp] theorem System.complete_threads (s : System) (g h : Nat) (i : Int) :
    (s.complete g i).threads h = if h = g then .done i else s.threads h :=
  System.set_threads s g h _

inductive Step (arg : Int → Prop) : System → System → Prop
  | call {s : System} {g : Nat} {n : Int} (hg : s.threads g = .idle ∨ ∃ i, s.threads g = .done i)
      (hn : arg n) : Step arg s (s.set g (.load n))
  | load {s : System} {g : Nat} {n r : Int} (hg : s.threads g = .load n) (hr : 0 ≤ r ∧ r < n) :
      Step arg s (s.set g (.cas n s.counter.index (next n s.counter.index r)))
  | swap {s : System} {g : Nat} {n c i : Int} (hg : s.threads g = .cas n c i)
      (hc : s.counter.index = c) :
      Step arg s (s.complete g i)
  | retry {s : System} {g : Nat} {n c i : Int} (hg : s.threads g = .cas n c i)
      (hc : s.counter.index ≠ c) : Step arg s (s.set g (.load n))

def Reachable (arg : Int → Prop) (s : System) : Prop :=
  Relation.ReflTransGen (Step arg) System.init s

def rounds (r n : Int) (len : Nat) : List Int :=
  (List.range len).map (fun k : Nat => (r + k) % n)

@[simp] theorem length_rounds (r n : Int) (len : Nat) : (rounds r n len).length = len := by
  simp only [rounds, List.length_map, List.length_range]

theorem getElem_rounds (r n : Int) {len k : Nat} (h : k < (rounds r n len).length) :
    (rounds r n len)[k] = (r + k) % n := by
  simp only [rounds, List.getElem_map, List.getElem_range]

theorem rounds_succ (r n : Int) (len : Nat) :
    rounds r n (len + 1) = rounds r n len ++ [(r + len) % n] := by
  simp [rounds, List.range_succ]

theorem mem_rounds {r n v : Int} {len : Nat} (hn : 0 < n)
    (h : v ∈ rounds r n len) : 0 ≤ v ∧ v < n := by
  obtain ⟨k, -, rfl⟩ := List.mem_map.mp h
  exact ⟨Int.emod_nonneg _ hn.ne', Int.emod_lt_of_pos _ hn⟩

theorem next_emod {n : Int} (a r : Int) (hn : 0 < n) :
    next n (a % n) r = (a + 1) % n := by
  have h0 := Int.emod_nonneg a hn.ne'
  have h1 := Int.emod_lt_of_pos a hn
  have hq : (a + 1) % n = (a % n + 1) % n := by
    conv_lhs => rw [← Int.emod_add_ediv a n]
    rw [add_right_comm, Int.add_mul_emod_self_left]
  rw [hq, next, if_neg (by omega)]
  split
  · rw [show a % n + 1 = n by omega, Int.emod_self]
  · exact (Int.emod_eq_of_lt (by omega) (by omega)).symm

def PhaseOk (n : Int) : Phase → Prop
  | .load m => m = n
  | .cas m c i => m = n ∧ (c = -1 ∧ 0 ≤ i ∧ i < n ∨ 0 ≤ c ∧ c < n ∧ i = next n c 0)
  | _ => True

def DoneLogged (s : System) : Prop :=
  ∀ g i, s.threads g = .done i → ∃ L₁ L₂, s.log = L₁ ++ (g, i) :: L₂ ∧ ∀ e ∈ L₂, e.1 ≠ g

structure Linearized (n : Int) (s : System) : Prop where
  values : ∃ r, 0 ≤ r ∧ r < n ∧ s.log.map Prod.snd = rounds r n s.log.length
  index : s.counter.index = (s.log.getLast?.map Prod.snd).getD (-1)
  threads : ∀ g, PhaseOk n (s.threads g)
  done : DoneLogged s

theorem linearized_init {n : Int} (hn : 0 < n) : Linearized n System.init where
  values := ⟨0, le_refl _, hn, rfl⟩
  index := rfl
  threads _ := trivial
  done _ _ h := Phase.noConfusion h

theorem doneLogged_set {s : System} {g : Nat} {p : Phase} (hs : DoneLogged s) (hp : ∀ i, p ≠ .done i) :
    DoneLogged (s.set g p) := by
  intro h i hi
  rw [System.set_threads] at hi
  split at hi
  · exact absurd hi (hp i)
  · exact hs h i hi

theorem doneLogged_complete {s : System} {g : Nat} {i : Int} (hs : DoneLogged s) :
    DoneLogged (s.complete g i) := by
  intro h j hj
  rw [System.complete_threads] at hj
  split at hj
  next hhg =>
    cases hj
    exact ⟨s.log, [], by rw [System.complete_log, hhg], by simp⟩
  next hhg =>
    obtain ⟨L₁, L₂, hl, hL₂⟩ := hs h j hj
    refine ⟨L₁, L₂ ++ [(g, i)], by simp [hl], ?_⟩
    simp only [List.mem_append, List.mem_singleton]
    rintro e (he | rfl)
    · exact hL₂ e he
    · exact Ne.symm hhg

theorem phaseOk_set {n : Int} {s : System} {g : Nat} {p : Phase}
    (hs : ∀ h, PhaseOk n (s.threads h)) (hp : PhaseOk n p) (h : Nat) :
    PhaseOk n ((s.set g p).threads h) := by
  rw [System.set_threads]
  split
  · exact hp
  · exact hs h

theorem Linearized.index_cases {n : Int} {s : System} (hn : 0 < n) (h : Linearized n s) :
    s.log = [] ∧ s.counter.index = -1 ∨ s.log ≠ [] ∧ 0 ≤ s.counter.index ∧ s.counter.index < n := by
  obtain ⟨r, -, -, hv⟩ := h.values
  rcases List.eq_nil_or_concat s.log with hl | ⟨L, b, hl⟩
  · exact .inl ⟨hl, by simp [h.index, hl]⟩
  · have hb : b.2 ∈ rounds r n s.log.length := by rw [← hv, hl]; simp
    exact .inr ⟨by simp [hl], by simpa [h.index, hl] using mem_rounds hn hb⟩

theorem Linearized.last_value {n : Int} {s : System} {r : Int} {L : List (Nat × Int)}
    {b : Nat × Int} (h : s.log = L ++ [b]) (hv : s.log.map Prod.snd = rounds r n s.log.length) :
    b.2 = (r + L.length) % n := by
  rw [h, List.length_append, List.length_singleton, rounds_succ, List.map_append] at hv
  exact (List.append_inj' hv (by simp)).2 |> List.singleton_inj.mp

theorem next_of_ne {n c : Int} (r r' : Int) (hc : c ≠ -1) : next n c r = next n c r' := by
  simp [next, hc]

theorem next_bounds {n c : Int} (hc : 0 ≤ c) (hcn : c < n) : 0 ≤ next n c 0 ∧ next n c 0 < n := by
  simp only [next, if_neg (by omega : c ≠ -1)]
  split <;> omega

theorem PhaseOk.cas_bounds {n m c i : Int} (h : PhaseOk n (.cas m c i)) : 0 ≤ i ∧ i < n := by
  obtain ⟨-, ⟨-, hi⟩ | ⟨hc0, hcn, rfl⟩⟩ := h
  · exact hi
  · exact next_bounds hc0 hcn

theorem linearized_swap {n : Int} (hn : 0 < n) {s : System} {g : Nat} {c i : Int}
    (h : Linearized n s) (hci : c = -1 ∧ 0 ≤ i ∧ i < n ∨ 0 ≤ c ∧ c < n ∧ i = next n c 0)
    (hc : s.counter.index = c) :
    ∃ r, 0 ≤ r ∧ r < n ∧ (s.complete g i).log.map Prod.snd = rounds r n (s.complete g i).log.length := by
  obtain ⟨r, hr0, hrn, hv⟩ := h.values
  rcases h.index_cases hn with ⟨hl, hidx⟩ | ⟨hl, hidx0, -⟩
  · have hi : 0 ≤ i ∧ i < n := by
      rcases hci with ⟨-, hi⟩ | ⟨hc0, -, -⟩
      · exact hi
      · omega
    refine ⟨i, hi.1, hi.2, ?_⟩
    rw [System.complete_log, hl]
    show [i] = [(i + ((0 : Nat) : Int)) % n]
    simp [Int.emod_eq_of_lt hi.1 hi.2]
  · obtain ⟨L, b, hLb⟩ := (List.eq_nil_or_concat s.log).resolve_left hl
    rw [List.concat_eq_append] at hLb
    have hb := Linearized.last_value hLb hv
    have hidx : s.counter.index = b.2 := by simp [h.index, hLb]
    have hnext : i = (r + (L.length + 1 : Nat)) % n := by
      rcases hci with ⟨hc1, -⟩ | ⟨-, -, rfl⟩
      · omega
      · rw [← hc, hidx, hb, next_emod _ _ hn]; congr 1; push_cast; omega
    refine ⟨r, hr0, hrn, ?_⟩
    rw [System.complete_log, List.map_append, hv, List.length_append, List.length_singleton,
      rounds_succ, hnext, hLb]
    simp

theorem linearized_step {n : Int} (hn : 0 < n) (hmax : n ≤ 2 ^ 31 - 1) {s s' : System}
    (h : Linearized n s) (hs : Step (· = n) s s') : Linearized n s' := by
  cases hs with
  | call hg harg => exact ⟨h.values, h.index, phaseOk_set h.threads harg, doneLogged_set h.done fun _ => nofun⟩
  | @load g m r hg hr =>
    have hm : m = n := by simpa [PhaseOk, hg] using h.threads g
    subst m
    refine ⟨h.values, h.index, phaseOk_set h.threads ⟨rfl, ?_⟩, doneLogged_set h.done fun _ => nofun⟩
    rcases h.index_cases hn with ⟨-, hi⟩ | ⟨-, hi0, hi1⟩
    · exact .inl ⟨hi, by simpa [next, hi] using hr⟩
    · exact .inr ⟨hi0, hi1, next_of_ne r 0 (by omega)⟩
  | @swap g m c i hg hc =>
    have hp : PhaseOk n (.cas m c i) := hg ▸ h.threads g
    have hi := hp.cas_bounds
    have hstore : (Counter.store i).index = i := toInt32_of_bounds (by omega) (by omega)
    exact ⟨linearized_swap hn h hp.2 hc, by simp [hstore], phaseOk_set h.threads trivial, doneLogged_complete h.done⟩
  | @retry g m c i hg hc =>
    have hp : PhaseOk n (.cas m c i) := hg ▸ h.threads g
    exact ⟨h.values, h.index, phaseOk_set h.threads hp.1, doneLogged_set h.done fun _ => nofun⟩

theorem linearized_of_reachable {n : Int} (hn : 0 < n) (hmax : n ≤ 2 ^ 31 - 1) {s : System}
    (hs : Reachable (· = n) s) : Linearized n s := by
  induction hs with
  | refl => exact linearized_init hn
  | tail _ hstep ih => exact linearized_step hn hmax ih hstep

theorem rounds_window (r n : Int) {len j w : Nat} (h : j + w ≤ len) :
    ((rounds r n len).drop j).take w = (List.range w).map (fun k : Nat => (r + j + k) % n) := by
  apply List.ext_getElem
  · simp; omega
  · intro k _ _
    rw [List.getElem_take, List.getElem_drop, getElem_rounds, List.getElem_map, List.getElem_range]
    congr 1; push_cast; omega

theorem window_perm {n : Nat} (hn : 0 < n) (a : Int) :
    List.Perm ((List.range n).map (fun k : Nat => (a + k) % (n : Int)))
      ((List.range n).map (fun k : Nat => (k : Int))) := by
  have hnodup : ((List.range n).map (fun k : Nat => (a + k) % (n : Int))).Nodup := by
    refine (List.nodup_range n).map_on fun x hx y hy hxy => ?_
    have h := Int.ModEq.add_left_cancel' a hxy
    rw [List.mem_range] at hx hy
    unfold Int.ModEq at h
    rw [Int.emod_eq_of_lt (by omega) (by omega), Int.emod_eq_of_lt (by omega) (by omega)] at h
    exact_mod_cast h
  refine (hnodup.subperm fun v hv => ?_).perm_of_length_le (by simp)
  obtain ⟨k, -, rfl⟩ := List.mem_map.mp hv
  have h0 := Int.emod_nonneg (a + k) (by omega : (n : Int) ≠ 0)
  have h1 := Int.emod_lt_of_pos (a + k) (by omega : (0 : Int) < n)
  exact List.mem_map.mpr ⟨((a + k) % n).toNat, List.mem_range.mpr (by omega), by omega⟩

def RoundRobin.choose (domains : List String) (i : Int) : Option String :=
  if domains = [] then some "" else if 0 ≤ i then domains[i.toNat]? else none

theorem choose_range {domains : List String} (hd : domains ≠ []) :
    (List.range domains.length).map (fun k : Nat => RoundRobin.choose domains k) =
      domains.map some := by
  apply List.ext_getElem <;> simp [RoundRobin.choose, hd]

theorem next_round_robin {n : Nat} (hn : 0 < n) (hmax : n ≤ 2 ^ 31 - 1) {s : System}
    (hs : Reachable (· = (n : Int)) s) :
    (∀ g m c i, s.threads g = .cas m c i → (Counter.store i).index = i) ∧
    (∀ s', Step (· = (n : Int)) s s' → s'.counter = s.counter ∧ s'.log = s.log ∨
      ∃ g, s'.log = s.log ++ [(g, s'.counter.index)] ∧ s'.threads g = .done s'.counter.index) ∧
    (∀ g i, s.threads g = .done i → ∃ L₁ L₂, s.log = L₁ ++ (g, i) :: L₂ ∧ ∀ e ∈ L₂, e.1 ≠ g) ∧
    s.counter.index = (s.log.getLast?.map Prod.snd).getD (-1) ∧
    (∃ r : Int, 0 ≤ r ∧ r < n ∧ s.log.map Prod.snd = rounds r n s.log.length) ∧
    (∀ j, j + n ≤ s.log.length → List.Perm (((s.log.drop j).take n).map Prod.snd)
      ((List.range n).map (fun k : Nat => (k : Int)))) ∧
    (∀ domains : List String, domains.length = n → ∀ j, j + n ≤ s.log.length →
      List.Perm (((s.log.drop j).take n).map (fun e => RoundRobin.choose domains e.2))
        (domains.map some)) := by
  have h := linearized_of_reachable (by omega) (by omega) hs
  have hstore : ∀ g m c i, s.threads g = .cas m c i → (Counter.store i).index = i := by
    intro g m c i hg
    have hi := (hg ▸ h.threads g : PhaseOk n (.cas m c i)).cas_bounds
    exact toInt32_of_bounds (by omega) (by omega)
  obtain ⟨r, hr0, hrn, hv⟩ := h.values
  have hwin : ∀ j, j + n ≤ s.log.length → List.Perm (((s.log.drop j).take n).map Prod.snd)
      ((List.range n).map (fun k : Nat => (k : Int))) := by
    intro j hj
    rw [List.map_take, List.map_drop, hv, rounds_window _ _ hj]
    exact window_perm hn (r + j)
  refine ⟨hstore, ?_, h.done, h.index, ⟨r, hr0, hrn, hv⟩, hwin, ?_⟩
  · intro s' hstep
    cases hstep with
    | call => exact .inl ⟨rfl, rfl⟩
    | load => exact .inl ⟨rfl, rfl⟩
    | @swap g m c i hg _ =>
      have hi : (s.complete g i).counter.index = i := by rw [System.complete_counter, hstore g m c i hg]
      exact .inr ⟨g, by rw [hi]; rfl, by rw [hi, System.complete_threads, if_pos rfl]⟩
    | retry => exact .inl ⟨rfl, rfl⟩
  · intro domains hd j hj
    have hne : domains ≠ [] := by rintro rfl; simp at hd; omega
    have h2 := (hwin j hj).map (RoundRobin.choose domains)
    simp only [List.map_map, Function.comp_def] at h2
    subst hd
    rwa [choose_range hne] at h2

def twoCalls : System :=
  ((((((System.init.set 0 (.load 2)).set 0 (.cas 2 (-1) 1)).complete 0 1).set 1 (.load 2)).set 1
    (.cas 2 1 0)).complete 1 0)

theorem next_round_robin_two_calls :
    Reachable (· = ((2 : Nat) : Int)) twoCalls ∧ twoCalls.threads 0 = .done 1 ∧ twoCalls.threads 1 = .done 0 ∧
      twoCalls.log = [(0, 1), (1, 0)] ∧
      ∀ g i, twoCalls.threads g = .done i → ∃ L₁ L₂, twoCalls.log = L₁ ++ (g, i) :: L₂ ∧ ∀ e ∈ L₂, e.1 ≠ g :=
  have h : Reachable (· = ((2 : Nat) : Int)) twoCalls :=
    .tail (.tail (.tail (.tail (.tail (.single (Step.call (g := 0) (n := 2) (.inl rfl) rfl))
      (Step.load (g := 0) (n := 2) (r := 1) rfl (by decide)))
      (Step.swap (g := 0) (n := 2) (c := -1) (i := 1) rfl rfl))
      (Step.call (g := 1) (n := 2) (.inl rfl) rfl))
      (Step.load (g := 1) (n := 2) (r := 0) rfl (by decide)))
      (Step.swap (g := 1) (n := 2) (c := 1) (i := 0) rfl (by decide))
  ⟨h, rfl, rfl, rfl, (next_round_robin (by decide) (by decide) h).2.2.1⟩

def PhaseInRange : Phase → Prop
  | .load n => 0 < n ∧ n ≤ 2 ^ 31
  | .cas n _ i => 0 < n ∧ n ≤ 2 ^ 31 ∧ 0 ≤ i ∧ i < n
  | _ => True

structure InRange (s : System) : Prop where
  index : s.counter.index = -1 ∨ 0 ≤ s.counter.index
  threads : ∀ g, PhaseInRange (s.threads g)

theorem inRange_set {s : System} {g : Nat} {p : Phase} (hs : ∀ h, PhaseInRange (s.threads h))
    (hp : PhaseInRange p) (h : Nat) : PhaseInRange ((s.set g p).threads h) := by
  rw [System.set_threads]
  split
  · exact hp
  · exact hs h

theorem inRange_step {s s' : System} (h : InRange s) (hs : Step (fun n => 0 < n ∧ n ≤ 2 ^ 31) s s') :
    InRange s' := by
  cases hs with
  | call _ harg => exact ⟨h.index, inRange_set h.threads harg⟩
  | @load g m r hg hr =>
    have hm : 0 < m ∧ m ≤ 2 ^ 31 := by simpa [PhaseInRange, hg] using h.threads g
    refine ⟨h.index, inRange_set h.threads ⟨hm.1, hm.2, ?_⟩⟩
    unfold next
    rcases h.index with hi | hi
    · simpa [hi] using hr
    · simp only [if_neg (by omega : s.counter.index ≠ -1)]
      split <;> omega
  | @swap g m c i hg _ =>
    have hp : PhaseInRange (.cas m c i) := hg ▸ h.threads g
    obtain ⟨-, hm, hi0, hin⟩ := hp
    have hstore : (Counter.store i).index = i := toInt32_of_bounds (by omega) (by omega)
    refine ⟨.inr ?_, inRange_set h.threads trivial⟩
    rw [System.complete_counter, hstore]
    exact hi0
  | @retry g m c i hg _ =>
    have hp : PhaseInRange (.cas m c i) := hg ▸ h.threads g
    exact ⟨h.index, inRange_set h.threads ⟨hp.1, hp.2.1⟩⟩

theorem next_in_range {s : System} (hs : Reachable (fun n => 0 < n ∧ n ≤ 2 ^ 31) s) :
    (∀ g n c i, s.threads g = .cas n c i → 0 ≤ i ∧ i < n) ∧
    (∀ g c i (domains : List String), s.threads g = .cas domains.length c i →
      ∃ d ∈ domains, RoundRobin.choose domains i = some d) := by
  have h : InRange s := by
    induction hs with
    | refl => exact ⟨.inl rfl, fun _ => trivial⟩
    | tail _ hstep ih => exact inRange_step ih hstep
  have hcas : ∀ g n c i, s.threads g = .cas n c i → 0 ≤ i ∧ i < n := fun g n c i hg =>
    (hg ▸ h.threads g : PhaseInRange (.cas n c i)).2.2
  refine ⟨hcas, fun g c i domains hg => ?_⟩
  obtain ⟨hi0, hin⟩ := hcas g _ c i hg
  have hne : domains ≠ [] := by rintro rfl; simp at hin; omega
  refine ⟨domains.get ⟨i.toNat, by omega⟩, List.get_mem _ _ _, ?_⟩
  simp [RoundRobin.choose, hne, hi0]

theorem next_in_range_first_call :
    Reachable (fun n => 0 < n ∧ n ≤ 2 ^ 31) ((System.init.set 0 (.load 3)).set 0 (.cas 3 (-1) 1)) ∧
      ∃ d ∈ ["a", "b", "c"], RoundRobin.choose ["a", "b", "c"] 1 = some d :=
  have h : Reachable (fun n => 0 < n ∧ n ≤ 2 ^ 31) ((System.init.set 0 (.load 3)).set 0 (.cas 3 (-1) 1)) :=
    .tail (.single (.call (.inl rfl) (by norm_num))) (Step.load (g := 0) (n := 3) (r := 1) (by simp) (by norm_num))
  ⟨h, (next_in_range h).2 0 (-1) 1 ["a", "b", "c"] (by simp)⟩

theorem next_out_of_range {n n' : Int} (hn : 2 ^ 31 < n) (hn' : 0 < n') :
    ∃ s, Reachable (0 < ·) s ∧ s.threads 0 = .cas n' (-2 ^ 31) (-2 ^ 31 + 1) ∧
      ∀ domains : List String, domains.length = n' → RoundRobin.choose domains (-2 ^ 31 + 1) = none := by
  have hcall : ∀ s : System, s.threads 0 = .idle ∨ (∃ i, s.threads 0 = .done i) → ∀ m : Int, 0 < m →
      Step (0 < ·) s (s.set 0 (.load m)) := fun s hg m hm => .call hg hm
  let s1 := System.init.set 0 (.load n)
  let s2 := s1.set 0 (.cas n (-1) (2 ^ 31))
  let s3 := s2.complete 0 (2 ^ 31)
  let s4 := s3.set 0 (.load n')
  have hstore : (Counter.store (2 ^ 31)).index = -2 ^ 31 := by decide
  have h12 : Step (0 < ·) s1 s2 := by
    have := (Step.load (s := s1) (g := 0) (n := n) (r := 2 ^ 31) (by simp [s1]) ⟨by norm_num, hn⟩ : Step (0 < ·) _ _)
    simpa [s1, next, System.init, Counter.new] using this
  have h23 : Step (0 < ·) s2 s3 := .swap (n := n) (c := -1) (by simp [s2]) rfl
  have h45 : Step (0 < ·) s4 (s4.set 0 (.cas n' (-2 ^ 31) (-2 ^ 31 + 1))) := by
    have := (Step.load (s := s4) (g := 0) (n := n') (r := 0) (by simp [s4]) ⟨le_refl 0, hn'⟩ : Step (0 < ·) _ _)
    have hidx : s4.counter.index = -2 ^ 31 := hstore
    rw [hidx, next, if_neg (by norm_num), if_neg (by omega)] at this
    exact this
  refine ⟨s4.set 0 (.cas n' (-2 ^ 31) (-2 ^ 31 + 1)), ?_, by simp, fun domains hd => ?_⟩
  · exact .tail (.tail (.tail (.tail (.single (hcall _ (.inl rfl) n (by omega))) h12) h23)
      (hcall s3 (.inr ⟨2 ^ 31, by simp [s3]⟩) n' hn')) h45
  · have hne : domains ≠ [] := by rintro rfl; simp at hd; omega
    simp [RoundRobin.choose, hne]

theorem next_out_of_range_sample :
    ∃ s, Reachable (0 < ·) s ∧ s.threads 0 = .cas 1 (-2 ^ 31) (-2 ^ 31 + 1) ∧
      ∀ domains : List String, domains.length = (1 : Int) → RoundRobin.choose domains (-2 ^ 31 + 1) = none :=
  next_out_of_range (n := 2 ^ 31 + 1) (by norm_num) (by norm_num)

end DidGo.Orb
