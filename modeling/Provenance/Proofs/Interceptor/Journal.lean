import Provenance.Proofs.Interceptor.Marks

/-! # The journal of a run

    Every reachable state comes with a journal of the operations that led to it
    (`Reached.logged`).  What the registry counts can be told from the journal:
    a container counts the objects that were created and opened in it since its
    entry came in, a node what was done to its object since the node came in
    (`Logged.tallies`).  A container also counts each object that was given up
    because there was no memory for its shape, which it should not
    (`refused_shape_stays_counted`).

    One operation adds its marks to what was counted before (`Op.run_tallied`).
    Along the run that adds up from the last operation before which the
    container, or the node, was not there (`since`). -/

namespace Provenance.Interceptor

open Registry (Tallied)

variable {ω η τ : Type} [Library ω η τ] [Host ω] {i : Interceptor ω τ}
  {owned : Multiset (Asset η)}

/-- An operation that was done, and the state that it was done in. -/
structure Deed (ω η τ : Type) where
  memory : Memory
  op : Op η
  before : Interceptor ω τ

namespace Deed

/-- How the operation ended. -/
def outcome (d : Deed ω η τ) : Outcome (Refusal η) (Answer η) :=
  (d.op.run d.memory d.before).outcome

/-- The state that it left. -/
def after (d : Deed ω η τ) : Interceptor ω τ :=
  (d.op.run d.memory d.before).state

/-- What it was counted as. -/
def marks (d : Deed ω η τ) : List Mark :=
  d.op.marks d.memory d.before d.outcome

/-- What it left counted although it failed. -/
def strays (d : Deed ω η τ) : List Mark :=
  d.op.strayMarks d.memory d.before d.outcome

end Deed

/-- The states that a run can reach, as in `Reached`, with all that was done on
    the way, the last deed in front. -/
inductive Logged : List (Deed ω η τ) → Multiset (Asset η) → Interceptor ω τ → Prop
  | start (memory : Memory) (config : Config) (w : ω) {i : Interceptor ω τ}
      (h : ofConfig memory config w = .ok i) : Logged [] 0 i
  | step {log : List (Deed ω η τ)} {i : Interceptor ω τ} (memory : Memory)
      (op : Op η) (spent rest : Multiset (Asset η))
      (h : Logged log (spent + rest) i) (hop : op.Backed spent rest) :
      Logged (⟨memory, op, i⟩ :: log)
        (settled spent rest (op.run memory i).outcome) (op.run memory i).state
  | other {log : List (Deed ω η τ)} {owned : Multiset (Asset η)}
      {i : Interceptor ω τ} (w : ω) (h : Logged log owned i) :
      Logged log owned { i with world := w }

variable {log : List (Deed ω η τ)}

theorem Logged.reached (h : Logged log owned i) : Reached owned i := by
  induction h with
  | start memory config w h => exact .start memory config w h
  | step memory op spent rest _ hop ih => exact .step memory op spent rest ih hop
  | other w _ ih => exact .other w ih

/-- Every state that a run reaches has a journal. -/
theorem Reached.logged (h : Reached owned i) : ∃ log, Logged log owned i := by
  induction h with
  | start memory config w h => exact ⟨[], .start memory config w h⟩
  | step memory op spent rest _ hop ih =>
      obtain ⟨log, hlog⟩ := ih
      exact ⟨_, .step memory op spent rest hlog hop⟩
  | other w _ ih =>
      obtain ⟨log, hlog⟩ := ih
      exact ⟨log, .other w hlog⟩

/-! ## Since something came in -/

/-- The deeds from the last one before which something was not there. -/
def since (there : Registry τ Empty → Bool) :
    List (Deed ω η τ) → List (Deed ω η τ)
  | [] => []
  | d :: log =>
      if there d.before.registry = true then d :: since there log else [d]

/-- The deeds since a container has its entry. -/
def deedsIn (id : ContainerId) (log : List (Deed ω η τ)) : List (Deed ω η τ) :=
  since (fun reg => (reg.container? id).isSome) log

/-- The deeds since a node is there. -/
def deedsAt (node : NodeHandle) (log : List (Deed ω η τ)) : List (Deed ω η τ) :=
  since (fun reg => (reg.node? node).isSome) log

/-- What some deeds were counted as, the last mark in front. -/
def marksOf (log : List (Deed ω η τ)) : List Mark :=
  log.flatMap Deed.marks

/-- What some deeds left counted although they failed. -/
def straysOf (log : List (Deed ω η τ)) : List Mark :=
  log.flatMap Deed.strays

theorem marksOf_cons (d : Deed ω η τ) (log : List (Deed ω η τ)) :
    marksOf (d :: log) = d.marks ++ marksOf log :=
  List.flatMap_cons

section

variable {α : Type} {there : Registry τ Empty → Bool} {d : Deed ω η τ}

omit [Library ω η τ] [Host ω]

theorem flatMap_since_of_there (f : Deed ω η τ → List α)
    (h : there d.before.registry = true) :
    (since there (d :: log)).flatMap f = f d ++ (since there log).flatMap f := by
  rw [since, if_pos h, List.flatMap_cons]

theorem flatMap_since_of_not_there (f : Deed ω η τ → List α)
    (h : there d.before.registry = false) :
    (since there (d :: log)).flatMap f = f d := by
  rw [since, if_neg (by rw [h]; exact Bool.false_ne_true)]
  exact List.flatMap_singleton _ _

end

/-- The registry counts what its journal says. -/
structure Agrees (log : List (Deed ω η τ)) (reg : Registry τ Empty) : Prop where
  tally_eq : ∀ {id c}, reg.container? id = some c → ∀ access kind,
    (c.tally access).get kind
      = (marksOf (deedsIn id log)).count (.counted access id kind)
        + (straysOf (deedsIn id log)).count (.counted access id kind)
  accesses_eq : ∀ {node n}, reg.node? node = some n →
    n.accesses = (marksOf (deedsAt node log)).count (.tracked node)
  counters_eq : ∀ {node n}, reg.node? node = some n →
    n.counters = (Counters.zero node.kind).enterAll
      (entries node (marksOf (deedsAt node log)))

/-- No mark of these is about a node. -/
theorem Deed.node?_of_mem_strays {d : Deed ω η τ} (node : NodeHandle) :
    ∀ mark ∈ d.strays, mark.node? ≠ some node := by
  intro mark hmark
  rw [Op.node?_of_mem_strayMarks hmark]
  exact (Option.some_ne_none node).symm

/-- One deed more, which was counted as its marks. -/
theorem Agrees.cons {d : Deed ω η τ} {reg : Registry τ Empty}
    (h : Agrees log d.before.registry)
    (ht : Tallied (d.strays ++ d.marks) d.before.registry reg) :
    Agrees (d :: log) reg where
  tally_eq {id c} hget access kind := by
    rw [ht.tally_eq hget, List.count_append, marksOf, straysOf, deedsIn,
      Registry.tally]
    cases hold : d.before.registry.container? id with
    | some c₀ =>
        have hthere : (d.before.registry.container? id).isSome = true := by
          rw [hold]
          rfl
        have htally := h.tally_eq hold access kind
        rw [marksOf, straysOf, deedsIn] at htally
        rw [flatMap_since_of_there _ hthere, flatMap_since_of_there _ hthere,
          List.count_append, List.count_append, Option.elim_some, htally]
        omega
    | none =>
        have hthere : (d.before.registry.container? id).isSome = false := by
          rw [hold]
          rfl
        rw [flatMap_since_of_not_there _ hthere, flatMap_since_of_not_there _ hthere,
          Option.elim_none, Nat.zero_add, Nat.add_comm]
  accesses_eq {node n} hn := by
    rw [(ht.node hn).accesses_eq, List.count_append,
      count_tracked_eq_zero (Deed.node?_of_mem_strays node), Nat.zero_add, marksOf,
      deedsAt, Registry.accesses]
    cases hold : d.before.registry.node? node with
    | some n₀ =>
        rw [flatMap_since_of_there _ (by rw [hold]; rfl), List.count_append,
          Nat.add_comm]
        exact congrArg _ (h.accesses_eq hold)
    | none =>
        rw [flatMap_since_of_not_there _ (by rw [hold]; rfl)]
        exact Nat.zero_add _
  counters_eq {node n} hn := by
    rw [(ht.node hn).counters_eq, entries_append,
      entries_eq_nil (Deed.node?_of_mem_strays node), List.nil_append, marksOf,
      deedsAt, Registry.counters]
    cases hold : d.before.registry.node? node with
    | some n₀ =>
        rw [flatMap_since_of_there _ (by rw [hold]; rfl), entries_append,
          Counters.enterAll_append]
        exact congrArg (Counters.enterAll · _) (h.counters_eq hold)
    | none =>
        rw [flatMap_since_of_not_there _ (by rw [hold]; rfl)]
        rfl

theorem Logged.agrees (hs : SteadyClock ω) (h : Logged log owned i) :
    Agrees log i.registry := by
  induction h with
  | start memory config w h =>
      rw [(of_ofConfig h).2]
      exact ⟨nofun, nofun, nofun⟩
  | @step log i memory op spent rest h hop ih =>
      have ht := Op.run_tallied hs memory hop (h.reached.consistent hs)
      exact ih.cons ht
  | other w _ ih => exact ih

/-- On a steady clock, which a clock is by its contract, what a registry counts
    can be told from its journal.  Since a container has its entry, it counts, by
    kind, the objects that were created in it and those that were opened, and
    besides them the strays.  Since a node is there, it counts how often it was
    tracked, and its counters amount to what was done to its object.  Operations
    that fail are at most counted where they tracked a node, and only those that
    found no memory for a shape leave strays. -/
theorem Logged.tallies (hs : SteadyClock ω) (h : Logged log owned i) :
    (∀ id c, i.registry.container? id = some c → ∀ kind,
      c.created.get kind
        = (marksOf (deedsIn id log)).count (.counted .created id kind)
          + (straysOf (deedsIn id log)).count (.counted .created id kind) ∧
      c.accessed.get kind
        = (marksOf (deedsIn id log)).count (.counted .opened id kind)
          + (straysOf (deedsIn id log)).count (.counted .opened id kind)) ∧
    (∀ node n, i.registry.node? node = some n →
      n.accesses = (marksOf (deedsAt node log)).count (.tracked node) ∧
      n.counters.kind = node.kind ∧
      n.counters.Amounts (entries node (marksOf (deedsAt node log)))) ∧
    (∀ d ∈ log, d.outcome.isValue = false →
      ∀ mark ∈ d.marks, ∃ node, mark = .tracked node) ∧
    ∀ d ∈ log, d.outcome ≠ .error (.failed shapeless) → d.strays = [] := by
  have hagrees := h.agrees hs
  refine ⟨fun id c hget kind => ⟨hagrees.tally_eq hget .created kind,
    hagrees.tally_eq hget .opened kind⟩, fun node n hn => ?_,
    fun d _ ho mark hmark => Op.eq_tracked_of_mem_marks hmark ho,
    fun d _ hmemory => Op.strayMarks_eq_nil fun ho => absurd ho hmemory⟩
  have hamounts := Counters.amounts node.kind (entries node (marksOf (deedsAt node log)))
  rw [← hagrees.counters_eq hn] at hamounts
  exact ⟨hagrees.accesses_eq hn, hamounts.2, hamounts.1⟩

/-- A dataset is created, written and closed, opened again and read.  Its
    container counts both, and its new node the read alone. -/
theorem tallies_of_reopened_dataset :
    ∃ (log : List (Deed InMemory.World InMemory.Handle Token))
      (owned : Multiset (Asset InMemory.Handle))
      (i : Interceptor InMemory.World Token) (c : Container Token Empty)
      (n : Node Token) (d : DatasetCounters),
      Logged log owned i ∧ log.length = 6 ∧
      i.registry.container? ⟨1⟩ = some c ∧ c.created.get .dataset = 1 ∧
      c.accessed.get .dataset = 1 ∧
      i.registry.node? ⟨⟨1⟩, .dataset, ⟨2⟩⟩ = some n ∧ n.accesses = 1 ∧
      n.counters = .dataset d ∧ d.readCount = 1 ∧ d.bytesRead = 32 ∧
      d.writeCount = 0 ∧ d.bytesWritten = 0 := by
  have hstart := Logged.start Memory.addressSpace
    { Config.default with statsCapacity := 1 } (InMemory.World.new ⟨1⟩) rfl
  have hfile := hstart.step Memory.addressSpace
    (.openFile .created "f" : Op InMemory.Handle) 0 0 rfl
  have hcreated := hfile.step Memory.addressSpace
    (.openObject .created ⟨⟨0x1010, ⟨1⟩⟩, ⟨1⟩, .container ⟨1⟩⟩ .dataset "d" :
      Op InMemory.Handle) 0
    {.proxy ⟨⟨0x1010, ⟨1⟩⟩, ⟨1⟩, .container ⟨1⟩⟩}
    ⟨rfl, Multiset.mem_singleton_self _⟩
  have hwritten := hcreated.step Memory.addressSpace
    (.writeDataset ⟨⟨0x1020, ⟨1⟩⟩, ⟨1⟩, .object ⟨⟨1⟩, .dataset, ⟨1⟩⟩⟩ none :
      Op InMemory.Handle) 0
    ({.proxy ⟨⟨0x1020, ⟨1⟩⟩, ⟨1⟩, .object ⟨⟨1⟩, .dataset, ⟨1⟩⟩⟩}
      + {.proxy ⟨⟨0x1010, ⟨1⟩⟩, ⟨1⟩, .container ⟨1⟩⟩})
    ⟨rfl, Multiset.mem_add.mpr (Or.inl (Multiset.mem_singleton_self _))⟩
  have hclosed := hwritten.step Memory.addressSpace
    (.closeObject ⟨⟨0x1020, ⟨1⟩⟩, ⟨1⟩, .object ⟨⟨1⟩, .dataset, ⟨1⟩⟩⟩ :
      Op InMemory.Handle)
    {.proxy ⟨⟨0x1020, ⟨1⟩⟩, ⟨1⟩, .object ⟨⟨1⟩, .dataset, ⟨1⟩⟩⟩}
    {.proxy ⟨⟨0x1010, ⟨1⟩⟩, ⟨1⟩, .container ⟨1⟩⟩} (by exact rfl)
  have hopened := hclosed.step Memory.addressSpace
    (.openObject .opened ⟨⟨0x1010, ⟨1⟩⟩, ⟨1⟩, .container ⟨1⟩⟩ .dataset "d" :
      Op InMemory.Handle) 0
    {.proxy ⟨⟨0x1010, ⟨1⟩⟩, ⟨1⟩, .container ⟨1⟩⟩}
    ⟨rfl, Multiset.mem_singleton_self _⟩
  have hread := hopened.step Memory.addressSpace
    (.readDataset ⟨⟨0x1020, ⟨1⟩⟩, ⟨1⟩, .object ⟨⟨1⟩, .dataset, ⟨2⟩⟩⟩ (some 4) :
      Op InMemory.Handle) 0
    ({.proxy ⟨⟨0x1020, ⟨1⟩⟩, ⟨1⟩, .object ⟨⟨1⟩, .dataset, ⟨2⟩⟩⟩}
      + {.proxy ⟨⟨0x1010, ⟨1⟩⟩, ⟨1⟩, .container ⟨1⟩⟩})
    ⟨rfl, Multiset.mem_add.mpr (Or.inl (Multiset.mem_singleton_self _))⟩
  obtain ⟨hcontainers, hnodes, -⟩ := hread.tallies InMemory.steadyClock
  have hc := hcontainers ⟨1⟩ _ rfl .dataset
  have hn := hnodes ⟨⟨1⟩, .dataset, ⟨2⟩⟩ _ rfl
  have hd : DatasetCounters.Amounts _ _ := hn.2.2
  exact ⟨_, _, _, _, _, _, hread, rfl, rfl, hc.1.trans rfl, hc.2.trans rfl, rfl,
    hn.1.trans rfl, rfl, hd.readCount_eq.trans rfl, hd.bytesRead_eq.trans rfl,
    hd.writeCount_eq.trans rfl, hd.bytesWritten_eq.trans rfl⟩

/-- There is no memory for the shape of a dataset.  The dataset is given up and
    the creation fails, and yet its container counts a dataset as created. -/
theorem refused_shape_stays_counted :
    ∃ (d file : Deed InMemory.World InMemory.Handle Token)
      (owned : Multiset (Asset InMemory.Handle))
      (i : Interceptor InMemory.World Token) (c : Container Token Empty),
      Logged [d, file] owned i ∧ file.op = .openFile .created "a.h5" ∧
      d.op = .openObject .created ⟨⟨0x1010, ⟨1⟩⟩, ⟨1⟩, .container ⟨1⟩⟩ .dataset "d" ∧
      d.outcome = .error (.failed shapeless) ∧
      i.registry.container? ⟨1⟩ = some c ∧ c.created.get .dataset = 1 ∧
      (marksOf (deedsIn ⟨1⟩ [d, file])).count (.counted .created ⟨1⟩ .dataset) = 0 := by
  have hstart := Logged.start Memory.addressSpace
    { Config.default with statsCapacity := 1 } (InMemory.World.new ⟨1⟩) rfl
  have hfile := hstart.step Memory.addressSpace
    (.openFile .created "a.h5" : Op InMemory.Handle) 0 0 rfl
  have hrefused := hfile.step (fun purpose _ => purpose ≠ .datasetDimensions)
    (.openObject .created ⟨⟨0x1010, ⟨1⟩⟩, ⟨1⟩, .container ⟨1⟩⟩ .dataset "d" :
      Op InMemory.Handle) 0
    {.proxy ⟨⟨0x1010, ⟨1⟩⟩, ⟨1⟩, .container ⟨1⟩⟩}
    ⟨rfl, Multiset.mem_singleton_self _⟩
  exact ⟨_, _, _, _, _, hrefused, rfl, rfl, rfl, rfl, rfl, rfl⟩

/-- That callers use what they own is not looked after.  A proxy that belongs to
    one interceptor is read through at another, whose connector is not that of the
    proxy and where its handle is of nothing.  The read counts at a node there that
    has the number of the node of the proxy. -/
theorem foreign_read_is_counted :
    ∃ (log log' : List (Deed InMemory.World InMemory.Handle Token))
      (owned owned' : Multiset (Asset InMemory.Handle))
      (i j : Interceptor InMemory.World Token) (p : Proxy InMemory.Handle)
      (n n' : Node Token) (c c' : DatasetCounters),
      Logged log owned i ∧ .proxy p ∈ owned ∧ Logged log' owned' j ∧
      p.connector ≠ Library.connector j.world ∧
      j.registry.node? ⟨⟨1⟩, .dataset, ⟨1⟩⟩ = some n ∧ n.counters = .dataset c ∧
      c.readCount = 0 ∧
      ((Op.readDataset p none).run Memory.addressSpace j).outcome
        = .value (.bytes 128) ∧
      ((Op.readDataset p none).run Memory.addressSpace j).state.registry.node?
        ⟨⟨1⟩, .dataset, ⟨1⟩⟩ = some n' ∧ n'.counters = .dataset c' ∧
      c'.readCount = 1 := by
  have hstart := Logged.start Memory.addressSpace
    { Config.default with statsCapacity := 1 } (InMemory.World.new ⟨1⟩) rfl
  have hfile := hstart.step Memory.addressSpace
    (.openFile .created "a.h5" : Op InMemory.Handle) 0 0 rfl
  have hdataset := hfile.step Memory.addressSpace
    (.openObject .created ⟨⟨0x1010, ⟨1⟩⟩, ⟨1⟩, .container ⟨1⟩⟩ .dataset "x" :
      Op InMemory.Handle) 0
    {.proxy ⟨⟨0x1010, ⟨1⟩⟩, ⟨1⟩, .container ⟨1⟩⟩}
    ⟨rfl, Multiset.mem_singleton_self _⟩
  have hstart' := Logged.start Memory.addressSpace
    { Config.default with statsCapacity := 1 } (InMemory.World.new ⟨2⟩) rfl
  have hfile' := hstart'.step Memory.addressSpace
    (.openFile .created "b.h5" : Op InMemory.Handle) 0 0 rfl
  have hother := hfile'.step Memory.addressSpace
    (.openFile .created "c.h5" : Op InMemory.Handle) 0
    {.proxy ⟨⟨0x1010, ⟨1⟩⟩, ⟨2⟩, .container ⟨1⟩⟩} rfl
  have hdataset' := hother.step Memory.addressSpace
    (.openObject .created ⟨⟨0x1010, ⟨1⟩⟩, ⟨2⟩, .container ⟨1⟩⟩ .dataset "y" :
      Op InMemory.Handle) 0
    ({.proxy ⟨⟨0x1020, ⟨2⟩⟩, ⟨2⟩, .container ⟨2⟩⟩}
      + {.proxy ⟨⟨0x1010, ⟨1⟩⟩, ⟨2⟩, .container ⟨1⟩⟩})
    ⟨rfl, Multiset.mem_add.mpr (Or.inr (Multiset.mem_singleton_self _))⟩
  exact ⟨_, _, _, _, _, _, ⟨⟨0x1020, ⟨1⟩⟩, ⟨1⟩, .object ⟨⟨1⟩, .dataset, ⟨1⟩⟩⟩, _, _, _,
    _, hdataset, Multiset.mem_add.mpr (Or.inl (Multiset.mem_singleton_self _)),
    hdataset', by decide, rfl, rfl, rfl, rfl, rfl, rfl, rfl⟩

end Provenance.Interceptor
