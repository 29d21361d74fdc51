import Provenance.Proofs.Registry.Placeholder
import Provenance.Proofs.Registry.Tallies

/-! # Sizes and transfers of datasets

    The size of an extent and the bytes of a transfer are products that stop at the
    largest word, the totals of a dataset sums that stop there.  Each is cut at every
    step, and yet comes out as if it were cut once at the end
    (`dataset_totals_exact`).

    For the totals, all that a registry counts is written down along a run: what a
    request is counted as (`Request.marks`) depends on its operation and its answer
    alone, and the counters of a node are those of a new one with all that was entered
    there since it came in (`Life.counters_eq`). -/

namespace Provenance.Registry

variable {ω η τ ρ α : Type} {reg : Registry τ ρ} {node : NodeHandle}

/-! ## What a request is counted as -/

/-- What an operation is counted as that answers so. -/
def Op.marks : Op η τ ρ → Answer τ ρ → List Mark
  | track .., .node node => [.tracked node]
  | trackIn .., .node node => [.tracked node]
  | setDatasetShape node typeSize dimensions, _ =>
      [.entered node (.accessed .opened (some ⟨typeSize, dimensions⟩))]
  | recordRead node _ elapsed, .count bytes => [.entered node (.read bytes elapsed)]
  | recordWrite node _ elapsed, .count bytes => [.entered node (.written bytes elapsed)]
  | recordCommit node, _ => [.entered node (.accessed .created none)]
  | recordGet node, _ => [.entered node (.accessed .opened none)]
  | recordOp node, _ => [.entered node (.accessed .opened none)]
  | recordCreated id kind, _ => [.counted .created id kind]
  | recordAccessed id kind, _ => [.counted .opened id kind]
  | _, _ => []

theorem attach_tallied (memory : Memory) (id : ContainerId) (resource : ρ)
    (ho : reg.Orderly) : Tallied [] reg (attach memory id resource reg).state := by
  simp only [attach]
  cases hget : reg.container? id with
  | none => exact .refl reg
  | some c =>
      have hput : Uncounted reg
          (reg.put { c with attachments := c.attachments ++ [resource] }) :=
        uncounted_put_of_same_nodes ho hget rfl rfl rfl rfl
      by_cases hm : memory.grants .attachments (16 * (c.attachments.length + 1)) = true
      · simp only [if_pos hm]
        exact hput.tallied
      · simp only [if_neg hm]
        exact .refl reg

variable [Identity ω η τ]

namespace Request

/-- What a request is counted as: nothing, unless it succeeds. -/
def marks (q : Request ω η τ ρ) (reg : Registry τ ρ) : List Mark :=
  match (q.perform reg).outcome with
  | .value a => q.op.marks a
  | _ => []

variable {memory : Memory} {w : ω} {op : Op η τ ρ}

/-- An operation that counts nothing. -/
theorem tallied_of_uncounted {g : α → Answer τ ρ}
    {x : Call (Registry τ ρ) RegistryError α}
    (hrun : op.run memory = g <$> alone (ω := ω) x) (hmarks : ∀ a, op.marks (g a) = [])
    (h : Tallied [] reg (x reg).state) :
    Tallied (marks ⟨memory, w, op⟩ reg) reg (next ⟨memory, w, op⟩ reg) := by
  have hperform : perform ⟨memory, w, op⟩ reg
      = ⟨(x reg).outcome.map g, (w, (x reg).state), (x reg).events⟩ := by
    rw [perform, hrun, Op.map_alone_apply]
  have hnone : marks ⟨memory, w, op⟩ reg = [] := by
    rw [marks, hperform]
    cases (x reg).outcome with
    | value a => exact hmarks a
    | error e => rfl
    | fault f => rfl
  rw [hnone, next, hperform]
  exact h

/-- An operation that counts where it succeeds. -/
theorem tallied_of_ensures {g : α → Answer τ ρ}
    {x : Call (Registry τ ρ) RegistryError α}
    (hrun : op.run memory = g <$> alone (ω := ω) x)
    (h : x.Ensures reg []
      (fun a reg' _ => Tallied (op.marks (g a)) reg reg' ∧ Within reg reg')
      (fun _ reg' _ => reg' = reg) (fun _ reg' _ => reg' = reg)) :
    Tallied (marks ⟨memory, w, op⟩ reg) reg (next ⟨memory, w, op⟩ reg) := by
  have hperform : perform ⟨memory, w, op⟩ reg
      = ⟨(x reg).outcome.map g, (w, (x reg).state), (x reg).events⟩ := by
    rw [perform, hrun, Op.map_alone_apply]
  rw [marks, next, hperform]
  cases ho : (x reg).outcome with
  | value a => exact (h.value ho).1
  | error e => exact .of_eq (h.error ho)
  | fault f => exact .of_eq (h.fault ho)

theorem tallied_of_tracks (hs : reg.Sound) {id : ContainerId} {kind : Kind} {token : τ}
    {name : Option String} (hop : op.Tracks id kind token name)
    (hmarks : ∀ node, op.marks (.node node) = [.tracked node]) :
    Tallied (marks ⟨memory, w, op⟩ reg) reg (next ⟨memory, w, op⟩ reg) := by
  have hrun := Op.run_tracked (w := w) memory hs hop
  rw [marks, next, perform]
  show Tallied (match (op.run memory (w, reg)).outcome with
    | .value a => op.marks a
    | _ => []) reg (op.run memory (w, reg)).state.2
  rcases ho : (op.run memory (w, reg)).outcome with a | e | f
  · obtain ⟨node, rfl, htracked⟩ := hrun.value ho
    simp only [hmarks]
    exact htracked.tallied ⟨hs.entry⟩
  · exact .of_eq (hrun.error ho)
  · exact .of_eq (hrun.fault ho)

/-- A request leaves a registry that counts what it counted before, and the
    request. -/
theorem tallied (q : Request ω η τ ρ) (hs : reg.Sound) :
    Tallied (q.marks reg) reg (q.next reg) := by
  have ho : reg.Orderly := ⟨hs.entry⟩
  obtain ⟨memory, w, op⟩ := q
  cases op with
  | openContainer id name =>
      exact tallied_of_uncounted rfl (fun _ => rfl)
        (openContainer_tallied memory id name ho)
  | pinContainer id =>
      exact tallied_of_uncounted rfl (fun _ => rfl) (pinContainer_uncounted id ho).tallied
  | closeContainer id =>
      exact tallied_of_uncounted rfl (fun _ => rfl)
        (closeContainer_uncounted id ho).tallied
  | track id kind token name raw =>
      exact tallied_of_tracks hs ⟨rfl, rfl, rfl, rfl⟩ fun _ => rfl
  | trackIn home reported kind token name raw =>
      exact tallied_of_tracks hs ⟨rfl, rfl, rfl, rfl⟩ fun _ => rfl
  | untrack node =>
      exact tallied_of_uncounted rfl (fun _ => rfl) (untrack_uncounted node ho).tallied
  | setDatasetShape node typeSize dimensions =>
      exact tallied_of_ensures (g := fun _ => .done) rfl
        (setDatasetShape_tallied memory node .opened ⟨typeSize, dimensions⟩ ho)
  | recordRead node selected elapsed =>
      exact tallied_of_ensures rfl (recordRead_tallied node selected elapsed ho)
  | recordWrite node selected elapsed =>
      exact tallied_of_ensures rfl (recordWrite_tallied node selected elapsed ho)
  | recordCommit node =>
      exact tallied_of_ensures rfl (recordCommit_tallied node none ho)
  | recordGet node =>
      exact tallied_of_ensures rfl (recordGet_tallied node none ho)
  | recordOp node =>
      exact tallied_of_ensures rfl (recordOp_tallied node .opened none ho)
  | recordCreated id kind =>
      refine tallied_of_ensures (g := fun _ => .done) rfl ?_
      exact (recordCreated_tallied id kind ho).mono (fun _ _ _ h => h)
        (fun _ _ _ h => h.1) fun _ _ _ h => h.elim
  | recordAccessed id kind =>
      refine tallied_of_ensures (g := fun _ => .done) rfl ?_
      exact (recordAccessed_tallied id kind ho).mono (fun _ _ _ h => h)
        (fun _ _ _ h => h.1) fun _ _ _ h => h.elim
  | attach id resource =>
      exact tallied_of_uncounted (g := fun _ => .done) rfl (fun _ => rfl)
        (attach_tallied memory id resource ho)
  | verifyOpenThings containers datasets =>
      exact tallied_of_uncounted (g := fun _ => .done) rfl (fun _ => rfl)
        (.of_eq (verifyOpenThings_state containers datasets))

/-- An operation enters something at its own handle only. -/
theorem entries_elsewhere (q : Request ω η τ ρ) (hop : q.op.handle? ≠ some node) :
    entries node (q.marks reg) = [] := by
  have hne : ∀ {entry : Entry} {node' : NodeHandle}, q.op.handle? = some node' →
      entries node [.entered node' entry] = [] := by
    intro entry node' heq
    refine entries_eq_nil fun mark hmark hmark' => hop ?_
    rw [List.mem_singleton.mp hmark] at hmark'
    rw [heq, ← Option.some.inj hmark']
  rw [marks]
  split
  · next a _ =>
      obtain ⟨memory, w, op⟩ := q
      cases op <;> cases a <;> first | rfl | exact hne rfl
  · rfl

/-- Nothing is entered at a handle that resolves to nothing. -/
theorem entries_of_stale (q : Request ω η τ ρ) (hn : reg.node? node = none) :
    entries node (q.marks reg) = [] := by
  by_cases hop : q.op.handle? = some node
  · rw [marks, perform, Op.run_of_stale q.memory hop hn]
    rfl
  · exact q.entries_elsewhere hop

/-- What a request makes of the counters of a node that it leaves. -/
theorem counters_next (q : Request ω η τ ρ) (hs : reg.Sound) {n : Node τ}
    (hn : (q.next reg).node? node = some n) :
    (q.next reg).counters node
      = (reg.counters node).enterAll (entries node (q.marks reg)) := by
  rw [counters_of_some hn]
  exact ((q.tallied hs).node hn).counters_eq

end Request

/-! ## Runs -/

/-- What requests are counted as.  The last one is in front. -/
def marksAlong (reg : Registry τ ρ) : List (Request ω η τ ρ) → List Mark
  | [] => []
  | q :: rest => marksAlong (q.next reg) rest ++ q.marks reg

theorem marksAlong_concat (reg : Registry τ ρ) (requests : List (Request ω η τ ρ))
    (q : Request ω η τ ρ) :
    marksAlong reg (requests ++ [q])
      = q.marks (after reg requests) ++ marksAlong reg requests := by
  induction requests generalizing reg with
  | nil => exact (List.append_nil _).symm
  | cons r rest ih =>
      rw [List.cons_append, marksAlong, ih, marksAlong, List.append_assoc]
      rfl

/-- A node came in with a request, and is there since. -/
structure Life (config : Config) (node : NodeHandle) (before : List (Request ω η τ ρ))
    (q : Request ω η τ ρ) (since : List (Request ω η τ ρ)) : Prop where
  absent : (built config before).node? node = none
  present : ∀ part, part <+: since →
    ∃ n, (built config (before ++ q :: part)).node? node = some n

variable {config : Config} {before since : List (Request ω η τ ρ)}
  {q r : Request ω η τ ρ}

theorem Life.of_concat (h : Life config node before q (since ++ [r])) :
    Life config node before q since :=
  ⟨h.absent, fun part hpart =>
    h.present part (hpart.trans (List.prefix_append since [r]))⟩

omit [Identity ω η τ] in
theorem cons_concat (before : List (Request ω η τ ρ)) (q : Request ω η τ ρ)
    (since : List (Request ω η τ ρ)) (r : Request ω η τ ρ) :
    before ++ q :: (since ++ [r]) = (before ++ q :: since) ++ [r] := by
  rw [← List.cons_append, ← List.append_assoc]

/-- A node has counted what was entered at it since it came in. -/
theorem Life.counters_eq (h : Life config node before q since) :
    (built config (before ++ q :: since)).counters node
      = (Counters.zero node.kind).enterAll
          (entries node (marksAlong (built config (before ++ [q])) since)) := by
  induction since using List.reverseRecOn with
  | nil =>
      obtain ⟨n, hn⟩ := h.present [] List.prefix_rfl
      have hs := built_sound config before
      rw [built_concat] at hn ⊢
      rw [q.counters_next hs hn, q.entries_of_stale h.absent, counters, h.absent]
      rfl
  | append_singleton since r ih =>
      obtain ⟨n, hn⟩ := h.present _ List.prefix_rfl
      have hs := built_sound config (before ++ q :: since)
      rw [cons_concat, built_concat] at hn ⊢
      rw [r.counters_next hs hn, ih h.of_concat, marksAlong_concat, ← built_cons,
        entries_append, Counters.enterAll_append]

/-! ## Datasets -/

section

variable {n : Node τ} {c : DatasetCounters} {memory : Memory} {w : ω}

omit [Identity ω η τ] in
theorem onDataset_of_dataset (hn : reg.node? node = some n)
    (hc : n.counters = .dataset c)
    (f : DatasetCounters → Except RegistryError (α × DatasetCounters)) :
    (onDataset node f reg).outcome
      = match f c with
        | .ok (a, _) => .value a
        | .error e => .error e := by
  obtain ⟨d, hget, hd⟩ := node?_eq_some_iff.mp hn
  simp only [onDataset, onCounters, hget, hd, hc]
  rcases f c with e | ⟨a, c'⟩ <;> rfl

/-- A dataset takes every shape that there is memory for. -/
theorem perform_setDatasetShape (hn : reg.node? node = some n)
    (hc : n.counters = .dataset c) (typeSize : Nat) {dimensions : List Nat}
    (hm : memory.grants .datasetDimensions (8 * dimensions.length) = true) :
    ((⟨memory, w, .setDatasetShape node typeSize dimensions⟩ :
        Request ω η τ ρ).perform reg).outcome = .value .done := by
  have hperform : Request.perform (⟨memory, w, .setDatasetShape node typeSize
      dimensions⟩ : Request ω η τ ρ) reg = _ := Op.map_alone_apply _ _
  rw [hperform, setDatasetShape, onDataset_of_dataset hn hc, if_pos hm]
  rfl

/-- A read of a dataset answers the bytes of a transfer. -/
theorem perform_recordRead (hn : reg.node? node = some n)
    (hc : n.counters = .dataset c) (selected : Option Nat) (elapsed : Duration) :
    ((⟨memory, w, .recordRead node selected elapsed⟩ : Request ω η τ ρ).perform
        reg).outcome = .value (.count (c.transferSize selected)) := by
  rw [Request.perform, Op.run, Op.map_alone_apply, recordRead,
    onDataset_of_dataset hn hc]
  rfl

theorem perform_recordWrite (hn : reg.node? node = some n)
    (hc : n.counters = .dataset c) (selected : Option Nat) (elapsed : Duration) :
    ((⟨memory, w, .recordWrite node selected elapsed⟩ : Request ω η τ ρ).perform
        reg).outcome = .value (.count (c.transferSize selected)) := by
  rw [Request.perform, Op.run, Op.map_alone_apply, recordWrite,
    onDataset_of_dataset hn hc]
  rfl

omit [Identity ω η τ] in
theorem Sound.dataset_of_kind (hs : reg.Sound) (hkind : node.kind = .dataset)
    (hn : reg.node? node = some n) : ∃ c, n.counters = .dataset c := by
  have hnode : n.counters.kind = node.kind := congrArg NodeHandle.kind (hs.handle_eq hn)
  rw [hkind] at hnode
  cases hcounters : n.counters with
  | dataset c => exact ⟨c, rfl⟩
  | _ => rw [hcounters] at hnode; cases hnode

/-- The operation is a read of that dataset. -/
def Op.reads (node : NodeHandle) : Op η τ ρ → Bool
  | recordRead node' .. => node' = node
  | _ => false

/-- The operation is a write of that dataset. -/
def Op.writes (node : NodeHandle) : Op η τ ρ → Bool
  | recordWrite node' .. => node' = node
  | _ => false

/-- An entry is made at one node only. -/
theorem entries_singleton (node node' : NodeHandle) (entry : Entry) :
    entries node [.entered node' entry] = if node' = node then [entry] else [] := by
  rw [entries, List.filterMap_cons, Mark.entry?]
  by_cases hnode : node' = node
  · rw [if_pos hnode, if_pos hnode]
    rfl
  · rw [if_neg hnode, if_neg hnode]
    rfl

/-- The reads and the writes among some entries. -/
def transfersIn (l : List Entry) : Nat × Nat :=
  ((l.filterMap Entry.read?).length, (l.filterMap Entry.written?).length)

/-- Every read and every write of a dataset that is there is entered at it, and no
    other operation is entered as one. -/
theorem Request.transfersIn_marks (q : Request ω η τ ρ) (hn : reg.node? node = some n)
    (hc : n.counters = .dataset c) :
    transfersIn (entries node (q.marks reg))
      = (if q.op.reads node then 1 else 0, if q.op.writes node then 1 else 0) := by
  obtain ⟨memory, w, op⟩ := q
  cases op with
  | recordRead node' selected elapsed =>
      show _ = ((if decide (node' = node) = true then 1 else 0), 0)
      by_cases hnode : node' = node
      · subst hnode
        rw [marks, perform_recordRead hn hc, if_pos (decide_eq_true rfl)]
        show transfersIn (entries node' [_]) = _
        rw [entries_singleton, if_pos rfl]
        rfl
      · have hempty : entries node
            (marks (⟨memory, w, .recordRead node' selected elapsed⟩ : Request ω η τ ρ) reg)
            = [] := entries_elsewhere _ fun h => hnode (Option.some.inj h)
        rw [hempty, if_neg fun h => hnode (of_decide_eq_true h)]
        rfl
  | recordWrite node' selected elapsed =>
      show _ = (0, if decide (node' = node) = true then 1 else 0)
      by_cases hnode : node' = node
      · subst hnode
        rw [marks, perform_recordWrite hn hc, if_pos (decide_eq_true rfl)]
        show transfersIn (entries node' [_]) = _
        rw [entries_singleton, if_pos rfl]
        rfl
      · have hempty : entries node
            (marks (⟨memory, w, .recordWrite node' selected elapsed⟩ : Request ω η τ ρ) reg)
            = [] := entries_elsewhere _ fun h => hnode (Option.some.inj h)
        rw [hempty, if_neg fun h => hnode (of_decide_eq_true h)]
        rfl
  | _ =>
      -- what any other operation enters is an access
      have haccess : ∀ {access : Access} {shape : Option DatasetShape}
          {node' : NodeHandle}, transfersIn
            (entries node [.entered node' (.accessed access shape)]) = (0, 0) := by
        intro access shape node'
        rw [entries_singleton]
        split <;> rfl
      rw [marks]
      split
      · next a _ => cases a <;> first | rfl | exact haccess
      · rfl

theorem transfersIn_append (l l' : List Entry) :
    transfersIn (l ++ l')
      = ((transfersIn l).1 + (transfersIn l').1, (transfersIn l).2 + (transfersIn l').2) := by
  simp only [transfersIn, List.filterMap_append, List.length_append]

/-- As long as a dataset is there, every read and every write of it counts. -/
theorem Life.transfersIn_eq (h : Life config node before q since)
    (hkind : node.kind = .dataset) :
    transfersIn (entries node (marksAlong (built config (before ++ [q])) since))
      = (since.countP fun r => r.op.reads node,
        since.countP fun r => r.op.writes node) := by
  induction since using List.reverseRecOn with
  | nil => rfl
  | append_singleton since r ih =>
      obtain ⟨n, hn⟩ := h.of_concat.present _ List.prefix_rfl
      obtain ⟨c, hc⟩ := (built_sound config _).dataset_of_kind hkind hn
      rw [marksAlong_concat, ← built_cons, entries_append, transfersIn_append,
        r.transfersIn_marks hn hc, ih h.of_concat, List.countP_append,
        List.countP_append, List.countP_singleton, List.countP_singleton]
      exact Prod.ext (Nat.add_comm _ _) (Nat.add_comm _ _)

omit [Identity ω η τ] in
/-- What is left where the counters of a dataset were changed. -/
theorem onDataset_of_value (hs : reg.Sound)
    {f : DatasetCounters → Except RegistryError (α × DatasetCounters)} {a : α}
    (ho : (onDataset node f reg).outcome = .value a) :
    ∃ (n : Node τ) (c c' : DatasetCounters), n.counters = .dataset c ∧ f c = .ok (a, c') ∧
      (onDataset node f reg).state.node? node
        = some { n with counters := .dataset c' } := by
  simp only [onDataset, onCounters] at ho ⊢
  cases hget : reg.container? node.container with
  | none => rw [hget] at ho; cases ho
  | some d =>
      simp only [hget] at ho ⊢
      cases hn : d.node? node.kind node.node with
      | none => rw [hn] at ho; cases ho
      | some n =>
          simp only [hn] at ho ⊢
          cases hc : n.counters with
          | dataset c =>
              simp only [hc] at ho ⊢
              rcases hf : f c with e | ⟨b, c'⟩
              · simp only [hf] at ho
                cases ho
              · simp only [hf] at ho ⊢
                cases ho
                have hd := hs.entry hget
                have hid : n.id = node.node := hd.number_eq hn
                refine ⟨n, c, c', hc, hf, ?_⟩
                refine (node?_put _ _ _).trans ((if_pos hd.id_eq).trans ?_)
                rw [Container.node?_putNode]
                exact if_pos ⟨rfl, hid⟩
          | _ => simp only [hc] at ho; cases ho

/-- A shape that is given settles the sizes of the extent and of transfers. -/
theorem Request.sized (q : Request ω η τ ρ) (hs : reg.Sound) {typeSize : Nat}
    {dimensions : List Nat} {a : Answer τ ρ}
    (hop : q.op = .setDatasetShape node typeSize dimensions)
    (ho : (q.perform reg).outcome = .value a) :
    ∃ n c, (q.next reg).node? node = some n ∧ n.counters = .dataset c ∧
      c.elementCount = Word.cap dimensions.prod ∧
      c.transferSize none = Word.cap (typeSize * dimensions.prod) ∧
      ∀ points, c.transferSize (some points) = Word.cap (typeSize * points) := by
  obtain ⟨memory, w, op⟩ := q
  obtain rfl : op = .setDatasetShape node typeSize dimensions := hop
  have hperform : Request.perform (⟨memory, w, .setDatasetShape node typeSize
      dimensions⟩ : Request ω η τ ρ) reg = _ := Op.map_alone_apply _ _
  rw [hperform] at ho
  obtain ⟨_, hvalue, -⟩ := Outcome.map_eq_value_iff.mp ho
  obtain ⟨n, c, c', -, hf, hnode⟩ := onDataset_of_value hs hvalue
  by_cases hm : memory.grants .datasetDimensions (8 * dimensions.length) = true
  · rw [if_pos hm] at hf
    cases hf
    refine ⟨{ n with counters := .dataset (c.reshape typeSize dimensions) },
      c.reshape typeSize dimensions, ?_, rfl,
      DatasetCounters.extent_eq dimensions, ?_, fun points => rfl⟩
    · rw [next, hperform]
      exact hnode
    · show Word.cap (typeSize * DatasetCounters.extent dimensions) = _
      rw [DatasetCounters.extent_eq, Word.cap_mul_cap]
  · rw [if_neg hm] at hf
    cases hf

end

/-! ## Totals -/

/-- The reads of a dataset that requests make: the bytes that each of them answers,
    and its time.  The last is in front. -/
def readsAlong (node : NodeHandle) (reg : Registry τ ρ)
    (requests : List (Request ω η τ ρ)) : List (Nat × Duration) :=
  (entries node (marksAlong reg requests)).filterMap Entry.read?

/-- The writes of a dataset that requests make. -/
def writesAlong (node : NodeHandle) (reg : Registry τ ρ)
    (requests : List (Request ω η τ ρ)) : List (Nat × Duration) :=
  (entries node (marksAlong reg requests)).filterMap Entry.written?

/-- The shape that a dataset was given last. -/
def shapeAlong (node : NodeHandle) (reg : Registry τ ρ)
    (requests : List (Request ω η τ ρ)) : Option DatasetShape :=
  (entries node (marksAlong reg requests)).findSome? Entry.shape?

/-- What a dataset counts after requests since it came in. -/
structure Totals (node : NodeHandle) (reg : Registry τ ρ)
    (since : List (Request ω η τ ρ)) (c : DatasetCounters) : Prop where
  readCount_eq : c.readCount = since.countP fun r => r.op.reads node
  writeCount_eq : c.writeCount = since.countP fun r => r.op.writes node
  bytesRead_eq : c.bytesRead = Word.cap (bytesMoved (readsAlong node reg since))
  bytesWritten_eq : c.bytesWritten = Word.cap (bytesMoved (writesAlong node reg since))
  readTime_eq : c.readTime = .ofNanos (timeSpent (readsAlong node reg since))
  writeTime_eq : c.writeTime = .ofNanos (timeSpent (writesAlong node reg since))
  /-- The lists hold every read and every write. -/
  length_readsAlong : (readsAlong node reg since).length = c.readCount
  length_writesAlong : (writesAlong node reg since).length = c.writeCount
  /-- The last shape sizes a transfer; without one, nothing is moved. -/
  transferSize_eq : ∀ selected, c.transferSize selected
    = ((shapeAlong node reg since).elim 0 fun s =>
        Word.cap (s.typeSize * selected.getD s.dimensions.prod))

theorem Life.totals (h : Life config node before q since) (hkind : node.kind = .dataset) :
    ∃ n c, (built config (before ++ q :: since)).node? node = some n ∧
      n.counters = .dataset c ∧
      Totals node (built config (before ++ [q])) since c := by
  obtain ⟨n, hn⟩ := h.present _ List.prefix_rfl
  obtain ⟨c, hc⟩ := (built_sound config _).dataset_of_kind hkind hn
  have hcounters := h.counters_eq
  rw [counters_of_some hn, hc] at hcounters
  have hamounts := (Counters.amounts node.kind
    (entries node (marksAlong (built config (before ++ [q])) since))).1
  rw [← hcounters] at hamounts
  replace hamounts : c.Amounts _ := hamounts
  have htransfers := h.transfersIn_eq hkind
  refine ⟨n, c, hn, hc, ?_⟩
  exact {
    readCount_eq := hamounts.readCount_eq.trans (congrArg Prod.fst htransfers)
    writeCount_eq := hamounts.writeCount_eq.trans (congrArg Prod.snd htransfers)
    bytesRead_eq := hamounts.bytesRead_eq
    bytesWritten_eq := hamounts.bytesWritten_eq
    readTime_eq := hamounts.readTime_eq
    writeTime_eq := hamounts.writeTime_eq
    length_readsAlong := hamounts.readCount_eq.symm
    length_writesAlong := hamounts.writeCount_eq.symm
    transferSize_eq := hamounts.transferSize_eq }

/-- Sizes and totals are cut once.  A shape that a dataset is given counts the product
    of its dimensions, in whatever order they come, and sizes a transfer by the type
    and the elements that are moved.  It is taken if there is memory for it.  A read or a write of a dataset answers the size
    of a transfer.  From its creation on, as long as it is there, a dataset counts its
    reads and its writes, and the sums of the bytes that they answered and of their
    times. -/
theorem dataset_totals_exact (config : Config) :
    (∀ (requests : List (Request ω η τ ρ)) (q : Request ω η τ ρ) (node : NodeHandle)
        (typeSize : Nat) (dimensions : List Nat) (a : Answer τ ρ),
      q.op = .setDatasetShape node typeSize dimensions →
      (q.perform (built config requests)).outcome = .value a →
      ∃ n c, (q.next (built config requests)).node? node = some n ∧
        n.counters = .dataset c ∧
        c.elementCount = Word.cap dimensions.prod ∧
        (∀ others, others.Perm dimensions →
          DatasetCounters.extent others = c.elementCount) ∧
        c.transferSize none = Word.cap (typeSize * dimensions.prod) ∧
        ∀ points, c.transferSize (some points) = Word.cap (typeSize * points)) ∧
    (∀ (requests : List (Request ω η τ ρ)) (q : Request ω η τ ρ) (node : NodeHandle)
        (n : Node τ) (c : DatasetCounters) (typeSize : Nat) (dimensions : List Nat),
      (built config requests).node? node = some n → n.counters = .dataset c →
      q.op = .setDatasetShape node typeSize dimensions →
      q.memory.grants .datasetDimensions (8 * dimensions.length) = true →
      (q.perform (built config requests)).outcome = .value .done) ∧
    (∀ (requests : List (Request ω η τ ρ)) (q : Request ω η τ ρ) (node : NodeHandle)
        (n : Node τ) (c : DatasetCounters) (selected : Option Nat) (elapsed : Duration),
      (built config requests).node? node = some n → n.counters = .dataset c →
      (q.op = .recordRead node selected elapsed ∨
        q.op = .recordWrite node selected elapsed) →
      (q.perform (built config requests)).outcome
        = .value (.count (c.transferSize selected))) ∧
    ∀ (before : List (Request ω η τ ρ)) (q : Request ω η τ ρ)
        (since : List (Request ω η τ ρ)) (node : NodeHandle),
      node.kind = .dataset → Life config node before q since →
      ∃ n c, (built config (before ++ q :: since)).node? node = some n ∧
        n.counters = .dataset c ∧
        Totals node (built config (before ++ [q])) since c := by
  refine ⟨?_, ?_, ?_, ?_⟩
  · intro requests q node typeSize dimensions a hop ho
    obtain ⟨n, c, hn, hc, hcount, hwhole, hsome⟩ :=
      q.sized (built_sound config requests) hop ho
    refine ⟨n, c, hn, hc, hcount, fun others hperm => ?_, hwhole, hsome⟩
    rw [DatasetCounters.extent_eq, hperm.prod_eq, hcount]
  · rintro requests ⟨memory, w, op⟩ node n c typeSize dimensions hn hc hop hm
    obtain rfl : op = .setDatasetShape node typeSize dimensions := hop
    exact perform_setDatasetShape hn hc typeSize hm
  · rintro requests ⟨memory, w, op⟩ node n c selected elapsed hn hc (hop | hop)
    · obtain rfl : op = .recordRead node selected elapsed := hop
      exact perform_recordRead hn hc selected elapsed
    · obtain rfl : op = .recordWrite node selected elapsed := hop
      exact perform_recordWrite hn hc selected elapsed
  · intro before q since node hkind h
    exact h.totals hkind

/-- A dataset whose extent passes the largest word, read once as a whole and once in
    three points. -/
theorem dataset_totals_exact_of_huge_extent :
    ∃ (reg : Registry Token Empty) (since : List (Request Bytewise Unit Token Empty))
      (c : DatasetCounters), Totals ⟨⟨1⟩, .dataset, ⟨1⟩⟩ reg since c ∧
      readsAlong ⟨⟨1⟩, .dataset, ⟨1⟩⟩ reg since
        = [(24, .ofNanos 7), (Word.limit, .ofNanos 5)] ∧
      c.readCount = 2 ∧ c.bytesRead = Word.limit ∧ c.readTime = .ofNanos 12 := by
  have hexact := dataset_totals_exact (ω := Bytewise) (η := Unit) (τ := Token)
    (ρ := Empty) Config.default
  have hlife : Life Config.default ⟨⟨1⟩, .dataset, ⟨1⟩⟩
      ([.plain (.openContainer ⟨1⟩ none)] : List (Request Bytewise Unit Token Empty))
      (.plain (.track ⟨1⟩ .dataset (.ofAddress 5) none ()))
      [.plain (.setDatasetShape ⟨⟨1⟩, .dataset, ⟨1⟩⟩ 8 [2 ^ 40, 2 ^ 40]),
        .plain (.recordRead ⟨⟨1⟩, .dataset, ⟨1⟩⟩ none (.ofNanos 5)),
        .plain (.recordRead ⟨⟨1⟩, .dataset, ⟨1⟩⟩ (some 3) (.ofNanos 7))] := by
    refine ⟨rfl, fun part hpart => ?_⟩
    have hparts := (List.mem_inits _ _).mpr hpart
    simp only [List.inits, List.map_cons, List.map_nil,
      List.mem_cons, List.not_mem_nil, or_false] at hparts
    rcases hparts with rfl | rfl | rfl | rfl
    · exact ⟨_, rfl⟩
    · exact ⟨_, rfl⟩
    · exact ⟨_, rfl⟩
    · exact ⟨_, rfl⟩
  obtain ⟨n, c, -, -, htotals⟩ := hexact.2.2.2 _ _ _ _ rfl hlife
  refine ⟨_, _, c, htotals, rfl, ?_, ?_, ?_⟩
  · rw [htotals.readCount_eq]
    rfl
  · rw [htotals.bytesRead_eq]
    rfl
  · rw [htotals.readTime_eq]
    rfl

end Provenance.Registry
