import Provenance.Proofs.Interceptor.Journal
import Provenance.Proofs.Interceptor.Naming

/-! # The size of transfers

    A transfer moves as many bytes as the shape of its dataset says, and the
    node of the dataset has its shape from the operations that created or opened
    it.  So the size depends on what became of the node
    (`Logged.transfers_sized`): it is that of the shape that the library reported
    when an object was last created or opened that resolved to the node.  Where
    the node is there by wrapping or completing alone, nobody asked for its
    shape, and a transfer moves nothing (`completed_dataset_moves_nothing`). -/

namespace Provenance

/-- The counters of a dataset. -/
def Counters.dataset? : Counters → Option DatasetCounters
  | dataset c => some c
  | _ => none

namespace Registry

variable {τ ρ α : Type} {reg : Registry τ ρ} {node : NodeHandle} {ev : List Event}

/-- The counters of a dataset at a node. -/
def dataset? (reg : Registry τ ρ) (node : NodeHandle) : Option DatasetCounters :=
  (reg.node? node).bind fun n => n.counters.dataset?

/-- What counting at a dataset answers is told from its counters. -/
theorem onDataset_answers
    {f : DatasetCounters → Except RegistryError (α × DatasetCounters)}
    (hs : reg.Orderly) :
    (onDataset node f).Ensures reg ev
      (fun a reg' _ => ∃ c c', reg.dataset? node = some c ∧ f c = .ok (a, c') ∧
        reg'.dataset? node = some c')
      (fun _ _ _ => True) (fun _ _ _ => True) := by
  simp only [Call.Ensures, onDataset, onCounters]
  cases hget : reg.container? node.container with
  | none => trivial
  | some c =>
      cases hn : c.node? node.kind node.node with
      | none =>
          simp only [hn]
          trivial
      | some n =>
          have hc := hs.entry hget
          have hid : n.id = node.node := hc.number_eq hn
          have hold : reg.node? node = some n :=
            (node?_of_container? hget rfl).trans hn
          simp only [hn]
          cases hcounters : n.counters with
          | dataset d =>
              rcases hd : f d with e | ⟨a, d'⟩ <;> simp only [hd]
              · trivial
              · refine ⟨d, d', ?_, hd, ?_⟩
                · rw [dataset?, hold, Option.bind_some, hcounters]
                  rfl
                · have hput : (reg.put (c.putNode node.kind
                      { n with counters := .dataset d' })).node? node
                      = some { n with counters := .dataset d' } :=
                    (node?_put _ _ node).trans ((if_pos hc.id_eq).trans
                      ((Container.node?_putNode c _ _ _ _).trans
                        (if_pos ⟨rfl, hid⟩)))
                  rw [dataset?, hput]
                  rfl
          | group ops => trivial
          | datatype commits gets => trivial
          | attr ops => trivial

/-- A transfer was recorded at a node: its size is answered, and added to a
    total. -/
def Moves (total : DatasetCounters → Nat) (selected : Option Nat)
    (reg : Registry τ ρ) (node : NodeHandle) (bytes : Nat) (reg' : Registry τ ρ) :
    Prop :=
  ∃ c c', reg.dataset? node = some c ∧ reg'.dataset? node = some c' ∧
    bytes = c.transferSize selected ∧ total c' = Word.cap (total c + bytes)

/-- What answers the size of a transfer and adds it to a total moves it. -/
theorem onDataset_moves {total : DatasetCounters → Nat} {selected : Option Nat}
    {f : DatasetCounters → Except RegistryError (Nat × DatasetCounters)}
    {V : Nat → Registry τ ρ → List Event → Prop}
    (hf : ∀ c bytes c', f c = .ok (bytes, c') →
      bytes = c.transferSize selected ∧ total c' = Word.cap (total c + bytes))
    (hsame : (onDataset node f).Ensures reg ev V (fun _ reg' _ => reg' = reg)
      (fun _ reg' _ => reg' = reg))
    (hs : reg.Orderly) :
    (onDataset node f).Ensures reg ev
      (fun bytes reg' _ => Moves total selected reg node bytes reg')
      (fun _ reg' _ => reg' = reg) (fun _ reg' _ => reg' = reg) := by
  refine ((onDataset_answers hs).and hsame).mono ?_ (fun _ _ _ h => h.2)
    fun _ _ _ h => h.2
  rintro bytes reg' _ ⟨⟨c, c', hc, hanswer, hc'⟩, -⟩
  exact ⟨c, c', hc, hc', hf c bytes c' hanswer⟩

theorem recordRead_moves (selected : Option Nat) (elapsed : Duration)
    (hs : reg.Orderly) :
    (recordRead node selected elapsed).Ensures reg ev
      (fun bytes reg' _ =>
        Moves DatasetCounters.bytesRead selected reg node bytes reg')
      (fun _ reg' _ => reg' = reg) (fun _ reg' _ => reg' = reg) := by
  refine onDataset_moves (fun c bytes c' h => ?_)
    (recordRead_tallied node selected elapsed hs) hs
  cases h
  exact ⟨rfl, rfl⟩

theorem recordWrite_moves (selected : Option Nat) (elapsed : Duration)
    (hs : reg.Orderly) :
    (recordWrite node selected elapsed).Ensures reg ev
      (fun bytes reg' _ =>
        Moves DatasetCounters.bytesWritten selected reg node bytes reg')
      (fun _ reg' _ => reg' = reg) (fun _ reg' _ => reg' = reg) := by
  refine onDataset_moves (fun c bytes c' h => ?_)
    (recordWrite_tallied node selected elapsed hs) hs
  cases h
  exact ⟨rfl, rfl⟩

end Registry

namespace Interceptor

open Registry (Tallied)

/-! ## The shape that an operation tells -/

section

variable {ω η τ : Type} [Library ω η τ] [Host ω] {memory : Memory}
  {i : Interceptor ω τ} {node : NodeHandle}

/-- The shape that some marks leave a node with. -/
def shapeIn (node : NodeHandle) (marks : List Mark) : Option DatasetShape :=
  (entries node marks).findSome? Entry.shape?

omit [Library ω η τ] [Host ω] in
theorem shapeIn_append (node : NodeHandle) (marks marks' : List Mark) :
    shapeIn node (marks ++ marks')
      = (shapeIn node marks).or (shapeIn node marks') := by
  rw [shapeIn, entries_append, List.findSome?_append]
  rfl

theorem shapeIn_entered (node node' : NodeHandle) (entry : Entry) :
    shapeIn node [.entered node' entry]
      = if node' = node then entry.shape? else none := by
  by_cases hnode : node' = node
  · have hentry : entries node [.entered node' entry] = [entry] :=
      List.filterMap_cons_some (if_pos hnode)
    rw [if_pos hnode, shapeIn, hentry, List.findSome?_cons]
    cases entry.shape? <;> rfl
  · rw [if_neg hnode, shapeIn, entries_eq_nil]
    · rfl
    · intro mark hmark heq
      rw [List.mem_singleton.mp hmark] at heq
      exact hnode (Option.some.inj heq)

namespace Op

/-- An operation created or opened an object that resolved to a node. -/
def resolves (node : NodeHandle) :
    Op η → Outcome (Refusal η) (Answer η) → Bool
  | openObject .., .value (.proxy p) => decide (p.target = .object node)
  | _, _ => false

/-- A container that counts does not shape a node, and neither does tracking. -/
theorem shapeIn_marks (op : Op η) (o : Outcome (Refusal η) (Answer η)) :
    shapeIn node (op.marks memory i o) = shapeIn node (op.entryMarks memory i o) := by
  have htrack : shapeIn node (op.trackMarks memory i) = none := by
    rw [trackMarks]
    cases op.found? memory i <;> rfl
  have hcount : shapeIn node (op.countMarks o) = none := by
    cases op with
    | openObject access parent kind name =>
        rcases o with a | e | f
        · cases a with
          | proxy p =>
              rw [countMarks]
              cases p.target <;> rfl
          | _ => rfl
        · rfl
        · rfl
    | _ => rfl
  rw [marks, shapeIn_append, shapeIn_append, htrack, hcount, Option.or_none,
    Option.or_none]

/-- Transfers do not shape a node, and an object that resolved elsewhere does
    not. -/
theorem shapeIn_of_not_resolves {op : Op η} {o : Outcome (Refusal η) (Answer η)}
    (h : op.resolves node o = false) : shapeIn node (op.marks memory i o) = none := by
  rw [shapeIn_marks]
  cases op with
  | openObject access parent kind name =>
      rcases o with a | e | f
      · cases a with
        | proxy p =>
            rw [resolves] at h
            rw [entryMarks]
            cases htarget : p.target with
            | container id => rfl
            | object node' =>
                rw [htarget, decide_eq_false_iff_not] at h
                exact (shapeIn_entered node node' _).trans
                  (if_neg fun heq => h (congrArg _ heq))
        | _ => rfl
      · rfl
      · rfl
  | readDataset p selected =>
      rcases o with a | e | f
      · cases a with
        | bytes n =>
            rw [entryMarks]
            cases p.target with
            | container id => rfl
            | object node' =>
                exact (shapeIn_entered node node' _).trans (ite_self none)
        | _ => rfl
      · rfl
      · rfl
  | writeDataset p selected =>
      rcases o with a | e | f
      · cases a with
        | bytes n =>
            rw [entryMarks]
            cases p.target with
            | container id => rfl
            | object node' =>
                exact (shapeIn_entered node node' _).trans (ite_self none)
        | _ => rfl
      · rfl
      · rfl
  | _ => rfl

/-- An object that resolved to a node leaves it with the shape that the library
    told. -/
theorem shapeIn_of_opened {access : Access} {parent p : Proxy η} {kind : Kind}
    {name : String} (h : p.target = .object node) :
    shapeIn node ((openObject access parent kind name).marks memory i
        (.value (.proxy p)))
      = (openObject access parent kind name).shape? memory i := by
  rw [shapeIn_marks, entryMarks, h]
  exact (shapeIn_entered node node _).trans (if_pos rfl)

end Op

end

/-! ## The deeds at a node -/

section

variable {ω η τ : Type} [Library ω η τ] [Host ω] {i : Interceptor ω τ}
  {owned : Multiset (Asset η)} {log : List (Deed ω η τ)}
  {info : η → ObjectInfo τ} {node : NodeHandle}

/-- The deed created or opened an object that resolved to a node. -/
def Deed.resolves (node : NodeHandle) (d : Deed ω η τ) : Bool :=
  d.op.resolves node d.outcome

/-- The last deed that resolved to a node tells its shape, if all that did left
    one. -/
theorem shapeIn_marksOf {shape : Deed ω η τ → DatasetShape}
    (h : ∀ d ∈ log, d.resolves node = true → shapeIn node d.marks = some (shape d)) :
    shapeIn node (marksOf log) = (log.find? (Deed.resolves node)).map shape := by
  induction log with
  | nil => rfl
  | cons d log ih =>
      have hrest := ih fun d hd => h d (List.mem_cons_of_mem _ hd)
      rw [marksOf_cons, shapeIn_append]
      by_cases hd : d.resolves node = true
      · rw [h d List.mem_cons_self hd, List.find?_cons_of_pos hd]
        rfl
      · rw [Deed.marks, Op.shapeIn_of_not_resolves (Bool.eq_false_of_not_eq_true hd),
          List.find?_cons_of_neg hd, hrest]
        rfl

omit [Library ω η τ] [Host ω] in
/-- A deed since something is there was done when it was there, or brought it
    in. -/
theorem mem_since {there : Registry τ Empty → Bool} {d d' : Deed ω η τ}
    (h : d' ∈ since there (d :: log)) :
    d' = d ∨ there d.before.registry = true ∧ d' ∈ since there log := by
  rw [since] at h
  by_cases hthere : there d.before.registry = true
  · rw [if_pos hthere] at h
    rcases List.mem_cons.mp h with hd | hd
    · exact Or.inl hd
    · exact Or.inr ⟨hthere, hd⟩
  · rw [if_neg hthere] at h
    exact Or.inl (List.mem_singleton.mp h)

/-- As long as a node is there, it bears the token of each raw handle for which
    a proxy of it was issued. -/
theorem Logged.bears (hs : SteadyClock ω) (hi : Identifies ω info)
    (h : Logged log owned i) {n : Node τ} (hn : i.registry.node? node = some n) :
    ∀ d ∈ deedsAt node log, ∀ p, d.outcome = .value (.proxy p) →
      p.target = .object node → i.registry.Bears node (info p.handle) := by
  induction h generalizing n with
  | start memory config w h => exact fun d hd => absurd hd List.not_mem_nil
  | @step log i memory op spent rest h hop ih =>
      intro d hd p hp hnode
      have hsound := (h.reached.identified hs hi).sound
      have hrun := Op.run_fits hi memory op hsound
      rcases mem_since hd with rfl | ⟨hthere, hd⟩
      · exact ((hrun.value hp).2 p rfl).1 node hnode
      · -- the node was there before and is still there
        obtain ⟨n₀, hn₀⟩ := Option.isSome_iff_exists.mp hthere
        have hw : Registry.Writes Registry.Terms.free i.registry
            (op.run memory i).state.registry := by
          rcases ho : (op.run memory i).outcome with a | e | f
          · exact (hrun.value ho).1
          · exact hrun.error ho
          · exact hrun.fault ho
        exact (ih hn₀ d hd p hp hnode).kept hw hsound ⟨n, hn⟩
  | other w _ ih => exact ih hn

end

end Interceptor

/-! ## Over the library in memory -/

namespace InMemory

open Interceptor

variable {α : Type} {raw : Handle} {w : World} {i : Interceptor World Token}
  {ev : List Event}

/-- The library is asked for a shape that it has and keeps. -/
theorem askShape_shape (op : Operation) {kind : Kind} (hkind : kind = .dataset) :
    (askShape op kind raw).Ensures i ev
      (fun r j _ => r.1 = some (i.world.library.shape raw) ∧
        j.world.library.shape raw = i.world.library.shape raw)
      (fun _ _ _ => True) (fun _ _ _ => True) := by
  rw [hkind, askShape, Call.ensures_bind]
  refine callLibrary_ensures (fun shape w hw => ?_) fun _ _ _ => trivial
  rw [Call.ensures_pure]
  obtain ⟨ha, hlibrary⟩ := World.call_eq_ok hw
  cases ha
  exact ⟨rfl, congrArg (State.shape · raw) hlibrary⟩

/-- A dataset is described with the shape that the library has for its handle,
    and still has then. -/
theorem describeObject_shape (memory : Memory) (op : Operation)
    {node : NodeHandle} (access : Access) (hdataset : node.kind = .dataset) :
    (describeObject memory op node access raw).Ensures i ev
      (fun _ j _ => told op node.kind raw i = some (i.world.library.shape raw) ∧
        j.world.library.shape raw = i.world.library.shape raw)
      (fun _ _ _ => True) (fun _ _ _ => True) := by
  rw [describeObject, Call.ensures_bind]
  refine ((askShape_told _ _ _).and (askShape_shape _ hdataset)).mono ?_
    (fun _ _ _ _ => trivial) fun _ _ _ _ => trivial
  rintro ⟨shape, elapsed⟩ j _ ⟨⟨htold, -⟩, hshape, hj⟩
  rw [Call.ensures_bind]
  refine (charged_ensures
    (V := fun _ s _ => s.1.library.shape raw = i.world.library.shape raw)
    (E := fun _ _ _ => True) (F := fun _ _ _ => True) (fun _ _ _ _ h => h)
    (fun _ _ _ _ h => h) ?_).mono ?_ (fun _ _ _ h => h) fun _ _ _ h => h
  · rw [Call.ensures_mapError, Registry.ensures_alone]
    exact (Call.ensures_ending _ _ _).mono (fun _ _ _ _ => hj)
      (fun _ _ _ _ => trivial) fun _ _ _ _ => trivial
  · intro _ j' _ hj'
    rw [Call.ensures_pure]
    exact ⟨htold.symm.trans hshape, hj'⟩

theorem describeFound_shape (memory : Memory) (access : Access) (kind : Kind)
    (found : Found Handle) :
    (describeFound memory access kind found).Ensures i ev
      (fun p j _ => p.handle = found.raw ∧ p.target = .object found.node ∧
        (found.node.kind = .dataset →
          told (.object access kind) found.node.kind found.raw i
            = some (j.world.library.shape found.raw)))
      (fun _ _ _ => True) (fun _ _ _ => True) := by
  have hdescribe : (describeObject memory (.object access kind) found.node access
      found.raw).Ensures i ev
      (fun _ j _ => found.node.kind = .dataset →
        told (.object access kind) found.node.kind found.raw i
          = some (j.world.library.shape found.raw))
      (fun _ _ _ => True) (fun _ _ _ => True) := by
    by_cases hdataset : found.node.kind = .dataset
    · refine (describeObject_shape memory _ access hdataset).mono ?_
        (fun _ _ _ h => h) fun _ _ _ h => h
      rintro _ j _ ⟨htold, hj⟩ -
      rw [htold, hj]
    · exact (Call.ensures_ending _ _ _).mono (fun _ _ _ _ h => absurd h hdataset)
        (fun _ _ _ _ => trivial) fun _ _ _ _ => trivial
  rw [describeFound, Call.ensures_bind, Call.ensures_onError]
  refine hdescribe.mono ?_ ?_ fun _ _ _ h => h
  · intro describing j _ htold
    rw [Call.ensures_bind, ensures_addTimes]
    cases found.library.add? describing with
    | none => trivial
    | some total =>
        dsimp only
        rw [Call.ensures_bind]
        refine (finish_ensures
          (V := fun (s : World × Registry Token Empty) _ =>
            found.node.kind = .dataset →
              told (.object access kind) found.node.kind found.raw i
                = some (s.1.library.shape found.raw)) (fun _ _ _ h => h)
          (fun _ _ _ h => h) htold).mono ?_ (fun _ _ _ h => h) fun _ _ _ h => h
        intro _ j' _ hj'
        rw [Call.ensures_bind, Call.ensures_state, Call.ensures_pure]
        exact ⟨rfl, rfl, hj'⟩
  · intro e j ev' _
    exact (Call.ensures_ending _ j ev').mono (fun _ _ _ _ => trivial)
      (fun _ _ _ _ => trivial) fun _ _ _ _ => trivial

end InMemory

namespace Interceptor

open InMemory (World Handle)

variable {i : Interceptor World Token} {owned : Multiset (Asset Handle)}
  {log : List (Deed World Handle Token)} {p : Proxy Handle} {node : NodeHandle}

/-- The shape that an operation was told of a dataset is the one that the library
    reports for the handle in its answer. -/
theorem Op.shape?_eq (memory : Memory) (access : Access) (parent : Proxy Handle)
    (kind : Kind) (name : String) :
    ((openObject access parent kind name).run memory).Ensures i []
      (fun a j _ => ∃ p node, a = .proxy p ∧ p.target = .object node ∧
        (node.kind = .dataset →
          (openObject access parent kind name).shape? memory i
            = some (j.world.library.shape p.handle)))
      (fun _ _ _ => True) (fun _ _ _ => True) := by
  rw [run, Call.ensures_map, Call.ensures_mapError, openObject_eq,
    Call.ensures_bind]
  refine (Call.ensures_ending _ i []).mono ?_ (fun _ _ _ _ => trivial)
    fun _ _ _ _ => trivial
  rintro found j ev ⟨ho, rfl⟩
  refine (InMemory.describeFound_shape memory access kind found).mono ?_
    (fun _ _ _ h => h) fun _ _ _ h => h
  rintro p j' _ ⟨hraw, htarget, htold⟩
  refine ⟨p, found.node, rfl, htarget, fun hdataset => ?_⟩
  rw [shape?, ho, hraw]
  exact htold hdataset

/-- A dataset that was created or opened leaves its node with the shape that the
    library reports for its handle. -/
theorem Deed.shapeIn_marks {d : Deed World Handle Token}
    (hdataset : node.kind = .dataset) (h : d.resolves node = true) :
    ∃ p, d.outcome = .value (.proxy p) ∧ p.target = .object node ∧
      shapeIn node d.marks = some (d.after.world.library.shape p.handle) := by
  obtain ⟨memory, op, i⟩ := d
  cases op with
  | openObject access parent kind name =>
      rcases ho : ((Op.openObject access parent kind name).run memory i).outcome
        with a | e | f
      · obtain ⟨p, node', rfl, htarget, hshape⟩ :=
          (Op.shape?_eq memory access parent kind name).value ho
        rw [resolves, outcome, ho, Op.resolves, decide_eq_true_eq, htarget] at h
        cases h
        refine ⟨p, ho, htarget, ?_⟩
        rw [marks, outcome, ho, Op.shapeIn_of_opened htarget, hshape hdataset]
        rfl
      · rw [resolves, outcome, ho] at h
        cases h
      · rw [resolves, outcome, ho] at h
        cases h
  | _ => cases h

/-- The bytes that a transfer through a proxy of a node moves: those of the shape
    that the library reported for its handle when an object was last created or
    opened that resolved to the node, or nothing if none was since the node is
    there. -/
def sized (p : Proxy Handle) (node : NodeHandle)
    (log : List (Deed World Handle Token)) (selected : Option Nat) : Nat :=
  ((deedsAt node log).find? (Deed.resolves node)).elim 0 fun d =>
    let shape := d.after.world.library.shape p.handle
    Word.cap (shape.typeSize * selected.getD shape.dimensions.prod)

/-- The counters of a dataset size the transfers through all its proxies. -/
theorem Logged.transferSize_eq (h : Logged log owned i) (hp : .proxy p ∈ owned)
    (hnode : p.target = .object node) {c : DatasetCounters}
    (hc : i.registry.dataset? node = some c) (selected : Option Nat) :
    c.transferSize selected = sized p node log selected := by
  have hs := InMemory.steadyClock
  obtain ⟨n, hn, hcounters⟩ := Option.bind_eq_some_iff.mp hc
  have hamounts := Counters.amounts node.kind
    (entries node (marksOf (deedsAt node log)))
  rw [← (h.agrees hs).counters_eq hn] at hamounts
  -- the node is that of a dataset
  cases hdataset : n.counters with
  | dataset c' =>
      rw [hdataset] at hcounters hamounts
      cases hcounters
      have hsize : c.transferSize selected
          = (shapeIn node (marksOf (deedsAt node log))).elim 0 fun s =>
              Word.cap (s.typeSize * selected.getD s.dimensions.prod) :=
        DatasetCounters.Amounts.transferSize_eq hamounts.1 selected
      have hbears := (h.reached.identified hs InMemory.identifies).named hp node hnode
      -- whoever opened the node did so for the handle of this proxy
      have hshape : ∀ d ∈ deedsAt node log, d.resolves node = true →
          shapeIn node d.marks = some (d.after.world.library.shape p.handle) := by
        intro d hd hresolves
        obtain ⟨q, hq, hqnode, hshape⟩ :=
          Deed.shapeIn_marks hamounts.2.symm hresolves
        have hinfo := hbears.info_eq
          (h.bears hs InMemory.identifies hn d hd q hq hqnode)
        rw [hshape, Handle.info_injective hinfo]
      rw [hsize, shapeIn_marksOf hshape, sized]
      cases (deedsAt node log).find? (Deed.resolves node) <;> rfl
  | _ =>
      rw [hdataset] at hcounters
      cases hcounters

/-- A transfer through a proxy answered its size, and added it to a total at the
    node of the proxy. -/
def Moved (p : Proxy Handle) (log : List (Deed World Handle Token))
    (selected : Option Nat) (total : DatasetCounters → Nat) (a : Answer Handle)
    (reg reg' : Registry Token Empty) : Prop :=
  ∃ node c c', p.target = .object node ∧ a = .bytes (sized p node log selected) ∧
    reg.dataset? node = some c ∧ reg'.dataset? node = some c' ∧
    total c' = Word.cap (total c + sized p node log selected)

/-- A transfer that records its size moves it. -/
theorem Logged.moved (h : Logged log owned i) (hp : .proxy p ∈ owned)
    {x : Call (Interceptor World Token) InterceptError Nat}
    {total : DatasetCounters → Nat} {selected : Option Nat}
    (hx : x.Ensures i []
      (fun bytes j _ => ∃ node, p.target = .object node ∧
        Registry.Moves total selected i.registry node bytes j.registry)
      (fun _ j _ => j.registry = i.registry)
      (fun _ j _ => j.registry = i.registry)) :
    (Answer.bytes <$> x.mapError (Refusal.failed : _ → Refusal Handle)).Ensures i []
      (fun a j _ => Moved p log selected total a i.registry j.registry)
      (fun _ _ _ => True) (fun _ _ _ => True) := by
  rw [Call.ensures_map, Call.ensures_mapError]
  refine hx.mono ?_ (fun _ _ _ _ => trivial) fun _ _ _ _ => trivial
  rintro bytes j _ ⟨node, hnode, c, c', hc, hc', rfl, htotal⟩
  rw [h.transferSize_eq hp hnode hc] at htotal ⊢
  exact ⟨node, c, c', hnode, rfl, hc, hc', htotal⟩

/-- Every successful transfer through a proxy that is owned, however the proxy was
    obtained, answers the bytes that its node is sized to (`sized`) and adds them
    to the total of the node.  So a transfer is sized by the shape that the
    library reports for the handle of the proxy, once an object was created or
    opened that resolved to its node. -/
theorem Logged.transfers_sized (h : Logged log owned i) (hp : .proxy p ∈ owned)
    (memory : Memory) (selected : Option Nat) (a : Answer Handle) :
    (((Op.readDataset p selected).run memory i).outcome = .value a →
      Moved p log selected DatasetCounters.bytesRead a i.registry
        ((Op.readDataset p selected).run memory i).state.registry) ∧
    (((Op.writeDataset p selected).run memory i).outcome = .value a →
      Moved p log selected DatasetCounters.bytesWritten a i.registry
        ((Op.writeDataset p selected).run memory i).state.registry) := by
  have hs := (h.reached.consistent InMemory.steadyClock).orderly
  have hread := h.moved (x := readDataset memory p selected) hp
    (transfer_records memory _ p fun node _ =>
      Registry.recordRead_moves selected _ hs)
  have hwrite := h.moved (x := writeDataset memory p selected) hp
    (transfer_records memory _ p fun node _ =>
      Registry.recordWrite_moves selected _ hs)
  exact ⟨fun ho => hread.value ho, fun ho => hwrite.value ho⟩

/-- Four points are read of a dataset that was created, with eight bytes each. -/
theorem transfers_sized_of_created :
    ∃ (log : List (Deed World Handle Token)) (i j : Interceptor World Token),
      Logged log ({.proxy ⟨⟨0x1020, ⟨1⟩⟩, ⟨1⟩, .object ⟨⟨1⟩, .dataset, ⟨1⟩⟩⟩}
        + {.proxy ⟨⟨0x1010, ⟨1⟩⟩, ⟨1⟩, .container ⟨1⟩⟩}) i ∧
      sized ⟨⟨0x1020, ⟨1⟩⟩, ⟨1⟩, .object ⟨⟨1⟩, .dataset, ⟨1⟩⟩⟩
        ⟨⟨1⟩, .dataset, ⟨1⟩⟩ log (some 4) = 32 ∧
      Moved ⟨⟨0x1020, ⟨1⟩⟩, ⟨1⟩, .object ⟨⟨1⟩, .dataset, ⟨1⟩⟩⟩ log (some 4)
        DatasetCounters.bytesRead (.bytes 32) i.registry j.registry := by
  have hstart := Logged.start Memory.addressSpace
    { Config.default with statsCapacity := 1 } (World.new ⟨1⟩) rfl
  have hfile := hstart.step Memory.addressSpace
    (.openFile .created "f" : Op Handle) 0 0 rfl
  have hcreated := hfile.step Memory.addressSpace
    (.openObject .created ⟨⟨0x1010, ⟨1⟩⟩, ⟨1⟩, .container ⟨1⟩⟩ .dataset "d" :
      Op Handle) 0
    {.proxy ⟨⟨0x1010, ⟨1⟩⟩, ⟨1⟩, .container ⟨1⟩⟩}
    ⟨rfl, Multiset.mem_singleton_self _⟩
  have hread := (hcreated.transfers_sized
    (p := ⟨⟨0x1020, ⟨1⟩⟩, ⟨1⟩, .object ⟨⟨1⟩, .dataset, ⟨1⟩⟩⟩)
    (Multiset.mem_add.mpr (Or.inl (Multiset.mem_singleton_self _)))
    Memory.addressSpace (some 4) (.bytes 32)).1 rfl
  exact ⟨_, _, _, hcreated, rfl, hread⟩

/-- A request for a dataset completes.  The library reports a shape of 128 bytes
    for the handle of its proxy, and yet a read through the proxy moves
    nothing. -/
theorem completed_dataset_moves_nothing :
    ∃ (log : List (Deed World Handle Token)) (i : Interceptor World Token),
      Logged log ({.proxy ⟨⟨0x9000, ⟨1⟩⟩, ⟨1⟩, .object ⟨⟨1⟩, .dataset, ⟨1⟩⟩⟩}
        + {.proxy ⟨⟨0x1010, ⟨1⟩⟩, ⟨1⟩, .container ⟨1⟩⟩}) i ∧
      i.world.library.shape ⟨0x9000, ⟨1⟩⟩ = ⟨8, [16]⟩ ∧
      ((Op.readDataset ⟨⟨0x9000, ⟨1⟩⟩, ⟨1⟩, .object ⟨⟨1⟩, .dataset, ⟨1⟩⟩⟩
        none).run Memory.addressSpace i).outcome = .value (.bytes 0) := by
  have hstart := Logged.start Memory.addressSpace
    { Config.default with statsCapacity := 1 } (World.new ⟨1⟩) rfl
  have hfile := hstart.step Memory.addressSpace
    (.openFile .created "a.h5" : Op Handle) 0 0 rfl
  have hcompleted := hfile.step Memory.addressSpace
    (.completeRequest ⟨⟨0x1010, ⟨1⟩⟩, ⟨1⟩, .container ⟨1⟩⟩ ⟨0x9000, ⟨1⟩⟩ .dataset
      (some "d") : Op Handle) 0
    {.proxy ⟨⟨0x1010, ⟨1⟩⟩, ⟨1⟩, .container ⟨1⟩⟩}
    ⟨rfl, Multiset.mem_singleton_self _⟩
  exact ⟨_, _, hcompleted, rfl, rfl⟩

end Interceptor

end Provenance
