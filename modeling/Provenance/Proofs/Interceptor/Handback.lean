import Provenance.Interceptor.Termination
import Provenance.Proofs.Interceptor.OpenHandles
import Provenance.Proofs.Interceptor.Rollback

/-! # Proxies that come back

    Three operations take a proxy away from their caller: the two closes and
    the unwrapping.  Where one of them is refused, the registry still counts
    the proxy and the library still has its handle open (`Op.refused`), so a
    close of the right sort can follow (`Op.close_ensures`).  A close hands its
    proxy back for that.  An unwrapping does not: refused the proxy of a file,
    it forfeits it (`Op.forfeits`).

    At the end of a run whose callers gave up all that they held, the leaks of
    the registry and the handles left open are those of the forfeited
    proxies, and without any there is none (`InMemory.Holding.ends`). -/

namespace Provenance

variable {ω η τ : Type}

/-- The operation that closes a proxy. -/
def Proxy.close (p : Proxy η) : Interceptor.Op η :=
  match p.target with
  | .container _ => .closeFile p
  | .object _ => .closeObject p

/-- What the handle of a proxy is closed as. -/
def Proxy.sort (p : Proxy η) : Option Kind :=
  p.target.node?.map NodeHandle.kind

/-- The library's part of closing a proxy. -/
def Proxy.release [Library ω η τ] (p : Proxy η) : ω → Except Cause Unit × ω :=
  match p.target with
  | .container _ => Library.closeContainer p.handle
  | .object node => Library.closeObject p.handle node.kind

/-- The library accepts a close of a proxy that begins now.  It is asked after
    two readings of the clock. -/
def Proxy.Accepted [Library ω η τ] [Host ω] (p : Proxy η) (w : ω) : Prop :=
  (p.release (Host.now (Host.now w).2).2).1 = .ok ()

namespace Interceptor

variable {i : Interceptor ω τ} {p : Proxy η} {op : Op η} {e : Refusal η}

namespace Op

/-- The proxy that an operation takes away from its caller. -/
def taken : Op η → Option (Proxy η)
  | closeFile proxy => some proxy
  | closeObject proxy => some proxy
  | unwrapObject proxy => some proxy
  | _ => none

/-- The proxy that a caller loses to an operation. -/
def forfeits (op : Op η) :
    Outcome (Refusal η) (Answer η) → Multiset (Asset η)
  | .error _ =>
      match op with
      | unwrapObject proxy => {.proxy proxy}
      | _ => 0
  | _ => 0

end Op

/-- What a caller is left with by an operation: what its answer issues, or what
    its refusal hands back. -/
def handed : Outcome (Refusal η) (Answer η) → Multiset (Asset η)
  | .value a => a.issued
  | .error e => e.proxy?.elim 0 fun p => {.proxy p}
  | .fault _ => 0

/-! ## A refusal -/

section

variable [Library ω η τ] [Host ω]

/-- Only the proxy of a file can be refused an unwrapping, which then does
    nothing. -/
theorem Op.unwrapObject_refused (memory : Memory) (p : Proxy η)
    {ev : List Event} :
    ((Op.unwrapObject p).run memory).Ensures i ev (fun _ _ _ => True)
      (fun e j ev' => (∃ id, p.target = .container id) ∧
        e = .failed (.wrongProxy Operation.unwrap.name "object") ∧
        j = i ∧ ev' = ev)
      (fun _ _ _ => True) := by
  rw [run, Call.ensures_map, Call.ensures_mapError, Interceptor.unwrapObject]
  cases p.target with
  | container id =>
      dsimp only
      rw [Call.ensures_fail]
      exact ⟨⟨id, rfl⟩, rfl, rfl, rfl⟩
  | object node =>
      dsimp only
      rw [Call.ensures_bind, ensures_startTimer]
      exact (release_unfailing (Registry.untrack_unfailing node) memory _ _ _ _
        _ ev).mono (fun _ _ _ h => h) (fun _ _ _ h => h.elim) fun _ _ _ h => h

/-- An operation that is refused a proxy leaves the bookkeeping alone. -/
theorem Op.untouched_of_refused (memory : Memory) (htaken : op.taken = some p)
    (he : (op.run memory i).outcome = .error e) :
    i.Untouched (op.run memory i).state := by
  have hspared : (op.run memory).Spares (fun j _ => i.Untouched j) →
      i.Untouched (op.run memory i).state := fun hx =>
    (hx i [] (.refl i)).error he
  cases op with
  | closeFile proxy =>
      exact hspared (((closeFile_spares memory proxy).mapError _).map _)
  | closeObject proxy =>
      exact hspared (((closeObject_spares memory proxy).mapError _).map _)
  | unwrapObject proxy =>
      exact hspared (((unwrapObject_spares memory proxy).mapError _).map _)
  | _ => cases htaken

omit [Library ω η τ] [Host ω] in
/-- No handle is closed where a proxy is refused. -/
theorem Op.Makes.accepts_none {new : List (Traffic η)}
    (h : op.Makes new (.error e)) (htaken : op.taken = some p)
    (sort : Option Kind) (raw : η) : .closed sort raw true ∉ new := by
  have hclosing : ∀ {s q}, Closing s q new (.error e) →
      Traffic.closed sort raw true ∉ new := by
    intro s q hc
    cases hc with
    | refused => simp
  have hmistaken : ∀ {q}, Mistaken q new (.error e) →
      Traffic.closed sort raw true ∉ new := by
    intro q hm
    cases hm with
    | refused => simp
  cases op with
  | closeFile proxy =>
      rw [Makes] at h
      cases htarget : proxy.target with
      | container id => rw [htarget] at h; exact hclosing h
      | object node => rw [htarget] at h; exact hmistaken h
  | closeObject proxy =>
      rw [Makes] at h
      cases htarget : proxy.target with
      | container id => rw [htarget] at h; exact hmistaken h
      | object node => rw [htarget] at h; exact hclosing h
  | unwrapObject proxy =>
      rw [Makes] at h
      cases h with
      | refused => simp
  | _ => cases htaken

/-- What a refused proxy leaves: its reference and its handle are in place, and
    it is handed back unless it is the proxy of a file that was to be
    unwrapped. -/
structure Op.RefusedAt (op : Op η) (p : Proxy η) (e : Refusal η)
    (i j : Interceptor ω τ) (ev : List Event) : Prop where
  registry_eq : j.registry = i.registry
  live : p.target.reference.Live j.registry
  unclosed : ∀ P : List (Traffic η) → ω → List Event → Prop, Follows P →
    P [] i.world [] →
    ∃ new, (∀ sort raw, .closed sort raw true ∉ new) ∧ P new j.world ev
  handback : e.proxy? = some p ∨
    op = .unwrapObject p ∧ (∃ id, p.target = .container id) ∧ e.proxy? = none

theorem follows_true :
    Follows fun (_ : List (Traffic η)) (_ : ω) (_ : List Event) => True where
  compare := fun raw a b => Identity.compare_keeps_true raw a b
  now := fun _ => trivial
  containerId := fun _ _ => trivial
  objectInfo := fun _ _ _ => trivial
  datasetShape := fun _ _ => trivial
  readDataset := fun _ _ _ => trivial
  writeDataset := fun _ _ _ => trivial
  container := fun _ _ _ => trivial
  object := fun _ _ _ _ _ => trivial
  closeContainer := fun _ _ => trivial
  closeObject := fun _ _ _ => trivial
  loss := fun _ _ _ => trivial
  event := fun _ _ _ => trivial

/-- Only a close hands back what it is refused. -/
theorem Op.proxy?_of_refused (memory : Memory)
    (he : (op.run memory i).outcome = .error e) : e.proxy? = op.toClose := by
  obtain ⟨new, hnew, -⟩ := Op.run_makes (follows_true (ω := ω)) memory op
    (i := i) trivial
  rw [he] at hnew
  exact hnew.settles.2

theorem Op.refused {held : Multiset Reference} (memory : Memory)
    (h : i.registry.Consistent held) (hp : p.target.reference ∈ held)
    (htaken : op.taken = some p) (he : (op.run memory i).outcome = .error e) :
    op.RefusedAt p e i (op.run memory i).state (op.run memory i).events := by
  have huntouched := Op.untouched_of_refused memory htaken he
  have hback := Op.proxy?_of_refused memory he
  refine ⟨huntouched.registry_eq, ?_, ?_, ?_⟩
  · exact (op.restored_of_untouched e.error huntouched).live h hp
  · intro P hP hstart
    obtain ⟨new, hnew, hend⟩ := Op.run_makes hP memory op hstart
    rw [he] at hnew
    exact ⟨new, hnew.accepts_none htaken, hend⟩
  · cases op with
    | closeFile proxy => exact Or.inl (hback.trans htaken)
    | closeObject proxy => exact Or.inl (hback.trans htaken)
    | unwrapObject proxy =>
        obtain rfl : proxy = p := Option.some.inj htaken
        have hfile := (Op.unwrapObject_refused memory proxy).error he
        exact Or.inr ⟨rfl, hfile.1, hback⟩
    | _ => cases htaken

/-! ## A close that follows -/

/-- A close that the library accepts gives back the reference and closes the
    handle, and nothing else. -/
structure Op.Closed (p : Proxy η) (i j : Interceptor ω τ) (ev : List Event) :
    Prop where
  consistent : ∀ others : Multiset Reference,
    i.registry.Consistent (p.target.reference ::ₘ others) →
    j.registry.Consistent others
  closed : ∀ P : List (Traffic η) → ω → List Event → Prop, Follows P →
    P [] i.world [] → P [.closed p.sort p.handle true] j.world ev

theorem Op.close_kept {others : Multiset Reference} (memory : Memory)
    (h : i.registry.Consistent (p.target.reference ::ₘ others))
    (hw : p.Accepted i.world) :
    (p.close.run memory).Ensures i []
      (fun _ j _ => j.registry.Consistent others) (fun _ _ _ => False)
      (fun _ _ _ => False) := by
  rw [Proxy.Accepted, Proxy.release] at hw
  rw [Proxy.close]
  cases htarget : p.target with
  | container id =>
      rw [htarget] at h hw
      dsimp only at hw ⊢
      rw [run, Call.ensures_map, Call.ensures_mapError, Interceptor.closeFile]
      simp only [htarget]
      rw [Call.ensures_bind, ensures_startTimer, Call.ensures_bind]
      refine releaseHandle_ensures (fun w _ => ?_) fun cause w hcause => ?_
      · exact release_kept (Registry.closeContainer_ensures _ (Or.inl rfl)
          h.toBalanced fun hget => h.occupied hget)
      · rw [hcause] at hw
        cases hw
  | object node =>
      rw [htarget] at h hw
      dsimp only at hw ⊢
      rw [run, Call.ensures_map, Call.ensures_mapError,
        Interceptor.closeObject]
      simp only [htarget]
      rw [Call.ensures_bind, ensures_startTimer, Call.ensures_bind]
      refine releaseHandle_ensures (fun w _ => ?_) fun cause w hcause => ?_
      · exact release_kept (Registry.untrack_ensures h)
      · rw [hcause] at hw
        cases hw

omit [Library ω η τ] [Host ω] in
theorem Op.Makes.of_close {new : List (Traffic η)} {a : Answer η}
    (h : p.close.Makes new (.value a)) :
    new = [.closed p.sort p.handle true] ∧ ∃ n, a = .remaining n := by
  rw [Proxy.close] at h
  rw [Proxy.sort]
  cases htarget : p.target with
  | container id =>
      rw [htarget] at h
      dsimp only at h
      rw [Makes, htarget] at h
      cases h with
      | closed n => exact ⟨rfl, n, rfl⟩
  | object node =>
      rw [htarget] at h
      dsimp only at h
      rw [Makes, htarget] at h
      cases h with
      | closed n => exact ⟨rfl, n, rfl⟩

/-- A proxy that is held can be closed once the library accepts that. -/
theorem Op.close_ensures {others : Multiset Reference} (memory : Memory)
    (h : i.registry.Consistent (p.target.reference ::ₘ others))
    (hw : p.Accepted i.world) :
    (∃ n, (p.close.run memory i).outcome = .value (.remaining n)) ∧
      Op.Closed p i (p.close.run memory i).state (p.close.run memory i).events := by
  obtain ⟨a, ha, -⟩ := (Op.close_kept memory h hw).exists_value
  refine ⟨?_, ?_, ?_⟩
  · obtain ⟨new, hnew, -⟩ := Op.run_makes (follows_true (ω := ω)) memory p.close
      (i := i) trivial
    rw [ha] at hnew
    obtain ⟨-, n, rfl⟩ := hnew.of_close
    exact ⟨n, ha⟩
  · exact fun others h' => (Op.close_kept memory h' hw).value ha
  · intro P hP hstart
    obtain ⟨new, hnew, hend⟩ := Op.run_makes hP memory p.close hstart
    rw [ha] at hnew
    rw [← hnew.of_close.1]
    exact hend

/-! ## The end of an interceptor -/

omit [Library ω η τ] in
/-- The report may be refused, but only if one is asked for; else the end tells
    what the registry still counts. -/
theorem terminate_ensures {ev : List Event} :
    (terminate : Call (Interceptor ω τ) _ _).Ensures i ev
      (fun s _ _ => s.teardown.leaked = i.registry.leaks)
      (fun _ j _ => i.config.statFile.isSome ∧ j.registry = i.registry)
      (fun _ _ _ => False) := by
  have hclose : ∀ (j : Interceptor ω τ) ev', j.registry = i.registry →
      (onRegistry (Registry.alone Registry.close) >>= fun teardown =>
        Call.state >>= fun k => pure ⟨teardown, k.stats, k.overhead⟩ :
        Call (Interceptor ω τ) InterceptError Summary).Ensures j ev'
        (fun s _ _ => s.teardown.leaked = i.registry.leaks)
        (fun _ j _ => i.config.statFile.isSome ∧ j.registry = i.registry)
        (fun _ _ _ => False) := by
    intro j ev' hreg
    rw [Call.ensures_bind, onRegistry, Call.ensures_focus, Registry.ensures_alone,
      ← hreg]
    refine Call.Ensures.of_eq rfl ?_
    dsimp only
    rw [Call.ensures_bind, Call.ensures_state, Call.ensures_pure]
  rw [terminate, Call.ensures_bind, Call.ensures_state]
  cases hpath : i.config.statFile with
  | none =>
      rw [hpath] at hclose
      exact hclose i ev rfl
  | some path =>
      rw [hpath] at hclose
      dsimp only
      rw [Call.ensures_bind, writeReport, Call.ensures_bind, Call.ensures_state]
      by_cases hc : i.config.recordOverhead = true
      · rw [if_pos hc, onWorld, Call.ensures_focus, Call.ensures_mapError,
          Call.ensures_ofTry]
        split
        · exact hclose _ _ rfl
        · exact ⟨rfl, rfl⟩
      · rw [if_neg hc, onWorld, Call.ensures_focus, Call.ensures_mapError,
          StatsTable.writeReport, Call.ensures_mapError, Call.ensures_ofTry]
        split
        · exact hclose _ _ rfl
        · exact ⟨rfl, rfl⟩

end

end Interceptor

namespace InMemory

open Interceptor

/-! ## Every run -/

/-- The states that a run over a library in memory can reach, with what the
    callers hold, the proxies that they forfeited, the raw handles that they
    have, and the number of handles that were given up.  An operation works on
    what is held. -/
inductive Holding : Multiset (Asset Handle) → Multiset (Asset Handle) →
    Multiset Handle → Nat → Interceptor World Token → Prop
  | start (memory : Memory) (config : Config) (w : World)
      {i : Interceptor World Token} (h : ofConfig memory config w = .ok i)
      (hw : w.library.openHandles = 0) : Holding 0 0 0 0 i
  | step {i : Interceptor World Token} {forfeited : Multiset (Asset Handle)}
      {lost : Nat} (memory : Memory) (op : Op Handle)
      (spent rest : Multiset (Asset Handle)) (raws : Multiset Handle)
      (h : Holding (spent + rest) forfeited (op.given + raws) lost i)
      (hop : op.Backed spent rest) :
      Holding (handed (op.run memory i).outcome + rest)
        (op.forfeits (op.run memory i).outcome + forfeited)
        (unwrapped (op.run memory i).outcome + raws)
        (lost + (op.run memory i).events.countP Event.tellsLoss)
        (op.run memory i).state
  | raw {held forfeited : Multiset (Asset Handle)} {raws : Multiset Handle}
      {lost : Nat} {i : Interceptor World Token} (container : ContainerId)
      (address : UInt64) (h : Holding held forfeited raws lost i) :
      Holding held forfeited
        ((i.world.library.rawObject container address).1 ::ₘ raws) lost
        { i with world := { i.world with
          library := (i.world.library.rawObject container address).2 } }
  | other {held forfeited : Multiset (Asset Handle)} {raws : Multiset Handle}
      {lost : Nat} {i : Interceptor World Token} (w : World)
      (hw : w.library.openHandles = i.world.library.openHandles)
      (h : Holding held forfeited raws lost i) :
      Holding held forfeited raws lost { i with world := w }

section

variable {held forfeited spent rest : Multiset (Asset Handle)}
  {raws : Multiset Handle} {lost : Nat} {i : Interceptor World Token}
  {op : Op Handle}

/-- What was to be given up is handed back, unless it is forfeited. -/
theorem handed_add_forfeits (memory : Memory) {e : Refusal Handle}
    (hop : op.Backed spent rest)
    (h : i.registry.Consistent (references (spent + rest)))
    (he : (op.run memory i).outcome = .error e) :
    spent = handed (.error e) + op.forfeits (.error e) := by
  have hback := Op.proxy?_of_refused memory he
  rw [handed, hback]
  cases op with
  | openFile access name => exact hop
  | closeFile proxy => exact hop
  | openObject access parent kind name => exact hop.1
  | closeObject proxy => exact hop
  | readDataset proxy selected => exact hop.1
  | writeDataset proxy selected => exact hop.1
  | pin proxy => exact hop.1
  | unpin context =>
      -- a context that is held can be given up
      obtain rfl : spent = {.context context} := hop
      rw [references_singleton_add] at h
      have hunpin : ((Op.unpin context : Op Handle).run memory).Ensures i []
          (fun _ _ _ => True) (fun _ _ _ => False) (fun _ _ _ => True) := by
        rw [Op.run, Call.ensures_map]
        exact (unpin_kept memory context h).mono (fun _ _ _ _ => trivial)
          (fun _ _ _ h => h) fun _ _ _ _ => trivial
      exact (hunpin.error he).elim
  | wrapObject raw kind context => exact hop.1
  | completeRequest parent raw kind name => exact hop.1
  | unwrapObject proxy => exact hop

theorem backed_add (hop : op.Backed spent rest)
    (more : Multiset (Asset Handle)) : op.Backed spent (rest + more) := by
  have hmem : ∀ {a}, a ∈ rest → a ∈ rest + more := fun ha =>
    Multiset.mem_add.mpr (Or.inl ha)
  cases op with
  | openObject | readDataset | writeDataset | pin | wrapObject
  | completeRequest => exact ⟨hop.1, hmem hop.2⟩
  | _ => exact hop

/-- What is held or forfeited is what the registry takes for owned. -/
theorem Holding.run (h : Holding held forfeited raws lost i) :
    Run (held + forfeited) raws lost i := by
  induction h with
  | start memory config w h hw => exact .start memory config w h hw
  | @step i forfeited lost memory op spent rest raws h hop ih =>
      rw [Multiset.add_assoc] at ih
      have hop' := backed_add hop forfeited
      have hstep := ih.step memory op spent (rest + forfeited) raws hop'
      have hreg := ih.reached.consistent steadyClock
      have howned : settled spent (rest + forfeited) (op.run memory i).outcome
          = handed (op.run memory i).outcome + rest
            + (op.forfeits (op.run memory i).outcome + forfeited) := by
        rcases ho : (op.run memory i).outcome with a | e | f
        · show a.issued + (rest + forfeited) = a.issued + rest + (0 + forfeited)
          rw [Multiset.zero_add, Multiset.add_assoc]
        · have hspent := handed_add_forfeits memory hop' hreg ho
          show spent + (rest + forfeited) = _
          rw [hspent]
          ac_rfl
        · exact absurd ((Op.run_keeps steadyClock memory op hop' hreg).fault ho).2
            (not_faults f)
      rw [← howned]
      exact hstep
  | raw container address h ih => exact ih.raw container address
  | other w hw h ih => exact ih.other w hw

/-- Only proxies of files are forfeited. -/
theorem Holding.of_forfeited (h : Holding held forfeited raws lost i) :
    ∀ a ∈ forfeited, ∃ p id, a = .proxy p ∧ p.target = .container id := by
  induction h with
  | start => exact fun a ha => absurd ha (Multiset.notMem_zero a)
  | @step i forfeited lost memory op spent rest raws h hop ih =>
      intro a ha
      rcases Multiset.mem_add.mp ha with ha | ha
      · rcases ho : (op.run memory i).outcome with v | e | f
        · rw [ho] at ha
          exact absurd ha (Multiset.notMem_zero a)
        · rw [ho] at ha
          cases op with
          | unwrapObject proxy =>
              obtain rfl : a = .proxy proxy := Multiset.mem_singleton.mp ha
              obtain ⟨id, hid⟩ := ((Op.unwrapObject_refused memory proxy).error ho).1
              exact ⟨proxy, id, rfl, hid⟩
          | _ => exact absurd ha (Multiset.notMem_zero a)
        · rw [ho] at ha
          exact absurd ha (Multiset.notMem_zero a)
      · exact ih a ha
  | raw container address h ih => exact ih
  | other w hw h ih => exact ih

/-- Where callers gave up all that they held, the handles that are open are
    those of forfeited proxies, the raw handles that the callers have and those
    that were given up with a warning, and what the registry still counts is
    forfeited. -/
theorem Holding.ends (h : Holding 0 forfeited raws lost i) :
    i.world.library.openHandles = forfeited.card + raws.card + lost ∧
      (i.config.statFile = none → ∃ s, (terminate i).outcome = .value s) ∧
      ∀ s, (terminate i).outcome = .value s →
        (s.teardown.leaked = [] ↔ forfeited = 0) ∧
        ∀ l ∈ s.teardown.leaked, .opened l.id ∈ references forfeited ∧
          l.refcount = (references forfeited).count (.opened l.id) ∧
          ∀ k, l.counts.get k = 0 := by
  have hrun := h.run
  rw [Multiset.zero_add] at hrun
  have hreg := hrun.reached.consistent steadyClock
  have hfiles := h.of_forfeited
  have hend : (terminate : Call _ InterceptError Summary).Ensures i [] _ _ _ :=
    terminate_ensures
  refine ⟨?_, ?_, ?_⟩
  · have hproxies : proxies forfeited = forfeited.card := by
      refine Multiset.countP_eq_card.mpr fun a ha => ?_
      obtain ⟨p, id, rfl, -⟩ := hfiles a ha
      rfl
    rw [hrun.openHandles_eq, hproxies]
  · intro hnone
    rcases ho : (terminate i).outcome with s | e | f
    · exact ⟨s, rfl⟩
    · have hsome := (hend.error ho).1
      rw [hnone] at hsome
      cases hsome
    · exact (hend.fault ho).elim
  · intro s hs
    rw [hend.value hs]
    refine ⟨?_, fun l hl => hreg.leak_of_opened ?_ hl⟩
    · rw [hreg.leaks_eq_nil_iff, references, Multiset.map_eq_zero]
    · intro r hr
      obtain ⟨a, ha, rfl⟩ := Multiset.mem_map.mp hr
      obtain ⟨p, id, rfl, hid⟩ := hfiles a ha
      exact ⟨id, by rw [Asset.reference, hid, Target.reference]⟩

end

end InMemory

open Interceptor

/-- An operation that is refused the proxy it takes leaves the reference and the
    handle of the proxy in place, whatever refused it, and hands the proxy
    back, except where the proxy of a file was to be unwrapped.  A close of the
    right sort that the library accepts then gives both back.  At the end of a
    run over a library in memory whose callers gave up all that they held, what
    leaks is what they forfeited to such unwrappings, as told by the summary of
    `terminate`. -/
theorem proxies_come_back (memory : Memory) :
    (∀ {ω η τ : Type} [Library ω η τ] [Host ω] (i : Interceptor ω τ)
        (owned : Multiset (Asset η)) (op : Op η) (p : Proxy η) (e : Refusal η),
        Reached owned i → .proxy p ∈ owned → op.taken = some p →
        (op.run memory i).outcome = .error e →
        op.RefusedAt p e i (op.run memory i).state (op.run memory i).events) ∧
      (∀ {ω η τ : Type} [Library ω η τ] [Host ω] (i : Interceptor ω τ)
        (rest : Multiset (Asset η)) (p : Proxy η),
        Reached ({.proxy p} + rest) i → p.Accepted i.world →
        (∃ n, (p.close.run memory i).outcome = .value (.remaining n)) ∧
          Op.Closed p i (p.close.run memory i).state
            (p.close.run memory i).events) ∧
      ∀ (forfeited : Multiset (Asset InMemory.Handle))
        (raws : Multiset InMemory.Handle) (lost : Nat)
        (i : Interceptor InMemory.World Token),
        InMemory.Holding 0 forfeited raws lost i →
        (∀ a ∈ forfeited, ∃ p id, a = .proxy p ∧ p.target = .container id) ∧
        i.world.library.openHandles = forfeited.card + raws.card + lost ∧
        (i.config.statFile = none → ∃ s, (terminate i).outcome = .value s) ∧
        ∀ s, (terminate i).outcome = .value s →
          (s.teardown.leaked = [] ↔ forfeited = 0) ∧
          ∀ l ∈ s.teardown.leaked, .opened l.id ∈ references forfeited ∧
            l.refcount = (references forfeited).count (.opened l.id) ∧
            ∀ k, l.counts.get k = 0 := by
  refine ⟨?_, ?_, ?_⟩
  · intro ω η τ _ _ i owned op p e h hp htaken he
    obtain ⟨others, hreg⟩ := h.exists_consistent
    exact Op.refused memory hreg
      (Multiset.mem_add.mpr (Or.inl (reference_mem_references hp))) htaken he
  · intro ω η τ _ _ i rest p h hw
    obtain ⟨others, hreg⟩ := h.exists_consistent
    rw [references_singleton_add_add] at hreg
    exact Op.close_ensures memory hreg hw
  · intro forfeited raws lost i h
    exact ⟨h.of_forfeited, h.ends⟩

/-- A file whose close the library refuses once: its proxy comes back and is
    closed then, and nothing leaks. -/
theorem proxies_come_back_of_refused_close :
    ∃ i j k : Interceptor InMemory.World Token,
      (Op.closeFile ⟨⟨0x1010, ⟨1⟩⟩, ⟨1⟩, .container ⟨1⟩⟩ :
        Op InMemory.Handle).RefusedAt ⟨⟨0x1010, ⟨1⟩⟩, ⟨1⟩, .container ⟨1⟩⟩
        (.notClosed ⟨⟨⟨0x1010, ⟨1⟩⟩, ⟨1⟩, .container ⟨1⟩⟩,
          .library "file_close" ⟨"injected failure in close_container"⟩⟩) i j
        [.containerCloseRejected ⟨1⟩
          "file_close failed in the underlying library"] ∧
      Op.Closed (⟨⟨0x1010, ⟨1⟩⟩, ⟨1⟩, .container ⟨1⟩⟩ : Proxy InMemory.Handle)
        j k [] ∧
      k.world.library.openHandles = 0 ∧
      ∃ s, (terminate k).outcome = .value s ∧ s.teardown.leaked = [] := by
  have hstart := InMemory.Holding.start Memory.addressSpace
    { Config.default with statsCapacity := 2 } (InMemory.World.new ⟨1⟩) rfl rfl
  have hfile := hstart.step Memory.addressSpace (.openFile .created "f") 0 0 0 rfl
  have hfailing := hfile.other (InMemory.World.onLibrary
    (fun s => { s with failing := [.closeContainer] }) _) rfl
  have hrefused := hfailing.step Memory.addressSpace
    (.closeFile ⟨⟨0x1010, ⟨1⟩⟩, ⟨1⟩, .container ⟨1⟩⟩)
    {.proxy ⟨⟨0x1010, ⟨1⟩⟩, ⟨1⟩, .container ⟨1⟩⟩} 0 0 (by exact rfl)
  have hclosed := hrefused.step Memory.addressSpace
    (.closeFile ⟨⟨0x1010, ⟨1⟩⟩, ⟨1⟩, .container ⟨1⟩⟩)
    {.proxy ⟨⟨0x1010, ⟨1⟩⟩, ⟨1⟩, .container ⟨1⟩⟩} 0 0 (by exact rfl)
  have hfirst := (proxies_come_back Memory.addressSpace).1 _ _
    (.closeFile ⟨⟨0x1010, ⟨1⟩⟩, ⟨1⟩, .container ⟨1⟩⟩) _ _
    hfailing.run.reached (Multiset.mem_singleton_self _) rfl rfl
  have hagain := ((proxies_come_back Memory.addressSpace).2.1 _ 0
    (⟨⟨0x1010, ⟨1⟩⟩, ⟨1⟩, .container ⟨1⟩⟩ : Proxy InMemory.Handle)
    hrefused.run.reached rfl).2
  have hend := (proxies_come_back Memory.addressSpace).2.2 _ _ _ _ hclosed
  obtain ⟨s, hs⟩ := hend.2.2.1 rfl
  exact ⟨_, _, _, hfirst, hagain, hend.2.1, s, hs, (hend.2.2.2 s hs).1.mpr rfl⟩

/-- A file proxy that is given to be unwrapped is lost: the refusal does not
    hand it back, its handle stays open, and its container leaks at the end. -/
theorem unwrapObject_loses_file :
    ∃ (i : Interceptor InMemory.World Token) (e : Refusal InMemory.Handle)
        (s : Summary),
      InMemory.Holding {.proxy ⟨⟨0x1010, ⟨1⟩⟩, ⟨1⟩, .container ⟨1⟩⟩} 0 0 0 i ∧
      ((Op.unwrapObject ⟨⟨0x1010, ⟨1⟩⟩, ⟨1⟩, .container ⟨1⟩⟩).run
        Memory.addressSpace i).outcome = .error e ∧
      e.proxy? = none ∧
      InMemory.Holding 0 {.proxy ⟨⟨0x1010, ⟨1⟩⟩, ⟨1⟩, .container ⟨1⟩⟩} 0 0 i ∧
      i.world.library.openHandles = 1 ∧
      (terminate i).outcome = .value s ∧
      s.teardown.leaked = [⟨⟨1⟩, some "a.h5", 1, .replicate 0⟩] := by
  have hstart := InMemory.Holding.start Memory.addressSpace
    { Config.default with statsCapacity := 1 } (InMemory.World.new ⟨1⟩) rfl rfl
  have hfile := hstart.step Memory.addressSpace (.openFile .created "a.h5") 0 0 0
    rfl
  have hunwrap := hfile.step Memory.addressSpace
    (.unwrapObject ⟨⟨0x1010, ⟨1⟩⟩, ⟨1⟩, .container ⟨1⟩⟩)
    {.proxy ⟨⟨0x1010, ⟨1⟩⟩, ⟨1⟩, .container ⟨1⟩⟩} 0 0 (by exact rfl)
  exact ⟨_, .failed (.wrongProxy "unwrap_object" "object"), _, hfile, rfl, rfl,
    hunwrap, rfl, rfl, rfl⟩

end Provenance
