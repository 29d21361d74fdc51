import Mathlib.Data.Multiset.Count
import Provenance.Proofs.Interceptor.Custody
import Provenance.Proofs.Interceptor.Ownership
import Provenance.Proofs.Library.Requests

/-! # The open handles of a library in memory

    A library in memory counts the handles that it gave out and did not take
    back.  In a run whose callers wrap only raw handles that they have, each
    once, that count is the number of proxies that they own, of raw handles
    that they have, and of handles that were given up with a warning because
    the library refused to close them.

    The count follows the traffic of each operation (`InMemory.follows`), and
    that traffic conserves the sum (`Op.Makes.conserves`). -/

namespace Provenance

open Interceptor

variable {η : Type}

/-! ## Counting -/

/-- The number of open handles after a step of traffic. -/
def Traffic.tally (n : Nat) : Traffic η → Nat
  | issued _ => n + 1
  | closed _ _ true => n - 1
  | closed _ _ false => n
  | lost => n

/-- The step gives up a handle. -/
def Traffic.isLoss : Traffic η → Bool
  | lost => true
  | _ => false

/-- The number of handles given up in some traffic. -/
def Traffic.losses (log : List (Traffic η)) : Nat := log.countP Traffic.isLoss

namespace Interceptor

/-- What is owned is a proxy. -/
def Asset.isProxy : Asset η → Bool
  | proxy _ => true
  | context _ => false

/-- The number of proxies that are owned. -/
def proxies (owned : Multiset (Asset η)) : Nat :=
  owned.countP fun a => a.isProxy

@[simp]
theorem proxies_add (a b : Multiset (Asset η)) :
    proxies (a + b) = proxies a + proxies b :=
  Multiset.countP_add ..

@[simp]
theorem proxies_proxy (p : Proxy η) : proxies {Asset.proxy p} = 1 := rfl

/-- The raw handle that an answer leaves with the caller. -/
def Answer.unwrapped : Answer η → Multiset η
  | raw handle => {handle}
  | _ => 0

/-- The raw handles that an operation leaves with its caller. -/
def unwrapped : Outcome (Refusal η) (Answer η) → Multiset η
  | .value a => a.unwrapped
  | _ => 0

/-! ## One operation -/

section

variable {sort : Option Kind} {raw : η} {proxy : Proxy η}
  {new : List (Traffic η)} {o : Outcome (Refusal η) (Answer η)} {op : Op η}
  {spent rest : Multiset (Asset η)} {raws : Multiset η} {n lost : Nat}

/-- A handle that is discarded is either closed or given up. -/
theorem tally_discarded (sort : Option Kind) (raw : η) (accepted : Bool) (n : Nat) :
    (Traffic.discarded sort raw accepted).foldl Traffic.tally (n + 1)
      = n + Traffic.losses (Traffic.discarded sort raw accepted) := by
  cases accepted with
  | true => rfl
  | false => rfl

theorem Custody.conserves (h : Custody sort raw new o) (ho : o.isFault = false) :
    new.foldl Traffic.tally (proxies rest + n + 1)
      = proxies (settled 0 rest o) + (unwrapped o).card + n
        + Traffic.losses new := by
  cases h with
  | returned p hp =>
      -- the handle is in a proxy now
      show proxies rest + n + 1 = proxies ({.proxy p} + rest) + 0 + n + 0
      rw [proxies_add, proxies_proxy]
      omega
  | discarded accepted e =>
      show _ = proxies (0 + rest) + 0 + n + _
      rw [tally_discarded, Multiset.zero_add, Nat.add_zero]
  | abandoned f => cases ho

theorem Opening.conserves (h : Opening sort new o) (ho : o.isFault = false) :
    new.foldl Traffic.tally (proxies rest + n)
      = proxies (settled 0 rest o) + (unwrapped o).card + n
        + Traffic.losses new := by
  cases h with
  | failed e =>
      show proxies rest + n = proxies (0 + rest) + 0 + n + 0
      rw [Multiset.zero_add, Nat.add_zero, Nat.add_zero]
  | faulted f => cases ho
  | @issued raw new o h =>
      rw [List.foldl_cons, Traffic.tally, h.conserves ho]
      rfl

theorem Closing.conserves (h : Closing sort proxy new o)
    (ho : o.isFault = false) :
    new.foldl Traffic.tally (proxies ({.proxy proxy} + rest) + n)
      = proxies (settled {.proxy proxy} rest o) + (unwrapped o).card + n
        + Traffic.losses new := by
  cases h with
  | closed k =>
      -- the proxy is gone, and its handle with it
      show proxies ({.proxy proxy} + rest) + n - 1
        = proxies (0 + rest) + 0 + n + 0
      rw [proxies_add, proxies_proxy, Multiset.zero_add]
      omega
  -- the caller keeps the proxy, so its handle stays open
  | refused e => rfl
  | faulted f => cases ho

theorem Mistaken.conserves (h : Mistaken proxy new o) :
    new.foldl Traffic.tally (proxies ({.proxy proxy} + rest) + n)
      = proxies (settled {.proxy proxy} rest o) + (unwrapped o).card + n
        + Traffic.losses new := by
  cases h with
  | refused e => rfl

theorem Silent.conserves {answers : Answer η → Prop} (h : Silent answers new o)
    (ho : o.isFault = false)
    (hanswers : ∀ a, answers a →
      proxies a.issued + a.unwrapped.card = proxies spent) :
    new.foldl Traffic.tally (proxies (spent + rest) + n)
      = proxies (settled spent rest o) + (unwrapped o).card + n
        + Traffic.losses new := by
  cases h with
  | @answered a ha =>
      have hcount := hanswers a ha
      show proxies (spent + rest) + n
        = proxies (a.issued + rest) + a.unwrapped.card + n + 0
      rw [proxies_add, proxies_add, ← hcount]
      omega
  | refused e => rfl
  | faulted f => cases ho

/-- An operation that works on what its caller owns conserves the number of
    handles that are accounted for. -/
theorem Op.Makes.conserves (h : op.Makes new o) (hop : op.Backed spent rest)
    (ho : o.isFault = false) :
    new.foldl Traffic.tally (proxies (spent + rest) + n + op.given.length)
      = proxies (settled spent rest o) + (unwrapped o).card + n
        + Traffic.losses new := by
  cases op with
  | openFile access name =>
      obtain rfl : spent = 0 := hop
      rw [Multiset.zero_add]
      exact Opening.conserves h ho
  | openObject access parent kind name =>
      obtain ⟨rfl, -⟩ := hop
      rw [Multiset.zero_add]
      exact Opening.conserves h ho
  | wrapObject raw kind context =>
      obtain ⟨rfl, -⟩ := hop
      rw [Multiset.zero_add]
      exact Custody.conserves h ho
  | completeRequest parent raw kind name =>
      obtain ⟨rfl, -⟩ := hop
      rw [Multiset.zero_add]
      exact Custody.conserves h ho
  | closeFile proxy =>
      obtain rfl : spent = {.proxy proxy} := hop
      cases htarget : proxy.target with
      | container id =>
          rw [Makes, htarget] at h
          exact h.conserves ho
      | object node =>
          rw [Makes, htarget] at h
          exact h.conserves
  | closeObject proxy =>
      obtain rfl : spent = {.proxy proxy} := hop
      cases htarget : proxy.target with
      | container id =>
          rw [Makes, htarget] at h
          exact h.conserves
      | object node =>
          rw [Makes, htarget] at h
          exact h.conserves ho
  | readDataset proxy selected =>
      obtain ⟨rfl, -⟩ := hop
      refine Silent.conserves h ho ?_
      rintro _ ⟨k, rfl⟩
      rfl
  | writeDataset proxy selected =>
      obtain ⟨rfl, -⟩ := hop
      refine Silent.conserves h ho ?_
      rintro _ ⟨k, rfl⟩
      rfl
  | pin proxy =>
      obtain ⟨rfl, -⟩ := hop
      refine Silent.conserves h ho ?_
      rintro _ ⟨context, rfl⟩
      rfl
  | unpin context =>
      obtain rfl : spent = {.context context} := hop
      refine Silent.conserves h ho ?_
      rintro _ ⟨k, rfl⟩
      rfl
  | unwrapObject proxy =>
      -- its handle goes from the proxy to the caller
      obtain rfl : spent = {.proxy proxy} := hop
      refine Silent.conserves h ho ?_
      rintro _ rfl
      rfl

end

end Interceptor

/-! ## The library in memory -/

namespace InMemory

/-- A call fails before it begins, or it does its work on the tables.  Either
    way the number of open handles is left to that work. -/
theorem World.call_cases {α : Type} (service : Service)
    (f : State → Except Cause α × State) (w : World) :
    (∃ cause, (call service f w).1 = .error cause ∧
        (call service f w).2.library.openHandles = w.library.openHandles) ∨
      ((call service f w).1 = (f w.library).1 ∧
        (call service f w).2.library = (f w.library).2) := by
  by_cases hs : service ∈ w.library.failing
  · rw [call_of_mem f hs]
    exact Or.inl ⟨_, rfl, rfl⟩
  · rw [call_of_not_mem f hs]
    exact Or.inr ⟨rfl, rfl⟩

/-- The count of open handles keeps up with the traffic, and the warnings with
    the losses in it. -/
def Counts (start : Nat) (log : List (Traffic Handle)) (w : World)
    (ev : List Event) : Prop :=
  w.library.openHandles = log.foldl Traffic.tally start ∧
    ev.countP Event.tellsLoss = Traffic.losses log

section

variable {start : Nat} {log : List (Traffic Handle)} {w : World}
  {ev : List Event} {α : Type} {service : Service}

/-- A call that leaves the count of open handles alone. -/
theorem Counts.pass {f : State → Except Cause α × State}
    (hf : ∀ s, (f s).2.openHandles = s.openHandles) (h : Counts start log w ev) :
    Counts start log (World.call service f w).2 ev := by
  obtain ⟨hopen, hloss⟩ := h
  refine ⟨?_, hloss⟩
  rcases World.call_cases service f w with ⟨cause, -, hw⟩ | ⟨-, hw⟩
  · rw [hw, hopen]
  · rw [hw, hf, hopen]

/-- A call that gives out a handle. -/
theorem Counts.issue {f : State → Except Cause Handle × State}
    (hf : ∀ s, (f s).2.openHandles
      = (Traffic.opened (f s).1).foldl Traffic.tally s.openHandles)
    (h : Counts start log w ev) :
    Counts start (log ++ Traffic.opened (World.call service f w).1)
      (World.call service f w).2 ev := by
  obtain ⟨hopen, hloss⟩ := h
  rw [Counts, List.foldl_append, ← hopen, Traffic.losses, List.countP_append]
  constructor
  · rcases World.call_cases service f w with ⟨cause, ha, hw⟩ | ⟨ha, hw⟩
    · rw [ha, hw]
      rfl
    · rw [ha, hw, hf]
  · rw [hloss, Traffic.losses]
    cases (World.call service f w).1 with
    | ok raw => rfl
    | error cause => rfl

/-- A call that takes a handle back. -/
theorem Counts.close (sort : Option Kind) (raw : Handle)
    (h : Counts start log w ev) :
    Counts start
      (log ++ [.closed sort raw
        (World.call service (fun s => (.ok (), s.release)) w).1.isOk])
      (World.call service (fun s => (.ok (), s.release)) w).2 ev := by
  obtain ⟨hopen, hloss⟩ := h
  rw [Counts, List.foldl_append, ← hopen, Traffic.losses, List.countP_append]
  constructor
  · rcases World.call_cases service (fun s => (.ok (), s.release)) w with
      ⟨cause, ha, hw⟩ | ⟨ha, hw⟩
    · rw [ha, hw]
      rfl
    · rw [ha, hw]
      rfl
  · rw [hloss]
    rfl

theorem createContainer_openHandles (name : String) (s : State) :
    (s.createContainer name).2.openHandles
      = (Traffic.opened (s.createContainer name).1).foldl Traffic.tally
          s.openHandles := by
  rw [State.createContainer]
  cases s.container? name with
  | none => rfl
  | some id => rfl

theorem openContainer_openHandles (name : String) (s : State) :
    (s.openContainer name).2.openHandles
      = (Traffic.opened (s.openContainer name).1).foldl Traffic.tally
          s.openHandles := by
  rw [State.openContainer]
  cases s.container? name with
  | none => rfl
  | some id => rfl

theorem createObject_openHandles (key : Key) (s : State) :
    (s.createObject key).2.openHandles
      = (Traffic.opened (s.createObject key).1).foldl Traffic.tally
          s.openHandles := by
  rw [State.createObject]
  cases s.object? key with
  | none => rfl
  | some handle => rfl

theorem openObject_openHandles (key : Key) (s : State) :
    (s.openObject key).2.openHandles
      = (Traffic.opened (s.openObject key).1).foldl Traffic.tally
          s.openHandles := by
  rw [State.openObject]
  cases s.object? key with
  | none => rfl
  | some handle => rfl

end

theorem follows (start : Nat) : Follows (Counts start) where
  now := fun h => h
  compare := by
    intro log raw a b w ev h
    show (World.compare a b).Ensures w ev _ _ _
    simp only [Call.Ensures, World.compare]
    by_cases hc : w.library.comparisonsFail = true
    · rw [if_pos hc]
      simpa using h
    · rw [if_neg hc]
      simpa using h
  containerId := fun raw h => h.pass fun _ => rfl
  objectInfo := fun raw kind h => h.pass fun _ => rfl
  datasetShape := fun raw h => h.pass fun _ => rfl
  readDataset := fun raw selected h => h.pass fun _ => rfl
  writeDataset := fun raw selected h => h.pass fun _ => rfl
  container := by
    intro log w ev access name h
    cases access with
    | created => exact h.issue (createContainer_openHandles name)
    | opened => exact h.issue (openContainer_openHandles name)
  object := by
    intro log w ev access parent kind name h
    cases access with
    | created => exact h.issue (createObject_openHandles _)
    | opened => exact h.issue (openObject_openHandles _)
  closeContainer := fun raw h => h.close none raw
  closeObject := fun raw kind h => h.close (some kind) raw
  loss := by
    rintro log w ev e he ⟨hopen, hloss⟩
    rw [Counts, List.foldl_append, ← hopen, List.countP_append, hloss,
      Traffic.losses, Traffic.losses, List.countP_append,
      List.countP_singleton, if_pos he]
    exact ⟨rfl, rfl⟩
  event := by
    rintro log w ev e he ⟨hopen, hloss⟩
    refine ⟨hopen, ?_⟩
    rw [List.countP_append, hloss, List.countP_singleton, he]
    rfl

/-- Its comparisons never end in a fault. -/
theorem not_faults (f : Fault) : ¬ Identity.Faults World f := by
  rintro ⟨raw, a, b, w, hf⟩
  have hcompare : (World.compare a b w).outcome = .fault f := hf
  simp only [World.compare] at hcompare
  by_cases hc : w.library.comparisonsFail = true
  · rw [if_pos hc] at hcompare
    cases hcompare
  · rw [if_neg hc] at hcompare
    cases hcompare

/-! ## Every run -/

/-- The states that a run over a library in memory can reach, with the proxies
    and contexts that are owned, the raw handles that the callers have, and the
    number of handles that were given up.  A raw handle comes from the library
    or from a proxy that was unwrapped, and is wrapped once; whatever else
    happens in the world leaves the open handles alone. -/
inductive Run : Multiset (Asset Handle) → Multiset Handle → Nat →
    Interceptor World Token → Prop
  | start (memory : Memory) (config : Config) (w : World)
      {i : Interceptor World Token} (h : ofConfig memory config w = .ok i)
      (hw : w.library.openHandles = 0) : Run 0 0 0 i
  | step {i : Interceptor World Token} {lost : Nat} (memory : Memory)
      (op : Op Handle) (spent rest : Multiset (Asset Handle))
      (raws : Multiset Handle) (h : Run (spent + rest) (op.given + raws) lost i)
      (hop : op.Backed spent rest) :
      Run (settled spent rest (op.run memory i).outcome)
        (unwrapped (op.run memory i).outcome + raws)
        (lost + (op.run memory i).events.countP Event.tellsLoss)
        (op.run memory i).state
  | raw {owned : Multiset (Asset Handle)} {raws : Multiset Handle} {lost : Nat}
      {i : Interceptor World Token} (container : ContainerId) (address : UInt64)
      (h : Run owned raws lost i) :
      Run owned
        ((i.world.library.rawObject container address).1 ::ₘ raws) lost
        { i with world := { i.world with
          library := (i.world.library.rawObject container address).2 } }
  | other {owned : Multiset (Asset Handle)} {raws : Multiset Handle} {lost : Nat}
      {i : Interceptor World Token} (w : World)
      (hw : w.library.openHandles = i.world.library.openHandles)
      (h : Run owned raws lost i) : Run owned raws lost { i with world := w }

section

variable {owned : Multiset (Asset Handle)} {raws : Multiset Handle} {lost : Nat}
  {i : Interceptor World Token}

theorem Run.reached (h : Run owned raws lost i) : Reached owned i := by
  induction h with
  | start memory config w h hw => exact .start memory config w h
  | step memory op spent rest raws h hop ih =>
      exact .step memory op spent rest ih hop
  | raw container address h ih => exact .other _ ih
  | other w hw h ih => exact .other w ih

/-- Every open handle is in a proxy that is owned, a raw handle of the callers,
    or was given up. -/
theorem Run.openHandles_eq (h : Run owned raws lost i) :
    i.world.library.openHandles = proxies owned + raws.card + lost := by
  induction h with
  | start memory config w h hw =>
      rw [(of_ofConfig h).1, hw]
      rfl
  | @step i lost memory op spent rest raws h hop ih =>
      have hkeeps := Op.run_keeps steadyClock memory op hop
        (h.reached.consistent steadyClock)
      -- no operation of a run is cut short
      have hfault : (op.run memory i).outcome.isFault = false := by
        rcases ho : (op.run memory i).outcome with a | e | f
        · rfl
        · rfl
        · exact absurd (hkeeps.fault ho).2 (not_faults f)
      obtain ⟨new, hnew, hopen, hloss⟩ := Op.run_makes
        (follows i.world.library.openHandles) memory op ⟨rfl, rfl⟩
      rw [Multiset.card_add, Multiset.coe_card] at ih
      -- the sum before the operation, with the handle that is handed in last
      have hsum : i.world.library.openHandles
          = proxies (spent + rest) + (raws.card + lost) + op.given.length := by
        omega
      have hnow := hnew.conserves hop hfault (n := raws.card + lost)
      rw [← hsum, ← hopen] at hnow
      rw [hnow, hloss, Multiset.card_add]
      omega
  | raw container address h ih =>
      -- one more handle is open, and the callers have it
      show _ + 1 = _
      rw [ih, Multiset.card_cons]
      omega
  | other w hw h ih =>
      rw [← ih]
      exact hw

end

end InMemory

/-! ## No handle leaks -/

/-- Over any library, from any state of an interceptor and whichever calls
    fail, an operation settles what it owes to the handles that it deals with,
    unless it faults.  In a run whose callers use what they own it never does,
    except where a comparison of the library does: other faults come from times
    that add up to more than the longest duration, and these are ruled out by
    the contract of a clock, that its readings do not go backward (`SteadyClock`).
    Over a library in memory, every handle that is open is in a proxy that is
    owned, a raw handle of the callers, or one that was given up with a
    warning. -/
theorem handles_settled :
    (∀ {ω η τ : Type} [Library ω η τ] [Host ω] (memory : Memory) (op : Op η)
        (i : Interceptor ω τ) (r : Ending (Interceptor (Watched ω η) τ) _ _),
        op.run memory i.watched = r →
        op.Settles r.state.world.issued r.state.world.closed r.outcome ∧
          op.run memory i = ⟨r.outcome, along Watched.world r.state, r.events⟩) ∧
      (∀ {ω η τ : Type} [Library ω η τ] [Host ω] (memory : Memory) (op : Op η)
        (i : Interceptor ω τ) (spent rest : Multiset (Asset η)) (f : Fault),
        SteadyClock ω → Reached (spent + rest) i → op.Backed spent rest →
        (op.run memory i).outcome = .fault f → Identity.Faults ω f) ∧
      ∀ (owned : Multiset (Asset InMemory.Handle))
        (raws : Multiset InMemory.Handle) (lost : Nat)
        (i : Interceptor InMemory.World Token),
        InMemory.Run owned raws lost i →
        i.world.library.openHandles = proxies owned + raws.card + lost := by
  refine ⟨?_, ?_, ?_⟩
  · intro ω η τ _ _ memory op i r hr
    exact Op.run_settles memory op i hr
  · intro ω η τ _ _ memory op i spent rest f hs hreached hop hf
    exact ((Op.run_keeps hs memory op hop (hreached.consistent hs)).fault hf).2
  · intro owned raws lost i h
    exact h.openHandles_eq

/-- A raw handle that cannot be wrapped, and that the library then refuses to
    close, is given up beside a file that is open. -/
theorem handles_settled_of_refused_close :
    ∃ i : Interceptor InMemory.World Token,
      InMemory.Run {.proxy ⟨⟨0x1010, ⟨1⟩⟩, ⟨1⟩, .container ⟨1⟩⟩} 0 1 i ∧
        i.world.library.openHandles = 2 := by
  have hstart := InMemory.Run.start Memory.addressSpace
    { Config.default with statsCapacity := 1 } (InMemory.World.new ⟨1⟩) rfl rfl
  have hfile := hstart.step Memory.addressSpace (.openFile .created "f") 0 0 0 rfl
  have hraw := hfile.raw ⟨1⟩ 0x9000
  have hfailing := hraw.other (InMemory.World.onLibrary
    (fun s => { s with failing := [.objectInfo, .closeObject] }) _) rfl
  have hwrap := hfailing.step Memory.addressSpace
    (.completeRequest ⟨⟨0x1010, ⟨1⟩⟩, ⟨1⟩, .container ⟨1⟩⟩ ⟨0x9000, ⟨1⟩⟩ .group
      none) 0 {.proxy ⟨⟨0x1010, ⟨1⟩⟩, ⟨1⟩, .container ⟨1⟩⟩} 0
    ⟨rfl, Multiset.mem_singleton_self _⟩
  exact ⟨_, hwrap, handles_settled.2.2 _ _ _ _ hwrap⟩

end Provenance
