import Provenance.Library.InMemory

/-! # Requests to a library in memory

    All that a program can ask of a library in memory, as data: the calls, and
    the ways to prepare what they will find.  What a request does to the tables
    is told by its reply (`Request.becomes`): a container got its number, an
    object came under a key, a shape was given to a name, or nothing of the
    kind.  Beside that, only the failures that wait to come true are touched
    (`Request.mem_failing`), and a call that fails leaves all else as it was
    (`Request.unchanged_of_failure`). -/

namespace Provenance.InMemory

/-- What can be asked of a library. -/
inductive Request where
  | container (access : Access) (name : String)
  | closeContainer (handle : Handle)
  | containerId (handle : Handle)
  | object (access : Access) (parent : Handle) (kind : Kind) (name : String)
  | closeObject (handle : Handle) (kind : Kind)
  | objectInfo (handle : Handle) (kind : Kind)
  | datasetShape (handle : Handle)
  | readDataset (handle : Handle) (selected : Option Nat)
  | writeDataset (handle : Handle) (selected : Option Nat)
  | compare (handle : Handle) (a b : Token)
  | link (source : ContainerId) (kind : Kind) (name : String) (target : ContainerId)
  | rawObject (container : ContainerId) (address : UInt64)
  | withShape (name : String) (shape : DatasetShape)
  | failNext (service : Service)
  | failComparisons (failing : Bool)
deriving DecidableEq

/-- What a library replies. -/
inductive Reply where
  | handle (handle : Handle)
  /-- A link was made.  Who asked for it is not told the handle. -/
  | linked (handle : Handle)
  | container (id : ContainerId)
  | info (info : ObjectInfo Token)
  | shape (shape : DatasetShape)
  | compared (order : Ordering)
  | incomparable (error : IdentityError)
  | done
  | failed (cause : Cause)

/-- The reply to a call. -/
def Reply.ofCall {α : Type} (f : α → Reply) : Except Cause α → Reply
  | .ok a => f a
  | .error cause => failed cause

/-- The reply to a comparison. -/
def Reply.ofComparison : Outcome IdentityError Ordering → Reply
  | .value order => compared order
  | .error error => incomparable error
  | .fault _ => done

/-- The request was not met. -/
def Reply.isFailure : Reply → Bool
  | failed _ => true
  | incomparable _ => true
  | _ => false

/-- The whole of a call. -/
def answered {α : Type} (f : α → Reply) (r : Except Cause α × World) : Reply × World :=
  (.ofCall f r.1, r.2)

namespace Request

/-- Meet a request. -/
def run : Request → World → Reply × World
  | container access name, w => answered .handle (Library.container access name w)
  | closeContainer handle, w => answered (fun _ => .done) (Library.closeContainer handle w)
  | containerId handle, w => answered .container (Library.containerId handle w)
  | object access parent kind name, w =>
      answered .handle (Library.object access parent kind name w)
  | closeObject handle kind, w =>
      answered (fun _ => .done) (Library.closeObject handle kind w)
  | objectInfo handle kind, w => answered .info (Library.objectInfo handle kind w)
  | datasetShape handle, w => answered .shape (Library.datasetShape handle w)
  | readDataset handle selected, w =>
      answered (fun _ => .done) (Library.readDataset handle selected w)
  | writeDataset handle selected, w =>
      answered (fun _ => .done) (Library.writeDataset handle selected w)
  | compare handle a b, w =>
      (.ofComparison (Identity.compare handle a b w).outcome,
        (Identity.compare handle a b w).state)
  | link source kind name target, w =>
      (.linked (w.library.allocate target).1,
        w.onLibrary fun s => s.link source kind name target)
  | rawObject id address, w =>
      (.handle (w.library.rawObject id address).1,
        w.onLibrary fun s => (s.rawObject id address).2)
  | withShape name shape, w => (.done, w.onLibrary fun s => s.withShape name shape)
  | failNext service, w => (.done, w.onLibrary fun s => s.failNext service)
  | failComparisons failing, w =>
      (.done, w.onLibrary fun s => { s with comparisonsFail := failing })

/-- The sort of call that gives a handle on a container. -/
def containerService : Access → Service
  | .created => .createContainer
  | .opened => .openContainer

/-- The sort of call that gives a handle on an object. -/
def objectService : Access → Service
  | .created => .createObject
  | .opened => .openObject

/-- The sort of call that a request makes. -/
def service? : Request → Option Service
  | .container access _ => some (containerService access)
  | closeContainer _ => some .closeContainer
  | containerId _ => some .containerId
  | object access _ _ _ => some (objectService access)
  | closeObject _ _ => some .closeObject
  | objectInfo _ _ => some .objectInfo
  | datasetShape _ => some .datasetShape
  | readDataset _ _ => some .readDataset
  | writeDataset _ _ => some .writeDataset
  | _ => none

end Request

/-! ## What a reply tells -/

/-- What a reply tells of the tables. -/
inductive News where
  | nothing
  /-- A container has a name, and a new handle on it was given out. -/
  | container (name : String) (handle : Handle)
  /-- A new handle stands under a key. -/
  | object (key : Key) (handle : Handle)
  /-- The datasets of a name have a shape. -/
  | shape (name : String) (shape : DatasetShape)

/-- What the reply to a request tells. -/
def Request.news : Request → Reply → News
  | .container _ name, .handle handle => .container name handle
  | .object .created parent kind name, .handle handle =>
      .object ⟨parent.container, kind, name⟩ handle
  | .link source kind name _, .linked handle => .object ⟨source, kind, name⟩ handle
  | .withShape name shape, _ => .shape name shape
  | _, _ => .nothing

/-- Two libraries have the same tables. -/
structure SameTables (s s' : State) : Prop where
  lastAddress : s'.lastAddress = s.lastAddress
  lastContainer : s'.lastContainer = s.lastContainer
  containers : s'.containers = s.containers
  objects : s'.objects = s.objects
  shapes : s'.shapes = s.shapes

/-- The tables with a new container of a name. -/
def State.found (s : State) (name : String) : State :=
  { s with
    lastContainer := s.lastContainer + 1
    containers := (name, ⟨s.lastContainer + 1⟩) :: s.containers }

/-- What a change of the tables is, where some news are told of it. -/
inductive Becomes (s s' : State) : News → Prop
  | still (h : SameTables s s') : Becomes s s' .nothing
  | reopened {name : String} {id : ContainerId} (hid : s.container? name = some id)
      (h : SameTables (s.allocate id).2 s') :
      Becomes s s' (.container name (s.allocate id).1)
  | founded {name : String} (hnew : s.container? name = none)
      (h : SameTables ((s.found name).allocate ⟨s.lastContainer + 1⟩).2 s') :
      Becomes s s' (.container name (s.allocate ⟨s.lastContainer + 1⟩).1)
  | entered {key : Key} {id : ContainerId}
      (h : SameTables ((s.allocate id).2.enterObject key (s.allocate id).1) s') :
      Becomes s s' (.object key (s.allocate id).1)
  | shaped {name : String} {shape : DatasetShape}
      (h : SameTables (s.withShape name shape) s') : Becomes s s' (.shape name shape)

theorem State.mem_failNext {service s : Service} {tables : State} :
    s ∈ (tables.failNext service).failing ↔ service = s ∨ s ∈ tables.failing := by
  rw [failNext]
  by_cases hmem : service ∈ tables.failing
  · rw [if_pos hmem]
    refine ⟨Or.inr, fun h => h.elim (fun heq => ?_) id⟩
    rw [← heq]
    exact hmem
  · rw [if_neg hmem, List.mem_cons, eq_comm]

/-! ## Calls -/

section

variable {service : Service} {w : World}

/-- The cause of a failure that waited for a sort of call. -/
def injected (service : Service) : Cause := ⟨"injected failure in " ++ service.name⟩

/-- The world once a call has begun: its time has passed, and no failure waits for
    its sort of call any more. -/
def World.begun (service : Service) (w : World) : World :=
  { w with
    clock := w.clock.advance w.latency
    library := { w.library with failing := w.library.failing.filter (· ≠ service) } }

theorem World.begun_of_not_mem (h : service ∉ w.library.failing) :
    w.begun service = { w with clock := w.clock.advance w.latency } := by
  have hsame : w.library.failing.filter (· ≠ service) = w.library.failing := by
    refine List.filter_eq_self.mpr fun s hs => decide_eq_true ?_
    rintro rfl
    exact h hs
  rw [begun, hsame]

theorem World.call_of_mem {α : Type} (f : State → Except Cause α × State)
    (h : service ∈ w.library.failing) :
    World.call service f w = (.error (injected service), w.begun service) := by
  rw [call, enter, if_pos h]
  rfl

theorem World.call_of_not_mem {α : Type} (f : State → Except Cause α × State)
    (h : service ∉ w.library.failing) :
    World.call service f w
      = ((f w.library).1, { w.begun service with library := (f w.library).2 }) := by
  rw [call, enter, if_neg h]
  rfl

end

namespace Request

variable {request : Request} {service : Service} {w : World}

/-- What a call does to the tables once it has begun. -/
def work : Request → State → Except Cause Reply × State
  | .container .created name, s =>
      ((s.createContainer name).1.map .handle, (s.createContainer name).2)
  | .container .opened name, s =>
      ((s.openContainer name).1.map .handle, (s.openContainer name).2)
  | .object .created parent kind name, s =>
      ((s.createObject ⟨parent.container, kind, name⟩).1.map .handle,
        (s.createObject ⟨parent.container, kind, name⟩).2)
  | .object .opened parent kind name, s =>
      ((s.openObject ⟨parent.container, kind, name⟩).1.map .handle,
        (s.openObject ⟨parent.container, kind, name⟩).2)
  | closeContainer _, s => (.ok .done, s.release)
  | closeObject _ _, s => (.ok .done, s.release)
  | containerId handle, s => (.ok (.container handle.container), s)
  | objectInfo handle _, s =>
      (.ok (.info ⟨handle.container, .ofAddress handle.address⟩), s)
  | datasetShape handle, s => (.ok (.shape (s.shape handle)), s)
  | _, s => (.ok .done, s)

theorem run_eq_of {α : Type} {f : State → Except Cause α × State} {g : α → Reply}
    (hrun : request.run w = answered g (World.call service f w))
    (hwork : ∀ s, request.work s = ((f s).1.map g, (f s).2)) :
    request.run w = answered id (World.call service request.work w) := by
  rw [hrun]
  by_cases hs : service ∈ w.library.failing
  · rw [World.call_of_mem _ hs, World.call_of_mem _ hs]
    rfl
  · rw [World.call_of_not_mem _ hs, World.call_of_not_mem _ hs, hwork]
    cases hf : (f w.library).1 with
    | ok a => simp only [answered, Reply.ofCall, Except.map, id]
    | error cause => simp only [answered, Reply.ofCall, Except.map]

/-- A request that makes a call is that call on the tables. -/
theorem run_eq_call (h : request.service? = some service) (w : World) :
    request.run w = answered id (World.call service request.work w) := by
  cases request with
  | container access name =>
      cases access with
      | created => cases h; exact run_eq_of rfl fun _ => rfl
      | opened => cases h; exact run_eq_of rfl fun _ => rfl
  | object access parent kind name =>
      cases access with
      | created => cases h; exact run_eq_of rfl fun _ => rfl
      | opened => cases h; exact run_eq_of rfl fun _ => rfl
  | closeContainer handle => cases h; exact run_eq_of rfl fun _ => rfl
  | containerId handle => cases h; exact run_eq_of rfl fun _ => rfl
  | closeObject handle kind => cases h; exact run_eq_of rfl fun _ => rfl
  | objectInfo handle kind => cases h; exact run_eq_of rfl fun _ => rfl
  | datasetShape handle => cases h; exact run_eq_of rfl fun _ => rfl
  | readDataset handle selected => cases h; exact run_eq_of rfl fun _ => rfl
  | writeDataset handle selected => cases h; exact run_eq_of rfl fun _ => rfl
  | _ => cases h

/-- A failure that waited for the call comes true. -/
theorem run_of_mem (h : request.service? = some service)
    (hs : service ∈ w.library.failing) :
    request.run w = (.failed (injected service), w.begun service) := by
  rw [run_eq_call h, World.call_of_mem _ hs]
  rfl

/-- Without one the call does its work on the tables. -/
theorem run_of_not_mem (h : request.service? = some service)
    (hs : service ∉ w.library.failing) :
    request.run w
      = (.ofCall id (request.work w.library).1,
          { w.begun service with library := (request.work w.library).2 }) := by
  rw [run_eq_call h, World.call_of_not_mem _ hs]
  rfl

/-! ## What a request does -/

/-- What a call did: it told news of what the tables became, or it was refused
    and left them alone.  The failures that wait are not its business. -/
def Did (request : Request) (s : State) (r : Except Cause Reply × State) : Prop :=
  match r.1 with
  | .ok reply =>
      reply.isFailure = false ∧ r.2.failing = s.failing ∧
        Becomes s r.2 (request.news reply)
  | .error _ => r.2 = s

theorem did_work (h : request.service? = some service) (s : State) :
    Did request s (request.work s) := by
  cases request with
  | container access name =>
      cases access with
      | created =>
          rw [work, State.createContainer]
          cases hid : s.container? name with
          | some id => exact ⟨rfl, rfl, .reopened hid ⟨rfl, rfl, rfl, rfl, rfl⟩⟩
          | none => exact ⟨rfl, rfl, .founded hid ⟨rfl, rfl, rfl, rfl, rfl⟩⟩
      | opened =>
          rw [work, State.openContainer]
          cases hid : s.container? name with
          | some id => exact ⟨rfl, rfl, .reopened hid ⟨rfl, rfl, rfl, rfl, rfl⟩⟩
          | none => exact rfl
  | object access parent kind name =>
      cases access with
      | created =>
          rw [work, State.createObject]
          cases s.object? ⟨parent.container, kind, name⟩ with
          | some handle => exact rfl
          | none => exact ⟨rfl, rfl, .entered ⟨rfl, rfl, rfl, rfl, rfl⟩⟩
      | opened =>
          rw [work, State.openObject]
          cases s.object? ⟨parent.container, kind, name⟩ with
          | some handle => exact ⟨rfl, rfl, .still ⟨rfl, rfl, rfl, rfl, rfl⟩⟩
          | none => exact rfl
  | withShape name shape => cases h
  | _ => exact ⟨rfl, rfl, .still ⟨rfl, rfl, rfl, rfl, rfl⟩⟩

/-- A failed call tells nothing. -/
theorem news_failed (h : request.service? = some service) (cause : Cause) :
    request.news (.failed cause) = .nothing := by
  cases request with
  | withShape name shape => cases h
  | object access parent kind name => cases access <;> rfl
  | _ => rfl

/-- All that can come of a call: it fails once it has begun, or it meets the
    request. -/
theorem run_cases (h : request.service? = some service) (w : World) :
    (∃ cause, request.run w = (.failed cause, w.begun service)) ∨
    ∃ reply s, request.run w = (reply, { w.begun service with library := s }) ∧
      reply.isFailure = false ∧ s.failing = (w.begun service).library.failing ∧
      Becomes w.library s (request.news reply) := by
  by_cases hs : service ∈ w.library.failing
  · exact Or.inl ⟨_, run_of_mem h hs⟩
  · have hbegun := World.begun_of_not_mem hs
    have hdid := did_work h w.library
    rw [run_of_not_mem h hs]
    rw [Did] at hdid
    cases hwork : (request.work w.library).1 with
    | ok reply =>
        rw [hwork] at hdid
        obtain ⟨hmet, hfailing, hbecomes⟩ := hdid
        refine Or.inr ⟨reply, _, rfl, hmet, ?_, hbecomes⟩
        rw [hfailing, hbegun]
    | error cause =>
        rw [hwork] at hdid
        refine Or.inl ⟨cause, ?_⟩
        rw [hdid, hbegun]
        rfl

/-- The reply to a request tells what it made of the tables. -/
theorem becomes (request : Request) (w : World) :
    Becomes w.library (request.run w).2.library (request.news (request.run w).1) := by
  cases hservice : request.service? with
  | some service =>
      rcases run_cases hservice w with ⟨cause, hrun⟩ | ⟨reply, s, hrun, -, -, hbecomes⟩
      · rw [hrun, news_failed hservice]
        exact .still ⟨rfl, rfl, rfl, rfl, rfl⟩
      · rw [hrun]
        exact hbecomes
  | none =>
      cases request with
      | compare handle a b =>
          show Becomes w.library (World.compare a b w).state.library .nothing
          rw [World.compare_state]
          exact .still ⟨rfl, rfl, rfl, rfl, rfl⟩
      | link source kind name target => exact .entered ⟨rfl, rfl, rfl, rfl, rfl⟩
      | withShape name shape => exact .shaped ⟨rfl, rfl, rfl, rfl, rfl⟩
      | failNext service =>
          show Becomes w.library (w.library.failNext service) .nothing
          rw [State.failNext]
          by_cases hs : service ∈ w.library.failing
          · rw [if_pos hs]
            exact .still ⟨rfl, rfl, rfl, rfl, rfl⟩
          · rw [if_neg hs]
            exact .still ⟨rfl, rfl, rfl, rfl, rfl⟩
      | rawObject id address => exact .still ⟨rfl, rfl, rfl, rfl, rfl⟩
      | failComparisons failing => exact .still ⟨rfl, rfl, rfl, rfl, rfl⟩
      | _ => cases hservice

/-- A call leaves those failures waiting that are not of its sort. -/
theorem failing_of_call (h : request.service? = some service) (w : World) :
    (request.run w).2.library.failing = w.library.failing.filter (· ≠ service) := by
  rcases run_cases h w with ⟨cause, hrun⟩ | ⟨reply, s, hrun, -, hfailing, -⟩
  · rw [hrun]
    rfl
  · rw [hrun]
    exact hfailing

/-- The failures that wait after a request. -/
theorem mem_failing (request : Request) (w : World) (s : Service) :
    s ∈ (request.run w).2.library.failing ↔ request = .failNext s ∨
      request.service? ≠ some s ∧ s ∈ w.library.failing := by
  cases hservice : request.service? with
  | some service =>
      have hne : request ≠ .failNext s := by
        rintro rfl
        cases hservice
      rw [failing_of_call hservice, List.mem_filter, decide_eq_true_iff]
      constructor
      · rintro ⟨hmem, hs⟩
        exact Or.inr ⟨fun h => hs (Option.some.inj h).symm, hmem⟩
      · rintro (h | ⟨hs, hmem⟩)
        · exact absurd h hne
        · exact ⟨hmem, fun h => hs (congrArg some h.symm)⟩
  | none =>
      have hquiet : request ≠ .failNext s →
          (request.run w).2.library.failing = w.library.failing →
          (s ∈ (request.run w).2.library.failing ↔ request = .failNext s ∨
            none ≠ some s ∧ s ∈ w.library.failing) := by
        intro hne hsame
        rw [hsame]
        exact ⟨fun h => Or.inr ⟨nofun, h⟩, fun h => (h.resolve_left hne).2⟩
      cases request with
      | compare handle a b =>
          exact hquiet nofun
            (congrArg (fun w : World => w.library.failing) (World.compare_state a b w))
      | link source kind name target => exact hquiet nofun rfl
      | rawObject id address => exact hquiet nofun rfl
      | withShape name shape => exact hquiet nofun rfl
      | failComparisons failing => exact hquiet nofun rfl
      | failNext service =>
          show s ∈ (w.library.failNext service).failing ↔ _
          rw [State.mem_failNext, Request.failNext.injEq]
          exact or_congr_right ⟨fun h => ⟨nofun, h⟩, fun h => h.2⟩
      | _ => cases hservice

/-- A request that fails changes nothing, but that a call takes its time and uses
    up the failure that waited for its sort. -/
theorem unchanged_of_failure (h : (request.run w).1.isFailure = true) :
    (request.run w).2 = (request.service?.map fun s => w.begun s).getD w := by
  cases hservice : request.service? with
  | some service =>
      rcases run_cases hservice w with ⟨cause, hrun⟩ | ⟨reply, s, hrun, hmet, -, -⟩
      · rw [hrun]
        rfl
      · rw [hrun, hmet] at h
        cases h
  | none =>
      cases request with
      | compare handle a b => exact World.compare_state a b w
      | link source kind name target => cases h
      | rawObject id address => cases h
      | withShape name shape => cases h
      | failNext service => cases h
      | failComparisons failing => cases h
      | _ => cases hservice

end Request

end Provenance.InMemory
