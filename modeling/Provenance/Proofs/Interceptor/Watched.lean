import Provenance.Proofs.Interceptor.Projection
import Provenance.Proofs.Interceptor.Traffic

/-! # A library that is watched

    Any library can be watched: what it issues and what it is asked to close
    is written down beside its state.  The answers stay the same, so an
    interceptor over the watched library does what it does over the library
    itself (`Watched.projects`), and what is written down is the traffic of
    the operation (`Watched.follows`). -/

namespace Provenance

variable {ω η τ α : Type}

/-- A world, with the handles that its library issued and the handles that it
    was asked to close, whether it did or not. -/
structure Watched (ω η : Type) where
  world : ω
  issued : List η
  closed : List (Option Kind × η)

namespace Watched

/-- A world about which nothing is written down yet. -/
def start (w : ω) : Watched ω η := ⟨w, [], []⟩

/-- A step without traffic. -/
def pass (f : ω → α × ω) (w : Watched ω η) : α × Watched ω η :=
  ((f w.world).1, { w with world := (f w.world).2 })

/-- A step that issues a handle if it succeeds. -/
def issue (f : ω → Except Cause η × ω) (w : Watched ω η) :
    Except Cause η × Watched ω η :=
  ((f w.world).1, { w with
    world := (f w.world).2
    issued := w.issued ++ (f w.world).1.toOption.toList })

/-- A step that is to close a handle. -/
def close (sort : Option Kind) (raw : η) (f : ω → Except Cause Unit × ω)
    (w : Watched ω η) : Except Cause Unit × Watched ω η :=
  ((f w.world).1, { w with
    world := (f w.world).2
    closed := w.closed ++ [(sort, raw)] })

instance [Library ω η τ] : Library (Watched ω η) η τ where
  compare raw a b := (Identity.compare raw a b).focus Watched.world
    fun w s => { s with world := w }
  connector w := Library.connector w.world
  container access name := issue (Library.container access name)
  closeContainer raw := close none raw (Library.closeContainer raw)
  containerId raw := pass (Library.containerId raw)
  object access parent kind name :=
    issue (Library.object access parent kind name)
  closeObject raw kind := close (some kind) raw (Library.closeObject raw kind)
  objectInfo raw kind := pass (Library.objectInfo raw kind)
  datasetShape raw := pass (Library.datasetShape raw)
  readDataset raw selected := pass (Library.readDataset raw selected)
  writeDataset raw selected := pass (Library.writeDataset raw selected)

instance [Host ω] : Host (Watched ω η) where
  write path contents := pass (Disk.write path contents)
  now := pass Host.now

end Watched

/-! ## What is written down -/

/-- The handles issued in some traffic. -/
def Traffic.issues (log : List (Traffic η)) : List η :=
  log.filterMap fun
    | issued raw => some raw
    | _ => none

/-- The handles to be closed in some traffic. -/
def Traffic.closes (log : List (Traffic η)) : List (Option Kind × η) :=
  log.filterMap fun
    | closed sort raw _ => some (sort, raw)
    | _ => none

theorem Traffic.issues_append (log new : List (Traffic η)) :
    issues (log ++ new) = issues log ++ issues new :=
  List.filterMap_append

theorem Traffic.closes_append (log new : List (Traffic η)) :
    closes (log ++ new) = closes log ++ closes new :=
  List.filterMap_append

theorem Traffic.issues_opened (r : Except Cause η) :
    issues (opened r) = r.toOption.toList := by
  cases r with
  | ok raw => rfl
  | error cause => rfl

theorem Traffic.closes_opened (r : Except Cause η) :
    closes (opened r) = [] := by
  cases r with
  | ok raw => rfl
  | error cause => rfl

namespace Watched

/-- What is written down is the traffic. -/
def Records (log : List (Traffic η)) (w : Watched ω η) (_ : List Event) : Prop :=
  w.issued = Traffic.issues log ∧ w.closed = Traffic.closes log

theorem Records.start (w : ω) (ev : List Event) :
    Records [] (start w : Watched ω η) ev :=
  ⟨rfl, rfl⟩

section

variable {log : List (Traffic η)} {w : Watched ω η} {ev : List Event}

theorem Records.pass (f : ω → α × ω) (h : Records log w ev) :
    Records log (pass f w).2 ev := h

theorem Records.issue (f : ω → Except Cause η × ω) (h : Records log w ev) :
    Records (log ++ Traffic.opened (issue f w).1) (issue f w).2 ev := by
  obtain ⟨hissued, hclosed⟩ := h
  constructor
  · show w.issued ++ (f w.world).1.toOption.toList
      = Traffic.issues (log ++ Traffic.opened (f w.world).1)
    rw [hissued, Traffic.issues_append, Traffic.issues_opened]
  · show w.closed = Traffic.closes (log ++ Traffic.opened (f w.world).1)
    rw [hclosed, Traffic.closes_append, Traffic.closes_opened, List.append_nil]

theorem Records.close (sort : Option Kind) (raw : η)
    (f : ω → Except Cause Unit × ω) (accepted : Bool) (h : Records log w ev) :
    Records (log ++ [.closed sort raw accepted]) (close sort raw f w).2 ev := by
  obtain ⟨hissued, hclosed⟩ := h
  constructor
  · show w.issued = _
    rw [hissued, Traffic.issues_append]
    exact (List.append_nil _).symm
  · show w.closed ++ [(sort, raw)] = _
    rw [hclosed, Traffic.closes_append]
    rfl

theorem Records.loss (h : Records log w ev) (e : Event) :
    Records (log ++ [.lost]) w (ev ++ [e]) := by
  obtain ⟨hissued, hclosed⟩ := h
  constructor
  · rw [hissued, Traffic.issues_append]
    exact (List.append_nil _).symm
  · rw [hclosed, Traffic.closes_append]
    exact (List.append_nil _).symm

end

variable [Library ω η τ] [Host ω]

theorem follows : Follows (Records : _ → Watched ω η → _ → Prop) where
  now := fun h => h.pass Host.now
  compare := by
    intro log raw a b w ev h
    show ((Identity.compare raw a b : Call ω _ _).focus Watched.world
      fun w s => { s with world := w }).Ensures w ev _ _ _
    rw [Call.ensures_focus]
    simp only [Call.Ensures]
    rcases (Identity.compare raw a b : Call ω _ _) w.world with
      ⟨o | e | f, w', new⟩
    · exact h
    · exact h
    · exact h
  containerId := fun raw h => h.pass (Library.containerId raw)
  objectInfo := fun raw kind h => h.pass (Library.objectInfo raw kind)
  datasetShape := fun raw h => h.pass (Library.datasetShape raw)
  readDataset := fun raw selected h => h.pass (Library.readDataset raw selected)
  writeDataset := fun raw selected h => h.pass (Library.writeDataset raw selected)
  container := fun access name h => h.issue (Library.container access name)
  object := fun access parent kind name h =>
    h.issue (Library.object access parent kind name)
  closeContainer := fun raw h => h.close none raw (Library.closeContainer raw) _
  closeObject := fun raw kind h =>
    h.close (some kind) raw (Library.closeObject raw kind) _
  loss := fun e _ h => h.loss e
  event := fun _ _ h => h

/-- An interceptor cannot tell that its library is watched. -/
theorem projects : Projects (Watched.world : Watched ω η → ω) where
  now := fun _ => rfl
  compare := fun _ _ _ _ => rfl
  connector := fun _ => rfl
  container := fun _ _ _ => rfl
  closeContainer := fun _ _ => rfl
  containerId := fun _ _ => rfl
  object := fun _ _ _ _ _ => rfl
  closeObject := fun _ _ _ => rfl
  objectInfo := fun _ _ _ => rfl
  datasetShape := fun _ _ => rfl
  readDataset := fun _ _ _ => rfl
  writeDataset := fun _ _ _ => rfl

end Watched

end Provenance
