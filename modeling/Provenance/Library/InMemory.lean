import Provenance.Clock
import Provenance.Library

/-! # A library in memory

    A library whose containers and objects are names in tables.  A name that
    is opened again gives the handle it had before, hence the same token.  The
    next call of a given sort can be told to fail, as can all comparisons, and
    each call can take a given time on the clock of its world. -/

namespace Provenance.InMemory

/-- A raw handle: an address, and the container it is in. -/
structure Handle where
  address : UInt64
  container : ContainerId
deriving DecidableEq

/-- A sort of call that can fail. -/
inductive Service where
  | createContainer
  | openContainer
  | closeContainer
  | containerId
  | createObject
  | openObject
  | closeObject
  | objectInfo
  | datasetShape
  | readDataset
  | writeDataset
deriving DecidableEq

namespace Service

/-- Every sort of call. -/
def all : List Service :=
  [createContainer, openContainer, closeContainer, containerId, createObject,
    openObject, closeObject, objectInfo, datasetShape, readDataset,
    writeDataset]

/-- Name of a sort of call. -/
def name : Service → String
  | createContainer => "create_container"
  | openContainer => "open_container"
  | closeContainer => "close_container"
  | containerId => "container_id"
  | createObject => "create_object"
  | openObject => "open_object"
  | closeObject => "close_object"
  | objectInfo => "object_info"
  | datasetShape => "dataset_shape"
  | readDataset => "read_dataset"
  | writeDataset => "write_dataset"

/-- The sort of call of a given name. -/
def ofName? (text : String) : Option Service :=
  all.find? fun s => s.name == text

end Service

/-- An object is known by its name and kind in the container it is asked for
    in. -/
structure Key where
  container : ContainerId
  kind : Kind
  name : String
deriving DecidableEq

/-- The tables of a library.  A later entry hides an earlier one of the same
    key. -/
structure State where
  connector : ConnectorId
  /-- Distance of the last address from the first page. -/
  lastAddress : UInt64
  lastContainer : Nat
  containers : List (String × ContainerId)
  objects : List (Key × Handle)
  /-- Shapes of datasets, by the name of the dataset. -/
  shapes : List (String × DatasetShape)
  /-- The next call of each of these sorts fails. -/
  failing : List Service
  comparisonsFail : Bool
  /-- Handles given out and not released. -/
  openHandles : Nat
deriving DecidableEq

namespace State

/-- A library without containers. -/
def new (connector : ConnectorId) : State :=
  ⟨connector, 0, 0, [], [], [], [], false, 0⟩

/-- Give a shape to the datasets of a name. -/
def withShape (s : State) (name : String) (shape : DatasetShape) : State :=
  { s with shapes := (name, shape) :: s.shapes }

/-- The next call of a sort fails. -/
def failNext (s : State) (service : Service) : State :=
  if service ∈ s.failing then s else { s with failing := service :: s.failing }

/-- A handle with a new address. -/
def allocate (s : State) (container : ContainerId) : Handle × State :=
  let last := s.lastAddress + 0x10
  (⟨0x1000 + last, container⟩, { s with lastAddress := last })

/-- A handle given out. -/
def issue (s : State) : State := { s with openHandles := s.openHandles + 1 }

/-- A handle released. -/
def release (s : State) : State := { s with openHandles := s.openHandles - 1 }

/-- The container of a name. -/
def container? (s : State) (name : String) : Option ContainerId :=
  (s.containers.find? fun e => e.1 == name).map Prod.snd

/-- The object of a key. -/
def object? (s : State) (key : Key) : Option Handle :=
  (s.objects.find? fun e => e.1 == key).map Prod.snd

/-- Enter an object under a key, over the one there. -/
def enterObject (s : State) (key : Key) (handle : Handle) : State :=
  { s with
    objects := (key, handle) :: s.objects.filter fun e => e.1 ≠ key }

/-- Make a name in one container stand for a new object in another. -/
def link (s : State) (source : ContainerId) (kind : Kind) (name : String)
    (target : ContainerId) : State :=
  let (handle, s) := s.allocate target
  s.enterObject ⟨source, kind, name⟩ handle

/-- A handle that reached its owner in another way. -/
def rawObject (s : State) (container : ContainerId) (address : UInt64) :
    Handle × State :=
  (⟨address, container⟩, s.issue)

/-! ## The calls -/

/-- A handle on a container that is made if its name is new. -/
def createContainer (name : String) (s : State) : Except Cause Handle × State :=
  match s.container? name with
  | some id =>
      let (handle, s) := s.issue.allocate id
      (.ok handle, s)
  | none =>
      let id : ContainerId := ⟨s.lastContainer + 1⟩
      let s := { s with
        lastContainer := s.lastContainer + 1
        containers := (name, id) :: s.containers }
      let (handle, s) := s.issue.allocate id
      (.ok handle, s)

/-- A handle on a container that exists. -/
def openContainer (name : String) (s : State) : Except Cause Handle × State :=
  match s.container? name with
  | some id =>
      let (handle, s) := s.issue.allocate id
      (.ok handle, s)
  | none => (.error ⟨"no such container: " ++ name⟩, s)

/-- A handle on a new object. -/
def createObject (key : Key) (s : State) : Except Cause Handle × State :=
  match s.object? key with
  | some _ =>
      (.error ⟨key.kind.name ++ " " ++ key.name ++ " already exists"⟩, s)
  | none =>
      let (handle, s) := s.allocate key.container
      (.ok handle, (s.enterObject key handle).issue)

/-- A handle on an object that exists. -/
def openObject (key : Key) (s : State) : Except Cause Handle × State :=
  match s.object? key with
  | some handle => (.ok handle, s.issue)
  | none => (.error ⟨"no such " ++ key.kind.name ++ ": " ++ key.name⟩, s)

/-- The shape of datasets that have none of their own. -/
def defaultShape : DatasetShape := ⟨8, [16]⟩

/-- The shape of the dataset behind a handle, by the name of its object. -/
def shape (s : State) (handle : Handle) : DatasetShape :=
  match s.objects.find? fun e => e.2 == handle with
  | some (key, _) =>
      ((s.shapes.find? fun e => e.1 == key.name).map Prod.snd).getD defaultShape
  | none => defaultShape

end State

/-- A library on a machine of its own.  The clock moves by `tick` with each
    reading and by the latency with each call of the library. -/
structure World where
  library : State
  clock : ManualClock
  tick : UInt64
  latency : Duration
  files : Files
deriving DecidableEq

namespace World

/-- A library with its clock at the start and no files. -/
def new (connector : ConnectorId) : World :=
  ⟨.new connector, .new, 0, .zero, .empty⟩

/-- Change the tables of the library. -/
def onLibrary (f : State → State) (w : World) : World :=
  { w with library := f w.library }

/-- Begin a call: its time passes, and a failure that waits for its sort of
    call comes true. -/
def enter (service : Service) (w : World) : Except Cause Unit × World :=
  let w := { w with clock := w.clock.advance w.latency }
  if service ∈ w.library.failing then
    (.error ⟨"injected failure in " ++ service.name⟩,
      w.onLibrary fun s =>
        { s with failing := s.failing.filter (· ≠ service) })
  else (.ok (), w)

/-- A whole call. -/
def call {α : Type} (service : Service)
    (f : State → Except Cause α × State) (w : World) : Except Cause α × World :=
  match enter service w with
  | (.ok (), w) =>
      let (answer, s) := f w.library
      (answer, { w with library := s })
  | (.error cause, w) => (.error cause, w)

/-- Compare two tokens byte by byte, unless comparisons fail. -/
def compare (a b : Token) : Call World IdentityError Ordering := fun w =>
  if w.library.comparisonsFail then
    ⟨.error (.comparison "injected comparison failure"), w, []⟩
  else ⟨.value (a.cmp b), w, []⟩

theorem compare_state (a b : Token) (w : World) : (compare a b w).state = w := by
  rw [compare]
  by_cases hfail : w.library.comparisonsFail = true
  · rw [if_pos hfail]
  · rw [if_neg hfail]

/-- Read the clock, which then ticks. -/
def now (w : World) : Duration × World :=
  (w.clock.now, { w with clock := w.clock.advanceMicros w.tick })

end World

open World in
instance : Library World Handle Token where
  compare _ a b := World.compare a b
  connector w := w.library.connector
  container
    | .created, name => call .createContainer (State.createContainer name)
    | .opened, name => call .openContainer (State.openContainer name)
  closeContainer _ := call .closeContainer fun s => (.ok (), s.release)
  containerId handle := call .containerId fun s => (.ok handle.container, s)
  object
    | .created, parent, kind, name =>
        call .createObject (State.createObject ⟨parent.container, kind, name⟩)
    | .opened, parent, kind, name =>
        call .openObject (State.openObject ⟨parent.container, kind, name⟩)
  closeObject _ _ := call .closeObject fun s => (.ok (), s.release)
  objectInfo handle _ := call .objectInfo fun s =>
    (.ok ⟨handle.container, .ofAddress handle.address⟩, s)
  datasetShape handle := call .datasetShape fun s => (.ok (s.shape handle), s)
  readDataset _ _ := call .readDataset fun s => (.ok (), s)
  writeDataset _ _ := call .writeDataset fun s => (.ok (), s)

instance : Host World where
  write path contents w :=
    let (answer, files) := w.files.write path contents
    (answer, { w with files := files })
  now := World.now

end Provenance.InMemory
