import Provenance.Registry.Basic

/-! # Views of the open things

    Counts, a check against expected counts, a text of all open containers
    with their datasets, and the leaks that the end of a registry reports. -/

namespace Provenance

/-- A container that was still open when its registry was closed. -/
structure Leak where
  id : ContainerId
  name : Option String
  refcount : Nat
  counts : PerKind Nat
deriving DecidableEq

/-- The event of a leak. -/
def Leak.event (l : Leak) : Event := .containerStillOpen l.id l.name l.refcount

/-- What the end of a registry leaves: the leaks in ascending order, and the
    resources let go. -/
structure Teardown (ρ : Type) where
  leaked : List Leak
  dropped : List ρ
deriving DecidableEq

namespace Registry

variable {τ ρ ε : Type}

/-- The open containers in ascending order. -/
def openContainers (reg : Registry τ ρ) : List (Container τ ρ) :=
  reg.containers.values

/-- Number of open containers. -/
def containerCount (reg : Registry τ ρ) : Nat := reg.containers.size

/-- No container is open. -/
def isEmpty (reg : Registry τ ρ) : Bool := reg.containerCount == 0

/-- Number of open nodes of a kind, in all containers. -/
def openNodeCount (reg : Registry τ ρ) (kind : Kind) : Nat :=
  reg.openContainers.foldr (fun c n => c.counts.get kind + n) 0

/-- Check the number of open containers and of open datasets. -/
def verifyOpenThings (containers datasets : Nat) :
    Call (Registry τ ρ) RegistryError Unit := fun reg =>
  let c := reg.containerCount
  let d := reg.openNodeCount .dataset
  if c = containers ∧ d = datasets then ⟨.value (), reg, []⟩
  else
    ⟨.error (.openThingsMismatch containers datasets c d), reg,
      [.openThingsMismatch containers datasets c d]⟩

/-! ## Text -/

/-- A name, or a dash. -/
def nameText (name : Option String) : String := name.getD "-"

/-- Line of an open dataset. -/
def datasetLine (n : Node τ) : String :=
  "  dataset " ++ n.id.text ++ " " ++ nameText n.name
    ++ " refcount=" ++ toString n.refcount
    ++ (match n.counters with
        | .dataset c =>
            " read=" ++ toString c.bytesRead ++ "B write="
              ++ toString c.bytesWritten ++ "B"
        | _ => "")
    ++ "\n"

/-- Line of an open container. -/
def containerLine (c : Container τ ρ) : String :=
  "container " ++ c.id.text ++ " " ++ nameText c.name
    ++ " refcount=" ++ toString c.refcount
    ++ " datasets=" ++ toString (c.counts.get .dataset)
    ++ " groups=" ++ toString (c.counts.get .group)
    ++ " datatypes=" ++ toString (c.counts.get .datatype)
    ++ " attributes=" ++ toString (c.counts.get .attr)
    ++ (if c.placeholder then " (placeholder)" else "")
    ++ "\n"

/-- Lines of a container and its datasets, the newest first. -/
def containerText (c : Container τ ρ) : String :=
  containerLine c ++ String.join ((c.newestFirst .dataset).map datasetLine)

/-- All open containers with their datasets. -/
def dump (reg : Registry τ ρ) : String :=
  "open containers: " ++ toString reg.containerCount ++ "\n"
    ++ String.join (reg.openContainers.map containerText)

/-- What a writer that holds so many characters takes of a text, and whether
    that is all of it. -/
def writeLimited (limit : Option Nat) (text : String) : String × Bool :=
  match limit with
  | none => (text, true)
  | some n => (String.ofList (text.toList.take n), text.length ≤ n)

/-- The registry for diagnostics, with the texts of its own identity and of
    its library. -/
def describe (reg : Registry τ ρ) (self library : String) : String :=
  "Registry \x7b id: RegistryId(" ++ self ++ "), identity: " ++ library
    ++ ", containers: " ++ toString reg.containerCount ++ " \x7d"

/-! ## The end -/

/-- A container as a leak. -/
def leak (c : Container τ ρ) : Leak := ⟨c.id, c.name, c.refcount, c.counts⟩

/-- The leaks in ascending order. -/
def leaks (reg : Registry τ ρ) : List Leak := reg.openContainers.map leak

/-- Close the registry.  Every container still open is reported, and lets go
    of its resources. -/
def close : Call (Registry τ ρ) ε (Teardown ρ) := fun reg =>
  ⟨.value ⟨reg.leaks, reg.openContainers.flatMap Container.attachments⟩,
    { reg with containers := .empty }, reg.leaks.map Leak.event⟩

end Registry

end Provenance
