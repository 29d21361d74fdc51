import Provenance.Fault
import Provenance.Id.Map
import Provenance.Registry.Counters
import Provenance.Text.Quoted

/-! # Containers and their nodes

    A container is an open top-level resource; a node is a distinct object
    open inside it.  Both count their references: a container one for each
    open, each pin and each of its nodes, a node one for each time it was
    tracked.

    All counts are natural numbers here and grow without bound.  In a program they
    are words, of 32 bits for references and of 64 for all else, and agree with
    these as long as they fit.  No count of references passes the number of
    references held, which says when they do (`Registry.Accounted.bounded`); a
    container has no more nodes than references, and the other counts go up by one
    with an operation. -/

namespace Provenance

/-- An object open inside a container, named by a token `τ`. -/
structure Node (τ : Type) where
  id : NodeId
  container : ContainerId
  token : τ
  name : Option String
  refcount : Nat
  /-- How often tracking came upon this node. -/
  accesses : Nat
  counters : Counters
deriving DecidableEq

namespace Node

variable {τ : Type}

/-- A node tracked for the first time. -/
def first (id : NodeId) (container : ContainerId) (kind : Kind) (token : τ)
    (name : Option String) : Node τ :=
  ⟨id, container, token, name, 1, 1, .zero kind⟩

/-- Kind of a node. -/
def kind (n : Node τ) : Kind := n.counters.kind

/-- The name that a node answers to. -/
def handle (n : Node τ) : NodeHandle := ⟨n.container, n.kind, n.id⟩

/-- The node tracked once more. -/
def again (n : Node τ) : Node τ :=
  { n with refcount := n.refcount + 1, accesses := n.accesses + 1 }

end Node

/-- An open container with attached resources `ρ`. -/
structure Container (τ ρ : Type) where
  id : ContainerId
  name : Option String
  /-- Made for an object found in it, and not opened since. -/
  placeholder : Bool
  refcount : Nat
  /-- Number of open nodes of each kind. -/
  counts : PerKind Nat
  nodes : PerKind (IdMap .node (Node τ))
  /-- Objects created in it. -/
  created : PerKind Nat
  /-- Objects opened in it. -/
  accessed : PerKind Nat
  /-- Resources kept until the container is freed, in order. -/
  attachments : List ρ

namespace Container

variable {τ ρ : Type}

/-- A container without references. -/
def fresh (id : ContainerId) (name : Option String) (placeholder : Bool) :
    Container τ ρ :=
  ⟨id, name, placeholder, 0, .replicate 0, .replicate .empty, .replicate 0,
    .replicate 0, []⟩

/-- Some node is open. -/
def hasChildren (c : Container τ ρ) : Bool := c.counts.toList.any (0 < ·)

/-- The nodes of a kind, the one tracked last in front. -/
def newestFirst (c : Container τ ρ) (kind : Kind) : List (Node τ) :=
  (c.nodes.get kind).values.reverse

/-- A node by kind and number. -/
def node? (c : Container τ ρ) (kind : Kind) (id : NodeId) : Option (Node τ) :=
  (c.nodes.get kind).get? id

/-- One more reference. -/
def retain (c : Container τ ρ) : Container τ ρ :=
  { c with refcount := c.refcount + 1 }

/-- One reference less. -/
def release (c : Container τ ρ) : Container τ ρ :=
  { c with refcount := c.refcount - 1 }

/-- A placeholder that is opened becomes an ordinary container, and takes the
    name if one is given. -/
def promote (c : Container τ ρ) (name : Option String) : Container τ ρ :=
  if c.placeholder then
    { c with placeholder := false, name := name <|> c.name }
  else c

/-- Put a node at its number, over the one there. -/
def putNode (c : Container τ ρ) (kind : Kind) (n : Node τ) : Container τ ρ :=
  { c with nodes := c.nodes.modify kind fun m => m.insert n.id n }

/-- Take in a new node, which holds a reference. -/
def addNode (c : Container τ ρ) (kind : Kind) (n : Node τ) : Container τ ρ :=
  { (c.putNode kind n) with
    counts := c.counts.modify kind (· + 1)
    refcount := c.refcount + 1 }

/-- Leave out a node.  Its reference is still to be released. -/
def removeNode (c : Container τ ρ) (kind : Kind) (id : NodeId) :
    Container τ ρ :=
  { c with
    nodes := c.nodes.modify kind fun m => m.erase id
    counts := c.counts.modify kind (· - 1) }

/-- The container for diagnostics. -/
def describe (c : Container τ ρ) : String :=
  let name :=
    match c.name with
    | some name => "Some(" ++ Quoted.encode name ++ ")"
    | none => "None"
  "Container \x7b id: " ++ c.id.describe ++ ", name: " ++ name
    ++ ", placeholder: " ++ (if c.placeholder then "true" else "false")
    ++ ", refcount: " ++ toString c.refcount
    ++ ", counts: " ++ c.counts.bracketed
    ++ ", attachments: " ++ toString c.attachments.length ++ " \x7d"

end Container

end Provenance
