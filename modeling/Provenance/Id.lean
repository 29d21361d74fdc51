/-! # Numeric identities

    Containers, connectors and nodes are named by numbers.  The role of an
    identity is part of its type, so the three are never mixed up. -/

namespace Provenance

/-- What a numeric identity names. -/
inductive Role where
  | container
  | connector
  | node
deriving DecidableEq

/-- Name of the identities of a role in diagnostic texts. -/
def Role.title : Role → String
  | .container => "ContainerId"
  | .connector => "ConnectorId"
  | .node => "NodeId"

/-- A numeric identity of one role. -/
structure Id (role : Role) where
  number : Nat
deriving DecidableEq

/-- Stable number of an open top-level container. -/
abbrev ContainerId := Id .container

/-- Number of the library instance that serves a handle. -/
abbrev ConnectorId := Id .connector

/-- Number of a metadata node, given out by its registry. -/
abbrev NodeId := Id .node

namespace Id

variable {role : Role}

@[ext]
theorem ext {a b : Id role} (h : a.number = b.number) : a = b := by
  cases a
  cases b
  cases h
  rfl

/-- The number in decimal digits. -/
def text (id : Id role) : String := toString id.number

/-- The number with its role, for diagnostics. -/
def describe (id : Id role) : String :=
  role.title ++ "(" ++ id.text ++ ")"

end Id

end Provenance
