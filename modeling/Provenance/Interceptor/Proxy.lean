import Provenance.Handle

/-! # Proxies

    Callers of an intercepted library hold proxies in place of its raw
    handles.  A proxy pairs the raw handle with its place in the
    bookkeeping; it is given up to the operation that closes it, which hands
    it back if the close does not happen. -/

namespace Provenance

/-- The place of a proxy in the bookkeeping. -/
inductive Target where
  | container (id : ContainerId)
  | object (node : NodeHandle)
deriving DecidableEq

namespace Target

/-- The container whose books hold the entry. -/
def containerId : Target → ContainerId
  | container id => id
  | object node => node.container

/-- The node, if the target is one. -/
def node? : Target → Option NodeHandle
  | container _ => none
  | object node => some node

end Target

/-- A raw handle `η` with its place in the bookkeeping. -/
structure Proxy (η : Type) where
  handle : η
  connector : ConnectorId
  target : Target
deriving DecidableEq

/-- A pinned container, for objects that are wrapped later. -/
structure WrapContext where
  connector : ConnectorId
  container : ContainerId
deriving DecidableEq

end Provenance
