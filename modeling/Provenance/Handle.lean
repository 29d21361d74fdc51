import Provenance.Id
import Provenance.Kind

/-! # Node handles

    A node handle names one metadata node: its container, its kind and its
    number.  It is a plain value; whether a node still answers to it is for
    the registry to say. -/

namespace Provenance

/-- Name of a metadata node. -/
structure NodeHandle where
  container : ContainerId
  kind : Kind
  node : NodeId
deriving DecidableEq

end Provenance
