import Provenance.Library

/-! # Intercepted operations

    Each intercepted operation has a name, under which its time is kept and
    its failures are reported. -/

namespace Provenance

/-- An intercepted operation. -/
inductive Operation where
  | file (access : Access)
  | closeFile
  | object (access : Access) (kind : Kind)
  | closeObject (kind : Kind)
  | readDataset
  | writeDataset
  /-- Pin a container. -/
  | pin
  /-- Give up a pin. -/
  | unpin
  /-- Wrap a raw handle under a pinned container. -/
  | wrap
  /-- Wrap the raw handle that a request produced. -/
  | complete
  /-- Give up the bookkeeping of an object and keep its raw handle. -/
  | unwrap
deriving DecidableEq

/-- The word for a kind in the names of operations. -/
def Operation.kindWord : Kind → String
  | .attr => "attr"
  | kind => kind.name

/-- Name of an operation. -/
def Operation.name : Operation → String
  | .file .created => "file_create"
  | .file .opened => "file_open"
  | .closeFile => "file_close"
  | .object .created .datatype => "datatype_commit"
  | .object .created kind => Operation.kindWord kind ++ "_create"
  | .object .opened kind => Operation.kindWord kind ++ "_open"
  | .closeObject kind => Operation.kindWord kind ++ "_close"
  | .readDataset => "dataset_read"
  | .writeDataset => "dataset_write"
  | .pin => "get_wrap_ctx"
  | .unpin => "free_wrap_ctx"
  | .wrap => "wrap_object"
  | .complete => "request_wait"
  | .unwrap => "unwrap_object"

end Provenance
