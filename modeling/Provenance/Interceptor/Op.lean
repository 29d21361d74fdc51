import Provenance.Interceptor.File
import Provenance.Interceptor.Object

/-! # Intercepted operations as data

    What a caller can ask of an interceptor, as a value, with one answer type
    and one error type for all operations. -/

namespace Provenance.Interceptor

variable {ω η τ : Type}

/-- An operation of an interceptor.  Those that close, unpin, wrap, complete
    or unwrap take what they are given away from their caller. -/
inductive Op (η : Type) where
  | openFile (access : Access) (name : String)
  | closeFile (proxy : Proxy η)
  | openObject (access : Access) (parent : Proxy η) (kind : Kind)
      (name : String)
  | closeObject (proxy : Proxy η)
  | readDataset (proxy : Proxy η) (selected : Option Nat)
  | writeDataset (proxy : Proxy η) (selected : Option Nat)
  | pin (proxy : Proxy η)
  | unpin (context : WrapContext)
  | wrapObject (raw : η) (kind : Kind) (context : WrapContext)
  | completeRequest (parent : Proxy η) (raw : η) (kind : Kind)
      (name : Option String)
  | unwrapObject (proxy : Proxy η)
deriving DecidableEq

/-- The answer of an operation. -/
inductive Answer (η : Type) where
  | proxy (proxy : Proxy η)
  /-- The references that remain on what was closed. -/
  | remaining (count : Nat)
  | bytes (count : Nat)
  | context (context : WrapContext)
  | raw (handle : η)
deriving DecidableEq

/-- The error of an operation. -/
inductive Refusal (η : Type) where
  | failed (error : InterceptError)
  /-- A close did not happen. -/
  | notClosed (error : CloseError η)
deriving DecidableEq

/-- The reason of a refusal. -/
def Refusal.error : Refusal η → InterceptError
  | failed error => error
  | notClosed e => e.error

/-- The proxy that a refusal hands back. -/
def Refusal.proxy? : Refusal η → Option (Proxy η)
  | failed _ => none
  | notClosed e => some e.proxy

/-- Do an operation. -/
def Op.run [Library ω η τ] [Host ω] (memory : Memory) :
    Op η → Call (Interceptor ω τ) (Refusal η) (Answer η)
  | openFile access name =>
      .proxy <$> (Interceptor.openFile memory access name).mapError .failed
  | closeFile proxy =>
      .remaining <$> (Interceptor.closeFile memory proxy).mapError .notClosed
  | openObject access parent kind name =>
      .proxy <$> (Interceptor.openObject memory access parent kind
        name).mapError .failed
  | closeObject proxy =>
      .remaining <$> (Interceptor.closeObject memory proxy).mapError .notClosed
  | readDataset proxy selected =>
      .bytes <$> (Interceptor.readDataset memory proxy selected).mapError .failed
  | writeDataset proxy selected =>
      .bytes <$> (Interceptor.writeDataset memory proxy selected).mapError
        .failed
  | pin proxy => .context <$> (Interceptor.pin memory proxy).mapError .failed
  | unpin context => .remaining <$> Interceptor.unpin memory context
  | wrapObject raw kind context =>
      .proxy <$> (Interceptor.wrapObject memory raw kind context).mapError
        .failed
  | completeRequest parent raw kind name =>
      .proxy <$> (Interceptor.completeRequest memory parent raw kind
        name).mapError .failed
  | unwrapObject proxy =>
      .raw <$> (Interceptor.unwrapObject memory proxy).mapError .failed

end Provenance.Interceptor
