import Provenance.Interceptor.Proxy
import Provenance.Registry.Error
import Provenance.Stats.Error

/-! # Errors of intercepted operations -/

namespace Provenance

/-- Why an intercepted operation failed. -/
inductive InterceptError where
  /-- The library refused a call. -/
  | library (operation : String) (cause : Cause)
  | registry (error : RegistryError)
  | stats (error : StatsError)
  /-- The report could not be written. -/
  | report (path : String) (error : IoError)
  /-- The operation is not for this sort of proxy. -/
  | wrongProxy (operation expected : String)
deriving DecidableEq

namespace InterceptError

/-- The error in words.  Errors of the registry and of the statistics keep
    their own. -/
def message : InterceptError → String
  | library operation _ => operation ++ " failed in the underlying library"
  | registry error => error.message
  | stats error => error.message
  | report path _ => "failed to write stats report to " ++ path
  | wrongProxy operation expected =>
      operation ++ " expects a " ++ expected ++ " proxy"

/-- What the error was caused by. -/
def source : InterceptError → Option Source
  | library _ cause => some (.library cause)
  | registry error => error.source
  | stats error => error.source
  | report _ error => some (.io error)
  | wrongProxy .. => none

/-- The error as seen by a program that uses several layers. -/
def toError : InterceptError → Error
  | registry error => error.toError
  | stats error => error.toError
  | e => .intercept e.message

end InterceptError

/-- A close that did not happen.  The proxy is handed back as it was. -/
structure CloseError (η : Type) where
  proxy : Proxy η
  error : InterceptError
deriving DecidableEq

/-- The error in words. -/
def CloseError.message {η : Type} (e : CloseError η) : String :=
  "close rejected, proxy still open: " ++ e.error.message

end Provenance
