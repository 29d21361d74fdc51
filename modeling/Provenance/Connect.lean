import Provenance.Interceptor.Basic

/-! # Connecting

    A program begins with its settings and a library.  Settings that cannot be
    used are refused before anything is made. -/

namespace Provenance

variable {ω τ : Type}

/-- An interceptor for a library, under settings that can be used. -/
def connect (memory : Memory) (world : ω) (config : Config) :
    Except Error (Interceptor ω τ) :=
  match config.validate with
  | .error e => .error e
  | .ok config =>
      (Interceptor.ofConfig memory config world).mapError InterceptError.toError

end Provenance
