import Provenance.Id
import Provenance.Kind
import Provenance.Json.Choice
import Provenance.Json.Lexer

/-! # Identities and kinds in JSON

    An identity is written as its number, a kind as its name.  Their readers are
    derived: that of an identity reads what it wraps, that of a kind a choice. -/

namespace Provenance

/-- Read an identity from a JSON text. -/
def Id.ofJson {role : Role} (text : String) :
    Except Json.Problem (Id role) :=
  ((Json.Reader.single fun t => t.word "u64").read (Json.tokens text)).map
    fun n => ⟨n⟩

/-- The names of the kinds. -/
def Kind.names : List (String × Kind) := Kind.all.map fun k => (k.name, k)

/-- Read a kind from a JSON text. -/
def Kind.ofJson (text : String) : Except Json.Problem Kind :=
  (Json.Reader.choice Kind.names).read (Json.tokens text)

end Provenance
