import Provenance.Token

/-! # Identity of a registry

    Each registry has a random identity of sixteen bytes, of which six bits
    say that it is random: the high half of the seventh byte is four, and the
    two high bits of the ninth are one and zero. -/

namespace Provenance

/-- A random identity. -/
structure RegistryId where
  bytes : List UInt8
deriving DecidableEq

namespace RegistryId

/-- The identity made from random bytes: all but six bits of them. -/
def ofRandom (random : List UInt8) : RegistryId :=
  ⟨(random.modify 6 fun b => (b &&& 0x0f) ||| 0x40).modify 8
    fun b => (b &&& 0x3f) ||| 0x80⟩

/-- The version that the seventh byte says. -/
def version (id : RegistryId) : Nat := (id.bytes[6]?.getD 0).toNat / 16

/-- The bytes in hexadecimal digits, in groups of four, two, two, two and six
    bytes. -/
def uuid (id : RegistryId) : String :=
  let group (start count : Nat) :=
    Hex.ofBytes ((id.bytes.drop start).take count)
  "-".intercalate [group 0 4, group 4 2, group 6 2, group 8 2, group 10 6]

/-- The identity in texts. -/
def text (id : RegistryId) : String := "registry-" ++ id.uuid

end RegistryId

end Provenance
