/-! # Bytes in hexadecimal digits

    Two digits for each byte, the high one first, in lower case.  Reading
    takes either case. -/

namespace Provenance.Hex

/-- A digit below sixteen. -/
def digit (n : Nat) : Char :=
  if n < 10 then Char.ofNat (48 + n) else Char.ofNat (87 + n)

/-- The value of a digit. -/
def value? (c : Char) : Option Nat :=
  if '0' ≤ c ∧ c ≤ '9' then some (c.toNat - 48)
  else if 'a' ≤ c ∧ c ≤ 'f' then some (c.toNat - 87)
  else if 'A' ≤ c ∧ c ≤ 'F' then some (c.toNat - 55)
  else none

/-- The two digits of a byte. -/
def ofByte (b : UInt8) : List Char :=
  [digit (b.toNat / 16), digit (b.toNat % 16)]

/-- The digits of a list of bytes. -/
def ofBytes (bytes : List UInt8) : String :=
  String.ofList (bytes.flatMap ofByte)

/-- The bytes of a list of digits. -/
def toBytes? : List Char → Option (List UInt8)
  | [] => some []
  | [_] => none
  | a :: b :: rest =>
      match value? a, value? b, toBytes? rest with
      | some high, some low, some bytes =>
          some (UInt8.ofNat (high * 16 + low) :: bytes)
      | _, _, _ => none

theorem value?_digit : ∀ n < 16, value? (digit n) = some n := by
  decide

theorem toBytes?_flatMap_ofByte (bytes : List UInt8) :
    toBytes? (bytes.flatMap ofByte) = some bytes := by
  induction bytes with
  | nil => rfl
  | cons b rest ih =>
      have hb := b.toNat_lt
      have hhigh := value?_digit (b.toNat / 16) (by omega)
      have hlow := value?_digit (b.toNat % 16) (by omega)
      have hsum : b.toNat / 16 * 16 + b.toNat % 16 = b.toNat := by omega
      rw [List.flatMap_cons]
      show toBytes? (digit _ :: digit _ :: List.flatMap ofByte rest) = _
      simp only [toBytes?, hhigh, hlow, ih, hsum, UInt8.ofNat_toNat]

end Provenance.Hex
