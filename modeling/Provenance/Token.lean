import Provenance.Text.Hex

/-! # Object tokens

    A library names an object by a token of sixteen bytes, the same however
    often the object is opened.  A token made from an address holds it in its
    first eight bytes, least byte first, so equal tokens come from equal
    addresses (`Token.address_ofAddress`). -/

namespace Provenance

/-- The first `count` bytes of a number, least byte first. -/
def littleEndian : Nat → Nat → List UInt8
  | 0, _ => []
  | count + 1, n => UInt8.ofNat n :: littleEndian count (n / 256)

/-- The number that bytes stand for, least byte first. -/
def ofLittleEndian : List UInt8 → Nat
  | [] => 0
  | b :: bs => b.toNat + 256 * ofLittleEndian bs

theorem length_littleEndian (count n : Nat) :
    (littleEndian count n).length = count := by
  induction count generalizing n with
  | zero => rfl
  | succ count ih => exact congrArg Nat.succ (ih _)

theorem ofLittleEndian_littleEndian (count n : Nat) :
    ofLittleEndian (littleEndian count n) = n % Nat.pow 256 count := by
  induction count generalizing n with
  | zero => simp [littleEndian, ofLittleEndian, Nat.mod_one]
  | succ count ih =>
      have h : (UInt8.ofNat n).toNat = n % 256 := UInt8.toNat_ofNat
      have hpow : Nat.pow 256 (count + 1) = 256 * Nat.pow 256 count :=
        Nat.mul_comm _ _
      rw [littleEndian, ofLittleEndian, ih, h, hpow, Nat.mod_mul]

/-- Order of two lists of bytes, decided by the first difference. -/
def compareBytes : List UInt8 → List UInt8 → Ordering
  | [], [] => .eq
  | [], _ :: _ => .lt
  | _ :: _, [] => .gt
  | a :: as, b :: bs => (compare a b).then (compareBytes as bs)

theorem compareBytes_eq_iff {as bs : List UInt8} :
    compareBytes as bs = .eq ↔ as = bs := by
  induction as generalizing bs with
  | nil => cases bs <;> simp [compareBytes]
  | cons a as ih =>
      cases bs with
      | nil => simp [compareBytes]
      | cons b bs =>
          simp only [compareBytes, Ordering.then_eq_eq, ih, List.cons.injEq,
            Std.LawfulEqCmp.compare_eq_iff_eq]

/-- A name of an object, given by its library. -/
structure Token where
  bytes : List UInt8
  size : bytes.length = 16
deriving DecidableEq

namespace Token

@[ext]
theorem ext {a b : Token} (h : a.bytes = b.bytes) : a = b := by
  cases a
  cases b
  cases h
  rfl

/-- The token of an address. -/
def ofAddress (address : UInt64) : Token where
  bytes := littleEndian 8 address.toNat ++ List.replicate 8 0
  size := by
    rw [List.length_append, length_littleEndian, List.length_replicate]

/-- The number in the first eight bytes. -/
def address (t : Token) : Nat := ofLittleEndian (t.bytes.take 8)

theorem address_ofAddress (a : UInt64) : (ofAddress a).address = a.toNat := by
  have h : (littleEndian 8 a.toNat ++ List.replicate 8 0).take 8
      = littleEndian 8 a.toNat := by
    rw [List.take_append_of_le_length
      (Nat.le_of_eq (length_littleEndian 8 a.toNat).symm)]
    exact List.take_of_length_le (Nat.le_of_eq (length_littleEndian 8 a.toNat))
  unfold address ofAddress
  rw [h, ofLittleEndian_littleEndian]
  exact Nat.mod_eq_of_lt a.toNat_lt

theorem ofAddress_inj {a b : UInt64} (h : ofAddress a = ofAddress b) : a = b := by
  have hab := congrArg address h
  rw [address_ofAddress, address_ofAddress] at hab
  exact UInt64.toNat_inj.mp hab

/-- Order of two tokens, byte by byte. -/
def cmp (a b : Token) : Ordering := compareBytes a.bytes b.bytes

theorem cmp_eq_iff {a b : Token} : a.cmp b = .eq ↔ a = b := by
  constructor
  · intro h
    exact Token.ext (compareBytes_eq_iff.mp h)
  · intro h
    exact compareBytes_eq_iff.mpr (congrArg bytes h)

/-- The bytes in hexadecimal digits, for diagnostics. -/
def describe (t : Token) : String :=
  "ObjectToken(" ++ Hex.ofBytes t.bytes ++ ")"

/-- The token of thirty-two hexadecimal digits. -/
def ofHex? (text : String) : Option Token :=
  (Hex.toBytes? text.toList).bind fun bytes =>
    if h : bytes.length = 16 then some ⟨bytes, h⟩ else none

end Token

end Provenance
