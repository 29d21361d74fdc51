import Mathlib.Algebra.BigOperators.Fin
import Mathlib.Data.Nat.ModEq
import Mathlib.Tactic.Ring
import Provenance.Stats.Hash

/-! # The hash of names as a polynomial

    A step of the hash shifts, adds and subtracts words, and each of the four
    operations cuts off what does not fit.  Done with whole numbers the same
    step never subtracts too much: it multiplies by 65599 and adds a byte
    (`rollWide_eq`).  So cutting off after all steps is as good as after each
    (`toNat_foldl_roll`), and the hash of any bytes is cut off from the
    `polynomial` that has the bytes for coefficients, the last of them lowest
    (`toNat_hashBytes`). -/

namespace Provenance.Stats

/-- What one step multiplies by. -/
def base : Nat := 65599

/-- One step of the hash with whole numbers. -/
def rollWide (hash : Nat) (byte : UInt8) : Nat :=
  byte.toNat + (hash <<< 6) + (hash <<< 16) - hash

/-- The polynomial with the given bytes for coefficients, the last one lowest,
    at `base`. -/
def polynomial (bytes : List UInt8) : Nat :=
  ∑ i : Fin bytes.length, bytes[i].toNat * base ^ (bytes.length - 1 - i)

/-- A name of so many characters zero. -/
def nuls (count : Nat) : String := String.ofList (List.replicate count '\x00')

/-! ## The polynomial -/

section

variable (hash : Nat) (byte : UInt8) (bytes before after : List UInt8)

theorem polynomial_cons :
    polynomial (byte :: bytes)
      = byte.toNat * base ^ bytes.length + polynomial bytes := by
  show (∑ i : Fin (bytes.length + 1), _) = _
  rw [Fin.sum_univ_succ, polynomial]
  congr 1
  refine Finset.sum_congr rfl fun i _ => ?_
  -- the place of a byte counts from the end
  have hplace : (byte :: bytes).length - 1 - (i.succ : Nat) = bytes.length - 1 - i := by
    rw [List.length_cons, Fin.val_succ]
    omega
  rw [hplace]
  rfl

theorem polynomial_append :
    polynomial (before ++ after)
      = polynomial before * base ^ after.length + polynomial after := by
  induction before with
  | nil => simp [polynomial]
  | cons byte before ih =>
      rw [List.cons_append, polynomial_cons, ih, polynomial_cons, List.length_append,
        pow_add]
      ring

theorem polynomial_replicate_zero (count : Nat) :
    polynomial (List.replicate count 0) = 0 := by
  induction count with
  | zero => rfl
  | succ count ih =>
      rw [List.replicate_succ, polynomial_cons, ih, UInt8.toNat_zero, Nat.zero_mul]

/-! ## One step -/

theorem rollWide_eq : rollWide hash byte = hash * base + byte.toNat := by
  rw [rollWide, Nat.shiftLeft_eq, Nat.shiftLeft_eq, base]
  omega

theorem foldl_rollWide :
    bytes.foldl rollWide hash = hash * base ^ bytes.length + polynomial bytes := by
  induction bytes generalizing hash with
  | nil => simp [polynomial]
  | cons byte bytes ih =>
      rw [List.foldl_cons, ih, rollWide_eq, polynomial_cons, List.length_cons, pow_succ]
      ring

/-- A step with words is one with whole numbers, cut off. -/
theorem toNat_roll (hash : UInt64) :
    (roll hash byte).toNat = rollWide hash.toNat byte % 2 ^ 64 := by
  have hhash := hash.toNat_lt
  have hbyte := byte.toNat_lt
  simp only [roll, rollWide, UInt64.toNat_sub, UInt64.toNat_add, UInt64.toNat_shiftLeft,
    UInt8.toNat_toUInt64, Nat.shiftLeft_eq]
  have h6 : (6 : UInt64).toNat % 64 = 6 := rfl
  have h16 : (16 : UInt64).toNat % 64 = 16 := rfl
  rw [h6, h16]
  omega

/-- Cutting off at every step is cutting off at the end. -/
theorem toNat_foldl_roll (hash : UInt64) :
    (bytes.foldl roll hash).toNat = bytes.foldl rollWide hash.toNat % 2 ^ 64 := by
  induction bytes generalizing hash with
  | nil => exact (Nat.mod_eq_of_lt hash.toNat_lt).symm
  | cons byte bytes ih =>
      rw [List.foldl_cons, ih, List.foldl_cons, toNat_roll, foldl_rollWide, foldl_rollWide]
      exact ((Nat.mod_modEq _ _).mul_right _).add_right _

end

/-! ## Names -/

theorem toNat_hashBytes (bytes : List UInt8) :
    (hashBytes bytes).toNat = polynomial bytes % 2 ^ 64 := by
  rw [hashBytes, toNat_foldl_roll, foldl_rollWide, UInt64.toNat_zero, Nat.zero_mul,
    Nat.zero_add]

theorem keyBytes_append (a b : String) : keyBytes (a ++ b) = keyBytes a ++ keyBytes b := by
  simp [keyBytes]

theorem length_keyBytes (key : String) : (keyBytes key).length = key.utf8ByteSize := by
  simp [keyBytes]

theorem keyBytes_nuls (count : Nat) : keyBytes (nuls count) = List.replicate count 0 := by
  induction count with
  | zero => rfl
  | succ count ih =>
      rw [nuls, List.replicate_succ, ← List.singleton_append, String.ofList_append,
        keyBytes_append, List.replicate_succ, ← ih]
      rfl

theorem toNat_hash_append (a b : String) :
    (hash (a ++ b)).toNat
      = ((hash a).toNat * base ^ b.utf8ByteSize + (hash b).toNat) % 2 ^ 64 := by
  rw [hash, hash, hash, toNat_hashBytes, toNat_hashBytes, toNat_hashBytes, keyBytes_append,
    polynomial_append, length_keyBytes]
  exact (((Nat.mod_modEq _ _).mul_right _).add (Nat.mod_modEq _ _)).symm

theorem hash_nuls_append (count : Nat) (key : String) : hash (nuls count ++ key) = hash key := by
  rw [← UInt64.toNat_inj, hash, hash, toNat_hashBytes, toNat_hashBytes, keyBytes_append,
    polynomial_append, keyBytes_nuls, polynomial_replicate_zero, Nat.zero_mul, Nat.zero_add]

/-- The home slot is a remainder of words, as the capacity is a word. -/
theorem homeSlot_eq_toNat (key : String) {capacity : Nat} (h : capacity < 2 ^ 64) :
    homeSlot key capacity = (hash key % UInt64.ofNat capacity).toNat := by
  rw [UInt64.toNat_mod, UInt64.toNat_ofNat', Nat.mod_eq_of_lt h]
  rfl

/-- The hash of a name is the polynomial of its bytes, cut off to a word.  So
    the hash of two parts is that of the first, moved up by the length of the
    second, with that of the second added, and characters zero in front change
    nothing.  After any number of steps nothing shows that each of them cut
    something off.  The home slot is the remainder of the hash by the
    capacity, which is a word too. -/
theorem hash_is_polynomial :
    (∀ key, (hash key).toNat = polynomial (keyBytes key) % 2 ^ 64) ∧
      (∀ a b, (hash (a ++ b)).toNat
        = ((hash a).toNat * base ^ b.utf8ByteSize + (hash b).toNat) % 2 ^ 64) ∧
      (∀ count key, hash (nuls count ++ key) = hash key) ∧
      (∀ bytes : List UInt8,
        (hashBytes bytes).toNat = bytes.foldl rollWide 0 % 2 ^ 64) ∧
      ∀ (key : String) (capacity : Nat), 0 < capacity → capacity < 2 ^ 64 →
        homeSlot key capacity = polynomial (keyBytes key) % 2 ^ 64 % capacity ∧
        homeSlot key capacity < capacity ∧
        homeSlot key capacity = (hash key % UInt64.ofNat capacity).toNat := by
  refine ⟨fun key => toNat_hashBytes _, toNat_hash_append, hash_nuls_append,
    fun bytes => toNat_foldl_roll bytes 0, fun key capacity hpos hword => ?_⟩
  refine ⟨?_, homeSlot_lt key hpos, homeSlot_eq_toNat key hword⟩
  rw [homeSlot, hash, toNat_hashBytes]

/-- The home slots of two names in tables of 733 slots, and one in the largest
    table that a word can count. -/
theorem homeSlot_of_read :
    homeSlot "read" 733 = 483 ∧ homeSlot "write" 733 = 53 ∧
      homeSlot "op" (2 ^ 64 - 1) = 7281601 := by
  have hslots := hash_is_polynomial.2.2.2.2
  rw [(hslots "read" 733 (by decide) (by decide)).1,
    (hslots "write" 733 (by decide) (by decide)).1,
    (hslots "op" (2 ^ 64 - 1) (by decide) (by decide)).1]
  decide +kernel

end Provenance.Stats
