import Mathlib.Combinatorics.Enumerative.DoubleCounting
import Provenance.Id.Map

/-! # Sizes of maps

    How many entries each operation leaves, and which values a map holds. -/

namespace Provenance.IdMap

variable {role : Role} {α β : Type}

@[simp]
theorem size_empty : (empty : IdMap role α).size = 0 := rfl

@[simp]
theorem values_empty : (empty : IdMap role α).values = [] := rfl

/-- No entry is stored under a number below all the others. -/
theorem lookup_eq_none_of_lt {id k : Id role} {b : α} {l : List (Id role × α)}
    (h : ((k, b) :: l).Pairwise fun a b => a.1.number < b.1.number)
    (hlt : id.number < k.number) : lookup id ((k, b) :: l) = none := by
  obtain ⟨hk, -⟩ := List.pairwise_cons.mp h
  refine lookup_eq_none fun e he heq => ?_
  rcases List.mem_cons.mp he with rfl | he
  · rw [← heq] at hlt
    exact Nat.lt_irrefl _ hlt
  · have hke := hk e he
    rw [heq] at hke
    exact Nat.lt_asymm hlt hke

theorem length_place (id : Id role) (a : α) {l : List (Id role × α)}
    (h : l.Pairwise fun a b => a.1.number < b.1.number) :
    (place id a l).length
      = if (lookup id l).isSome then l.length else l.length + 1 := by
  induction l with
  | nil => rfl
  | cons x rest ih =>
      obtain ⟨k, b⟩ := x
      obtain ⟨-, hrest⟩ := List.pairwise_cons.mp h
      by_cases hlt : id.number < k.number
      · rw [place, if_pos hlt, lookup_eq_none_of_lt h hlt]
        rfl
      · by_cases heq : id = k
        · rw [place, if_neg hlt, if_pos heq, lookup, if_pos heq.symm]
          rfl
        · have hk : k ≠ id := fun hk => heq hk.symm
          rw [place, if_neg hlt, if_neg heq, lookup, if_neg hk,
            List.length_cons, List.length_cons, ih hrest]
          split <;> rfl

theorem size_insert_of_some {m : IdMap role α} {id : Id role} {b : α} (a : α)
    (h : m.get? id = some b) : (m.insert id a).size = m.size := by
  have hlen := length_place id a m.ascending
  rw [show lookup id m.entries = some b from h] at hlen
  exact hlen

theorem size_insert_of_none {m : IdMap role α} {id : Id role} (a : α)
    (h : m.get? id = none) : (m.insert id a).size = m.size + 1 := by
  have hlen := length_place id a m.ascending
  rw [show lookup id m.entries = none from h] at hlen
  exact hlen

theorem insert_erase {m : IdMap role α} {id : Id role} {b : α}
    (h : m.get? id = some b) : (m.erase id).insert id b = m := by
  refine ext_get? fun j => ?_
  rw [get?_insert, get?_erase]
  by_cases hj : id = j
  · rw [if_pos hj, ← hj, h]
  · rw [if_neg hj, if_neg hj]

theorem size_erase_of_some {m : IdMap role α} {id : Id role} {b : α}
    (h : m.get? id = some b) : (m.erase id).size + 1 = m.size := by
  have hsize := size_insert_of_none b (get?_erase_self m id)
  rw [insert_erase h] at hsize
  exact hsize.symm

theorem erase_insert {m : IdMap role α} {id : Id role} (a : α)
    (h : m.get? id = none) : (m.insert id a).erase id = m := by
  refine ext_get? fun j => ?_
  rw [get?_erase, get?_insert]
  by_cases hj : id = j
  · rw [if_pos hj, ← hj, h]
  · rw [if_neg hj, if_neg hj]

theorem insert_self {m : IdMap role α} {id : Id role} {a : α}
    (h : m.get? id = some a) : m.insert id a = m := by
  refine ext_get? fun j => ?_
  rw [get?_insert]
  by_cases hj : id = j
  · rw [if_pos hj, ← hj, h]
  · rw [if_neg hj]

theorem erase_of_none {m : IdMap role α} {id : Id role} (h : m.get? id = none) :
    m.erase id = m := by
  refine ext_get? fun j => ?_
  rw [get?_erase]
  by_cases hj : id = j
  · rw [if_pos hj, ← hj, h]
  · rw [if_neg hj]

theorem erase_insert_self (m : IdMap role α) (id : Id role) (a : α) :
    (m.insert id a).erase id = m.erase id := by
  refine ext_get? fun j => ?_
  rw [get?_erase, get?_erase, get?_insert]
  by_cases hj : id = j
  · rw [if_pos hj, if_pos hj]
  · rw [if_neg hj, if_neg hj, if_neg hj]

theorem insert_insert (m : IdMap role α) (id : Id role) (a b : α) :
    (m.insert id a).insert id b = m.insert id b := by
  refine ext_get? fun j => ?_
  rw [get?_insert, get?_insert, get?_insert]
  by_cases hj : id = j
  · rw [if_pos hj, if_pos hj]
  · rw [if_neg hj, if_neg hj, if_neg hj]

/-- The identities that have an entry. -/
def keys (m : IdMap role α) : Finset (Id role) :=
  (m.entries.map Prod.fst).toFinset

theorem mem_keys_iff {m : IdMap role α} {id : Id role} :
    id ∈ m.keys ↔ ∃ a, m.get? id = some a := by
  rw [keys, List.mem_toFinset]
  constructor
  · intro h
    obtain ⟨⟨id, a⟩, hmem, rfl⟩ := List.mem_map.mp h
    exact ⟨a, get?_eq_some_iff.mpr hmem⟩
  · rintro ⟨a, h⟩
    exact List.mem_map.mpr ⟨(id, a), get?_eq_some_iff.mp h, rfl⟩

theorem card_keys (m : IdMap role α) : m.keys.card = m.size := by
  have hkeys : (m.entries.map Prod.fst).Nodup := by
    refine List.Pairwise.map _ ?_ m.ascending
    intro a b hlt heq
    rw [heq] at hlt
    exact Nat.lt_irrefl _ hlt
  rw [keys, List.toFinset_card_of_nodup hkeys, List.length_map]
  rfl

/-- A map is no larger than another one, if its entries can be told apart by
    entries of the other that they are related to. -/
theorem size_le_of_rel {m : IdMap role α} {m' : IdMap role β}
    {R : Id role → Id role → Prop}
    (htotal : ∀ {i a}, m.get? i = some a → ∃ j b, m'.get? j = some b ∧ R i j)
    (happart : ∀ {i i' j a a'}, m.get? i = some a → m.get? i' = some a' →
      R i j → R i' j → i = i') : m.size ≤ m'.size := by
  rw [← card_keys, ← card_keys]
  refine Finset.card_le_card_of_forall_subsingleton R (fun i hi => ?_)
    fun j _ i hi i' hi' => ?_
  · obtain ⟨a, ha⟩ := mem_keys_iff.mp hi
    obtain ⟨j, b, hb, hij⟩ := htotal ha
    exact ⟨j, mem_keys_iff.mpr ⟨b, hb⟩, hij⟩
  · obtain ⟨a, ha⟩ := mem_keys_iff.mp hi.1
    obtain ⟨a', ha'⟩ := mem_keys_iff.mp hi'.1
    exact happart ha ha' hi.2 hi'.2

/-- A map with entries wherever another one has some is no smaller. -/
theorem size_le {m : IdMap role α} {m' : IdMap role β}
    (h : ∀ {id a}, m.get? id = some a → ∃ b, m'.get? id = some b) :
    m.size ≤ m'.size :=
  size_le_of_rel (R := Eq)
    (fun {i} _ hi => ⟨i, (h hi).imp fun _ hb => ⟨hb, rfl⟩⟩)
    fun _ _ hij hij' => hij.trans hij'.symm

theorem mem_values_iff {m : IdMap role α} {a : α} :
    a ∈ m.values ↔ ∃ id, m.get? id = some a := by
  constructor
  · intro h
    obtain ⟨⟨id, b⟩, hmem, rfl⟩ := List.mem_map.mp h
    exact ⟨id, get?_eq_some_iff.mpr hmem⟩
  · rintro ⟨id, h⟩
    exact List.mem_map.mpr ⟨(id, a), get?_eq_some_iff.mp h, rfl⟩

theorem place_perm {id : Id role} {a : α} {l : List (Id role × α)}
    (h : lookup id l = none) : (place id a l).Perm ((id, a) :: l) := by
  induction l with
  | nil => exact List.Perm.refl _
  | cons x rest ih =>
      obtain ⟨k, b⟩ := x
      rw [place]
      by_cases hk : k = id
      · rw [lookup, if_pos hk] at h
        cases h
      · rw [lookup, if_neg hk] at h
        rw [if_neg fun heq : id = k => hk heq.symm]
        by_cases hlt : id.number < k.number
        · rw [if_pos hlt]
        · rw [if_neg hlt]
          exact ((ih h).cons _).trans (List.Perm.swap _ _ _)

/-- The value of an identity, beside all others. -/
theorem values_perm_cons_erase {m : IdMap role α} {id : Id role} {a : α}
    (h : m.get? id = some a) : m.values.Perm (a :: (m.erase id).values) := by
  have hperm := (place_perm (a := a) (get?_erase_self m id)).map Prod.snd
  have hvalues : ((m.erase id).insert id a).values = m.values := by
    rw [insert_erase h]
  rw [← hvalues]
  exact hperm

end Provenance.IdMap
