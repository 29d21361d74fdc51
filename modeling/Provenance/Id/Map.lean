import Provenance.Id

/-! # Maps keyed by identities

    A finite map whose entries are kept in ascending order of their numbers,
    so two maps with the same look-ups are equal (`IdMap.ext_get?`).  Each
    operation is pinned down by its look-ups. -/

namespace Provenance

/-- A finite map from the identities of a role, in ascending order. -/
structure IdMap (role : Role) (α : Type) where
  entries : List (Id role × α)
  ascending : entries.Pairwise fun a b => a.1.number < b.1.number

namespace IdMap

variable {role : Role} {α : Type}

/-- The map without entries. -/
def empty : IdMap role α := ⟨[], .nil⟩

instance : Inhabited (IdMap role α) := ⟨empty⟩

/-- Look-up in a list of entries. -/
def lookup (id : Id role) : List (Id role × α) → Option α
  | [] => none
  | (k, a) :: rest => if k = id then some a else lookup id rest

/-- The value stored under an identity. -/
def get? (m : IdMap role α) (id : Id role) : Option α := lookup id m.entries

/-- The identity has a value. -/
def contains (m : IdMap role α) (id : Id role) : Bool := (m.get? id).isSome

/-- Number of entries. -/
def size (m : IdMap role α) : Nat := m.entries.length

/-- The values in ascending order of their identities. -/
def values (m : IdMap role α) : List α := m.entries.map Prod.snd

/-- Put an entry at its place among ascending entries. -/
def place (id : Id role) (a : α) : List (Id role × α) → List (Id role × α)
  | [] => [(id, a)]
  | (k, b) :: rest =>
      if id.number < k.number then (id, a) :: (k, b) :: rest
      else if id = k then (id, a) :: rest
      else (k, b) :: place id a rest

theorem mem_place {id : Id role} {a : α} {e : Id role × α} :
    ∀ {l : List (Id role × α)}, e ∈ place id a l → e = (id, a) ∨ e ∈ l := by
  intro l
  induction l with
  | nil =>
      intro h
      exact Or.inl (List.mem_singleton.mp h)
  | cons x rest ih =>
      obtain ⟨k, b⟩ := x
      intro h
      unfold place at h
      split at h
      · rcases List.mem_cons.mp h with h | h
        · exact Or.inl h
        · exact Or.inr h
      · split at h
        · rcases List.mem_cons.mp h with h | h
          · exact Or.inl h
          · exact Or.inr (List.mem_cons_of_mem _ h)
        · rcases List.mem_cons.mp h with h | h
          · exact Or.inr (h ▸ List.mem_cons_self ..)
          · rcases ih h with h | h
            · exact Or.inl h
            · exact Or.inr (List.mem_cons_of_mem _ h)

theorem ascending_place (id : Id role) (a : α) {l : List (Id role × α)}
    (h : l.Pairwise fun a b => a.1.number < b.1.number) :
    (place id a l).Pairwise fun a b => a.1.number < b.1.number := by
  induction l with
  | nil => exact List.pairwise_singleton ..
  | cons x rest ih =>
      obtain ⟨k, b⟩ := x
      obtain ⟨hk, hrest⟩ := List.pairwise_cons.mp h
      unfold place
      split
      · rename_i hlt
        refine List.pairwise_cons.mpr ⟨?_, h⟩
        intro e he
        rcases List.mem_cons.mp he with rfl | he
        · exact hlt
        · exact Nat.lt_trans hlt (hk e he)
      · split
        · rename_i heq
          refine List.pairwise_cons.mpr ⟨?_, hrest⟩
          intro e he
          exact heq ▸ hk e he
        · rename_i hlt hne
          refine List.pairwise_cons.mpr ⟨?_, ih hrest⟩
          intro e he
          rcases mem_place he with rfl | he
          · have hnum : id.number ≠ k.number := fun hn => hne (Id.ext hn)
            show k.number < id.number
            omega
          · exact hk e he

/-- Store a value under an identity, over any value it had. -/
def insert (m : IdMap role α) (id : Id role) (a : α) : IdMap role α :=
  ⟨place id a m.entries, ascending_place id a m.ascending⟩

/-- Drop the entry of an identity. -/
def erase (m : IdMap role α) (id : Id role) : IdMap role α :=
  ⟨m.entries.filter fun e => e.1 ≠ id, m.ascending.filter _⟩

/-! ## Look-ups -/

theorem lookup_eq_none {id : Id role} {l : List (Id role × α)}
    (h : ∀ e ∈ l, e.1 ≠ id) : lookup id l = none := by
  induction l with
  | nil => rfl
  | cons x rest ih =>
      obtain ⟨k, b⟩ := x
      unfold lookup
      rw [if_neg (h (k, b) (List.mem_cons_self ..))]
      exact ih fun e he => h e (List.mem_cons_of_mem _ he)

theorem mem_of_lookup {id : Id role} {a : α} {l : List (Id role × α)}
    (h : lookup id l = some a) : (id, a) ∈ l := by
  induction l with
  | nil => cases h
  | cons x rest ih =>
      obtain ⟨k, b⟩ := x
      unfold lookup at h
      split at h
      · rename_i hk
        cases h
        exact hk ▸ List.mem_cons_self ..
      · exact List.mem_cons_of_mem _ (ih h)

theorem lookup_of_mem {id : Id role} {a : α} {l : List (Id role × α)}
    (hl : l.Pairwise fun a b => a.1.number < b.1.number)
    (h : (id, a) ∈ l) : lookup id l = some a := by
  induction l with
  | nil => cases h
  | cons x rest ih =>
      obtain ⟨k, b⟩ := x
      obtain ⟨hk, hrest⟩ := List.pairwise_cons.mp hl
      unfold lookup
      rcases List.mem_cons.mp h with heq | hmem
      · cases heq
        exact if_pos rfl
      · have hlt : k.number < id.number := hk (id, a) hmem
        rw [if_neg fun hki => Nat.lt_irrefl _ (hki ▸ hlt)]
        exact ih hrest hmem

theorem get?_eq_some_iff {m : IdMap role α} {id : Id role} {a : α} :
    m.get? id = some a ↔ (id, a) ∈ m.entries :=
  ⟨mem_of_lookup, lookup_of_mem m.ascending⟩

@[simp]
theorem get?_empty (id : Id role) : (empty : IdMap role α).get? id = none := rfl

theorem lookup_place (id : Id role) (a : α) (j : Id role)
    (l : List (Id role × α))
    (hl : l.Pairwise fun a b => a.1.number < b.1.number) :
    lookup j (place id a l) = if id = j then some a else lookup j l := by
  induction l with
  | nil => rfl
  | cons x rest ih =>
      obtain ⟨k, b⟩ := x
      obtain ⟨-, hrest⟩ := List.pairwise_cons.mp hl
      unfold place
      split
      · rfl
      · split
        · rename_i heq
          subst heq
          simp only [lookup]
          split <;> rfl
        · rename_i hne
          simp only [lookup, ih hrest]
          by_cases hkj : k = j
          · subst hkj
            rw [if_pos rfl, if_neg hne, if_pos rfl]
          · rw [if_neg hkj, if_neg hkj]

theorem get?_insert (m : IdMap role α) (id j : Id role) (a : α) :
    (m.insert id a).get? j = if id = j then some a else m.get? j :=
  lookup_place id a j m.entries m.ascending

@[simp]
theorem get?_insert_self (m : IdMap role α) (id : Id role) (a : α) :
    (m.insert id a).get? id = some a := by
  rw [get?_insert, if_pos rfl]

theorem get?_insert_of_ne (m : IdMap role α) {id j : Id role} (a : α)
    (h : id ≠ j) : (m.insert id a).get? j = m.get? j := by
  rw [get?_insert, if_neg h]

theorem lookup_filter (id j : Id role) (l : List (Id role × α)) :
    lookup j (l.filter fun e => e.1 ≠ id)
      = if id = j then none else lookup j l := by
  induction l with
  | nil => simp [lookup]
  | cons x rest ih =>
      obtain ⟨k, b⟩ := x
      by_cases hk : k = id
      · subst hk
        rw [List.filter_cons_of_neg (by simp), ih]
        by_cases hkj : k = j
        · rw [if_pos hkj, if_pos hkj]
        · rw [if_neg hkj, if_neg hkj, lookup, if_neg hkj]
      · rw [List.filter_cons_of_pos (by simpa using hk), lookup, ih]
        by_cases hkj : k = j
        · subst hkj
          rw [if_pos rfl, if_neg (fun h => hk h.symm), lookup, if_pos rfl]
        · rw [if_neg hkj, lookup, if_neg hkj]

theorem get?_erase (m : IdMap role α) (id j : Id role) :
    (m.erase id).get? j = if id = j then none else m.get? j :=
  lookup_filter id j m.entries

@[simp]
theorem get?_erase_self (m : IdMap role α) (id : Id role) :
    (m.erase id).get? id = none := by
  rw [get?_erase, if_pos rfl]

theorem get?_erase_of_ne (m : IdMap role α) {id j : Id role} (h : id ≠ j) :
    (m.erase id).get? j = m.get? j := by
  rw [get?_erase, if_neg h]

/-! ## Equal look-ups make equal maps -/

theorem entries_ext :
    ∀ {l₁ l₂ : List (Id role × α)},
      l₁.Pairwise (fun a b => a.1.number < b.1.number) →
      l₂.Pairwise (fun a b => a.1.number < b.1.number) →
      (∀ e, e ∈ l₁ ↔ e ∈ l₂) → l₁ = l₂ := by
  intro l₁
  induction l₁ with
  | nil =>
      intro l₂ _ _ h
      cases l₂ with
      | nil => rfl
      | cons y ys => cases (h y).mpr (List.mem_cons_self ..)
  | cons x xs ih =>
      intro l₂ h₁ h₂ h
      cases l₂ with
      | nil => cases (h x).mp (List.mem_cons_self ..)
      | cons y ys =>
          obtain ⟨hx, hxs⟩ := List.pairwise_cons.mp h₁
          obtain ⟨hy, hys⟩ := List.pairwise_cons.mp h₂
          have hxy : x = y := by
            rcases List.mem_cons.mp ((h x).mp (List.mem_cons_self ..)) with
              heq | hmem
            · exact heq
            · rcases List.mem_cons.mp ((h y).mpr (List.mem_cons_self ..)) with
                heq | hmem'
              · exact heq.symm
              · have hlt := hy x hmem
                have hlt' := hx y hmem'
                omega
          subst hxy
          congr 1
          refine ih hxs hys fun e => ⟨fun he => ?_, fun he => ?_⟩
          · rcases List.mem_cons.mp ((h e).mp (List.mem_cons_of_mem _ he)) with
              heq | hmem
            · exact absurd (hx e he) (heq ▸ Nat.lt_irrefl _)
            · exact hmem
          · rcases List.mem_cons.mp ((h e).mpr (List.mem_cons_of_mem _ he)) with
              heq | hmem
            · exact absurd (hy e he) (heq ▸ Nat.lt_irrefl _)
            · exact hmem

theorem ext_get? {m₁ m₂ : IdMap role α}
    (h : ∀ id, m₁.get? id = m₂.get? id) : m₁ = m₂ := by
  obtain ⟨l₁, h₁⟩ := m₁
  obtain ⟨l₂, h₂⟩ := m₂
  have hl : l₁ = l₂ := by
    refine entries_ext h₁ h₂ fun ⟨id, a⟩ => ?_
    have hid := h id
    constructor
    · intro hmem
      exact mem_of_lookup (hid.symm.trans (lookup_of_mem h₁ hmem))
    · intro hmem
      exact mem_of_lookup (hid.trans (lookup_of_mem h₂ hmem))
  subst hl
  rfl

end IdMap

end Provenance
