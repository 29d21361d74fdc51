import Provenance.Proofs.Stats.Probe

/-! # Writing to the slots of a table

    A slot is written at the end of the way of its name, either empty or over
    an earlier duration of that name.  Both keep the slots sound
    (`Sound.write`).  Growth fills empty slots with what was stored before, one
    slot after another (`Fits.refill`), so every name is found again, from its
    new home slot on. -/

namespace Provenance.StatsTable

variable {slots : Array (Option Slot)} {key : String} {i j m k : Nat}
  {s new old : Slot}

/-! ## One write -/

theorem stored_write (hi : i < slots.size) :
    Stored (slots.setIfInBounds i (some new)) j s ↔
      if i = j then s = new else Stored slots j s := by
  rw [Stored, Array.getElem?_setIfInBounds]
  by_cases hij : i = j
  · rw [if_pos hij, if_pos hij, if_pos hi]
    constructor
    · intro h
      cases h
      rfl
    · rintro rfl
      rfl
  · rw [if_neg hij, if_neg hij]
    rfl

/-- A write leaves every way as it is, unless it puts another name into a
    slot. -/
theorem Passed.write (h : Passed slots key k) (hi : i < slots.size)
    (hsame : ∀ s, Stored slots i s → s.key = new.key) :
    Passed (slots.setIfInBounds i (some new)) key k := by
  intro d hd
  obtain ⟨s, hs, hne⟩ := h d hd
  simp only [Array.size_setIfInBounds, stored_write hi]
  by_cases hij : i = (Stats.homeSlot key slots.size + d) % slots.size
  · -- the slot is on the way, and still holds another name
    rw [← hij] at hs
    refine ⟨new, by rw [if_pos hij], ?_⟩
    rw [← hsame s hs]
    exact hne
  · refine ⟨s, ?_, hne⟩
    rw [if_neg hij]
    exact hs

/-- Writing a name at the end of its way keeps the slots sound. -/
theorem Sound.write (h : Sound slots) (hi : i < slots.size)
    (hlead : Leads slots new.key m i)
    (hsame : ∀ s, Stored slots i s → s.key = new.key) :
    Sound (slots.setIfInBounds i (some new)) := by
  constructor
  · rw [Array.size_setIfInBounds]
    exact h.pos
  · intro j s hs
    rw [stored_write hi] at hs
    by_cases hij : i = j
    · rw [if_pos hij] at hs
      subst hij hs
      refine ⟨m, ?_, hlead.2.write hi hsame⟩
      rw [Array.size_setIfInBounds]
      exact hlead.1
    · rw [if_neg hij] at hs
      obtain ⟨k, hk, hpassed⟩ := h.leads j s hs
      refine ⟨k, ?_, hpassed.write hi hsame⟩
      rw [Array.size_setIfInBounds]
      exact hk

/-! ## What is stored -/

/-- The slots that are taken, in order. -/
def occupied (slots : Array (Option Slot)) : List Slot :=
  slots.toList.filterMap id

theorem mem_occupied : s ∈ occupied slots ↔ ∃ i, Stored slots i s := by
  simp only [occupied, List.mem_filterMap, id, Array.mem_toList_iff,
    Array.mem_iff_getElem?, Stored]
  constructor
  · rintro ⟨_, ⟨i, hi⟩, rfl⟩
    exact ⟨i, hi⟩
  · rintro ⟨i, hi⟩
    exact ⟨some s, ⟨i, hi⟩, rfl⟩

theorem length_occupied_le (slots : Array (Option Slot)) :
    (occupied slots).length ≤ slots.size :=
  List.length_filterMap_le id slots.toList

/-- The names in sound slots are distinct. -/
theorem Sound.pairwise_occupied (h : Sound slots) :
    (occupied slots).Pairwise fun a b => a.key ≠ b.key := by
  rw [occupied, List.pairwise_filterMap, List.pairwise_iff_getElem]
  intro i j hi hj hij a ha b hb hkey
  have hstored : ∀ {k : Nat} {c : Slot} (hk : k < slots.toList.length),
      id slots.toList[k] = some c → Stored slots k c := by
    intro k c hk hc
    rw [Stored, ← Array.getElem?_toList, List.getElem?_eq_getElem hk]
    exact congrArg some hc
  -- two slots with one name would be one slot
  have heq := h.index_eq (hstored hi ha) (hstored hj hb) hkey
  omega

/-- The slots taken before and after a place, with what is in it. -/
theorem occupied_split (hi : i < slots.size) (o : Option Slot) :
    occupied (slots.setIfInBounds i o)
      = (slots.toList.take i).filterMap id ++ o.toList
          ++ (slots.toList.drop (i + 1)).filterMap id := by
  rw [occupied, Array.toList_setIfInBounds,
    List.set_eq_take_append_cons_drop, if_pos (by simpa using hi),
    List.filterMap_append, List.append_assoc]
  cases o with
  | none => rfl
  | some s => rfl

theorem occupied_split_self {o : Option Slot} (h : slots[i]? = some o) :
    occupied slots = (slots.toList.take i).filterMap id ++ o.toList
      ++ (slots.toList.drop (i + 1)).filterMap id := by
  obtain ⟨hi, hget⟩ := Array.getElem?_eq_some_iff.mp h
  rw [← occupied_split hi o, occupied, occupied, Array.toList_setIfInBounds,
    ← hget, ← Array.getElem_toList, List.set_getElem_self]

/-- A new name is added to those stored. -/
theorem occupied_fill (new : Slot) (h : slots[i]? = some none) :
    (occupied (slots.setIfInBounds i (some new))).Perm
      (new :: occupied slots) := by
  obtain ⟨hi, -⟩ := Array.getElem?_eq_some_iff.mp h
  rw [occupied_split hi, occupied_split_self h]
  simp only [Option.toList_some, Option.toList_none, List.append_nil,
    List.append_assoc, List.singleton_append]
  exact List.perm_middle

/-- The duration of a name is replaced in its place. -/
theorem Sound.occupied_overwrite (new : Slot) (h : Sound slots) (hold : Stored slots i old)
    (hkey : old.key = new.key) :
    occupied (slots.setIfInBounds i (some new))
      = (occupied slots).map fun s => if s.key = new.key then new else s := by
  obtain ⟨hi, -⟩ := Array.getElem?_eq_some_iff.mp hold
  have hpair := h.pairwise_occupied
  rw [occupied_split_self hold] at hpair ⊢
  rw [occupied_split hi]
  simp only [Option.toList_some, List.append_assoc, List.singleton_append,
    List.pairwise_append, List.pairwise_cons, List.mem_cons] at hpair
  obtain ⟨-, ⟨hafter, -⟩, hbefore⟩ := hpair
  simp only [Option.toList_some, List.map_append, List.map_cons, List.map_nil,
    if_pos hkey]
  -- the name stands nowhere else
  have hrest : ∀ l : List Slot, (∀ s ∈ l, s.key ≠ new.key) →
      l.map (fun s => if s.key = new.key then new else s) = l := by
    intro l hl
    exact (List.map_congr_left fun s hs => if_neg (hl s hs)).trans (List.map_id l)
  rw [hrest _ fun s hs => ?_, hrest _ fun s hs => ?_]
  · rw [← hkey]
    exact (hafter s hs).symm
  · rw [← hkey]
    exact hbefore s hs old (Or.inl rfl)

/-! ## Room -/

theorem length_occupied_lt (h : slots[i]? = some none) :
    (occupied slots).length < slots.size := by
  have hle := length_occupied_le (slots.setIfInBounds i (some ⟨"", .zero⟩))
  rw [(occupied_fill _ h).length_eq, Array.size_setIfInBounds,
    List.length_cons] at hle
  exact hle

theorem length_occupied_eq (h : ∀ i < slots.size, ∃ s, Stored slots i s) :
    (occupied slots).length = slots.size := by
  rw [occupied, List.length_filterMap_eq_countP, List.countP_eq_length.mpr]
  · exact Array.length_toList
  · intro o ho
    obtain ⟨i, hi, hget⟩ := List.getElem_of_mem ho
    obtain ⟨s, hs⟩ := h i (by simpa using hi)
    rw [Stored, ← Array.getElem?_toList, List.getElem?_eq_getElem hi, hget] at hs
    rw [Option.some.inj hs]
    rfl

/-- The search for an absent name ends at an empty slot as long as there is
    one. -/
theorem Sound.search_absent (h : Sound slots) (habsent : Absent slots key) :
    if (occupied slots).length < slots.size then
      ∃ i, search slots key = .vacant i
    else search slots key = .full := by
  cases hsearch : search slots key with
  | found i =>
      obtain ⟨s, hs, hkey⟩ := search_found h.pos hsearch
      exact absurd hkey (habsent i s hs)
  | vacant i =>
      rw [if_pos (length_occupied_lt (search_vacant h.pos hsearch).1)]
      exact ⟨i, rfl⟩
  | full =>
      rw [if_neg]
      rw [length_occupied_eq fun i hi => search_full h.pos hsearch hi]
      exact Nat.lt_irrefl _

theorem Sound.vacant (h : Sound slots) (habsent : Absent slots key)
    (hroom : (occupied slots).length < slots.size) :
    ∃ i m, search slots key = .vacant i ∧ slots[i]? = some none ∧
      Leads slots key m i := by
  have hsearch := h.search_absent habsent
  rw [if_pos hroom] at hsearch
  obtain ⟨i, hi⟩ := hsearch
  obtain ⟨hnone, m, hm⟩ := search_vacant h.pos hi
  exact ⟨i, m, hi, hnone, hm⟩

/-- Filling an empty slot with an absent name. -/
theorem Sound.fill (new : Slot) (h : Sound slots) (hnone : slots[i]? = some none)
    (hlead : Leads slots new.key m i) :
    Sound (slots.setIfInBounds i (some new)) := by
  obtain ⟨hi, -⟩ := Array.getElem?_eq_some_iff.mp hnone
  refine h.write hi hlead fun s hs => ?_
  rw [Stored, hnone] at hs
  cases hs

/-! ## Growth -/

theorem absent_iff : Absent slots key ↔ ∀ s ∈ occupied slots, s.key ≠ key := by
  simp only [Absent, mem_occupied]
  constructor
  · rintro h s ⟨i, hs⟩
    exact h i s hs
  · exact fun h i s hs => h s ⟨i, hs⟩

/-- Where a name is absent, the first empty slot is the end of its search. -/
theorem firstVacant_eq (habsent : Absent slots key) (steps i : Nat) :
    firstVacant slots steps i =
      match probeFrom slots key steps i with
      | .vacant j => some j
      | _ => none := by
  induction steps generalizing i with
  | zero => rfl
  | succ steps ih =>
      rw [firstVacant, probeFrom]
      rcases hslot : slots[i]? with _ | _ | s
      · rfl
      · rfl
      · -- both go on, the search because this is another name
        dsimp only
        rw [if_neg (habsent i s hslot)]
        exact ih _

/-- The first empty slot from the home of an absent name is the end of its way. -/
theorem Sound.firstVacant (h : Sound slots) (habsent : Absent slots key)
    (hroom : (occupied slots).length < slots.size) :
    ∃ i m, firstVacant slots slots.size (Stats.homeSlot key slots.size) = some i ∧
      slots[i]? = some none ∧ Leads slots key m i := by
  obtain ⟨i, m, hsearch, hnone, hlead⟩ := h.vacant habsent hroom
  refine ⟨i, m, ?_, hnone, hlead⟩
  rw [firstVacant_eq habsent]
  rw [search] at hsearch
  rw [hsearch]

/-- Names that can be put in one after another: they are distinct and absent,
    and there is room for all of them. -/
structure Fits (slots : Array (Option Slot)) (l : List Slot) : Prop where
  sound : Sound slots
  distinct : l.Pairwise fun a b => a.key ≠ b.key
  absent : ∀ s ∈ l, Absent slots s.key
  room : l.length + (occupied slots).length ≤ slots.size

section

variable {l : List Slot}

/-- What is put in again goes to the first empty slot from its home on. -/
theorem Fits.first (h : Fits slots (s :: l)) :
    ∃ i m, StatsTable.firstVacant slots slots.size
        (Stats.homeSlot s.key slots.size) = some i ∧
      reinsert slots s = slots.setIfInBounds i (some s) ∧
      slots[i]? = some none ∧ Leads slots s.key m i := by
  have hroom := h.room
  rw [List.length_cons] at hroom
  obtain ⟨i, m, hfirst, hnone, hlead⟩ :=
    h.sound.firstVacant (h.absent s (List.mem_cons_self ..)) (by omega)
  refine ⟨i, m, hfirst, ?_, hnone, hlead⟩
  rw [reinsert, hfirst]

/-- What is put in again is added to those stored, and the rest still fits. -/
theorem Fits.next (h : Fits slots (s :: l)) :
    Fits (reinsert slots s) l ∧ (reinsert slots s).size = slots.size ∧
      (occupied (reinsert slots s)).Perm (s :: occupied slots) := by
  obtain ⟨i, m, -, heq, hnone, hlead⟩ := h.first
  have hsize : (reinsert slots s).size = slots.size := by
    rw [heq, Array.size_setIfInBounds]
  have hperm : (occupied (reinsert slots s)).Perm (s :: occupied slots) := by
    rw [heq]
    exact occupied_fill s hnone
  have hdistinct := List.pairwise_cons.mp h.distinct
  refine ⟨⟨?_, hdistinct.2, ?_, ?_⟩, hsize, hperm⟩
  · rw [heq]
    exact h.sound.fill s hnone hlead
  · intro a ha
    rw [absent_iff]
    intro b hb
    rw [hperm.mem_iff, List.mem_cons] at hb
    rcases hb with rfl | hb
    · exact hdistinct.1 a ha
    · exact absent_iff.mp (h.absent a (List.mem_cons_of_mem _ ha)) b hb
  · have hroom := h.room
    rw [List.length_cons] at hroom
    rw [hperm.length_eq, List.length_cons, hsize]
    omega

/-- Names put in one after another are all stored. -/
theorem Fits.refill (h : Fits slots l) :
    Sound (l.foldl reinsert slots) ∧
      (l.foldl reinsert slots).size = slots.size ∧
      (occupied (l.foldl reinsert slots)).Perm (l ++ occupied slots) := by
  induction l generalizing slots with
  | nil => exact ⟨h.sound, rfl, .refl _⟩
  | cons s l ih =>
      obtain ⟨hrest, hsize, hperm⟩ := h.next
      obtain ⟨hsound, hsize', hperm'⟩ := ih hrest
      refine ⟨hsound, hsize'.trans hsize, hperm'.trans ?_⟩
      exact (hperm.append_left l).trans List.perm_middle

end

/-- Empty slots are sound. -/
theorem Sound.replicate {n : Nat} (hn : 0 < n) :
    Sound (Array.replicate n none) := by
  constructor
  · rw [Array.size_replicate]
    exact hn
  · intro i s hs
    rw [Stored, Array.getElem?_replicate] at hs
    by_cases hi : i < n
    · rw [if_pos hi] at hs
      cases hs
    · rw [if_neg hi] at hs
      cases hs

theorem occupied_replicate (n : Nat) :
    occupied (Array.replicate n none) = [] := by
  rw [occupied, Array.toList_replicate, List.filterMap_replicate_of_none rfl]

/-- All that is stored fits into as many empty slots. -/
theorem Sound.fits (h : Sound slots) {n : Nat} (hn : slots.size ≤ n) :
    Fits (Array.replicate n none) (occupied slots) := by
  refine ⟨.replicate (Nat.lt_of_lt_of_le h.pos hn), h.pairwise_occupied, ?_, ?_⟩
  · intro s _
    rw [absent_iff, occupied_replicate]
    exact fun _ hs => absurd hs List.not_mem_nil
  · rw [occupied_replicate, Array.size_replicate]
    exact Nat.le_trans (length_occupied_le slots) hn

/-- Growth keeps what is stored. -/
theorem Sound.grow (h : Sound slots) {n : Nat} (hn : slots.size ≤ n) :
    Sound ((occupied slots).foldl reinsert (Array.replicate n none)) ∧
      ((occupied slots).foldl reinsert (Array.replicate n none)).size = n ∧
      (occupied ((occupied slots).foldl reinsert
        (Array.replicate n none))).Perm (occupied slots) := by
  have hrefill := (h.fits hn).refill
  rw [occupied_replicate, List.append_nil, Array.size_replicate] at hrefill
  exact hrefill

end Provenance.StatsTable
