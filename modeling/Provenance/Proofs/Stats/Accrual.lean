import Mathlib.Data.Finset.Card
import Provenance.Proofs.Stats.Sums

/-! # What accrues in a table of statistics

    A list of additions to a chart, each with the memory that it finds.  What one
    of them does is said once (`Addends`): it is answered with the new sum of its
    name, or it is refused, and then the name is new to a fixed chart that holds as
    many names as it has room for.

    Along the list each name of the chart has the sum of all that was added to it
    (`Accrued`).  For this it is enough that a chart that refused a name is full,
    since a full chart never takes it in later: so no addition to a name that is
    held was lost. -/

namespace Provenance

/-- A duration with others added to it one by one. -/
def Duration.plusAll (start : Duration) (deltas : List Duration) : Duration :=
  deltas.foldl saturatingAdd start

/-- A sum that is cut at each step is the exact sum cut once. -/
theorem Duration.plusAll_eq (start : Duration) (deltas : List Duration) :
    start.plusAll deltas = ofNanos (start.nanos + totalNanos deltas) := by
  induction deltas generalizing start with
  | nil => exact ext (Nat.min_eq_left start.bounded).symm
  | cons d deltas ih =>
      show (start.saturatingAdd d).plusAll deltas = _
      rw [ih]
      refine ext ?_
      show min (min (start.nanos + d.nanos) limit + totalNanos deltas) limit
        = min (start.nanos + (d.nanos + totalNanos deltas)) limit
      omega

/-- What is picked from a list with one more entry. -/
theorem map_filter_concat {α β : Type} (P : α → Prop) [DecidablePred P] (f : α → β)
    (l : List α) (a : α) :
    ((l ++ [a]).filter fun x => P x).map f
      = if P a then (l.filter fun x => P x).map f ++ [f a]
        else (l.filter fun x => P x).map f := by
  rw [List.filter_append, List.map_append]
  by_cases h : P a
  · rw [if_pos h, List.filter_cons_of_pos (by exact decide_eq_true h)]
    rfl
  · rw [if_neg h, List.filter_cons_of_neg (by simpa using h)]
    exact List.append_nil _

/-- A duration to be added to a name. -/
structure Addition where
  key : String
  delta : Duration

/-- What is added to a name, in order. -/
def deltasOf (key : String) (additions : List Addition) : List Duration :=
  (additions.filter fun a => a.key = key).map Addition.delta

theorem deltasOf_concat (key : String) (additions : List Addition) (a : Addition) :
    deltasOf key (additions ++ [a])
      = if a.key = key then deltasOf key additions ++ [a.delta]
        else deltasOf key additions :=
  map_filter_concat (fun a : Addition => a.key = key) Addition.delta additions a

/-- The nanoseconds that are added to a name. -/
def addedTo (key : String) (additions : List Addition) : Nat :=
  Duration.totalNanos (deltasOf key additions)

theorem addedTo_concat (key : String) (additions : List Addition) (a : Addition) :
    addedTo key (additions ++ [a])
      = addedTo key additions + if a.key = key then a.delta.nanos else 0 := by
  rw [addedTo, deltasOf_concat]
  by_cases h : a.key = key
  · rw [if_pos h, if_pos h, Duration.totalNanos_eq_sum, List.map_append, List.sum_append,
      ← Duration.totalNanos_eq_sum]
    rfl
  · rw [if_neg h, if_neg h]
    rfl

theorem deltasOf_of_not_mem {key : String} {additions : List Addition}
    (h : key ∉ additions.map Addition.key) : deltasOf key additions = [] := by
  rw [deltasOf, List.map_eq_nil_iff, List.filter_eq_nil_iff]
  intro a ha hkey
  exact h (List.mem_map.mpr ⟨a, ha, of_decide_eq_true hkey⟩)

namespace Chart

variable {c d : Chart} {memory : Memory} {key : String} {delta : Duration}
  {additions : List Addition} {a : Addition}

/-! ## Names -/

/-- The names of a chart. -/
def names (c : Chart) : Finset String := (c.entries.map Prod.fst).toFinset

theorem mem_names : key ∈ c.names ↔ (c.get? key).isSome = true := by
  rw [names, List.mem_toFinset, List.mem_map, get?, List.lookup_isSome_iff]
  constructor
  · rintro ⟨e, he, rfl⟩
    exact ⟨e, he, beq_self_eq_true _⟩
  · rintro ⟨e, he, hkey⟩
    exact ⟨e, he, (beq_iff_eq.mp hkey).symm⟩

theorem not_mem_names : key ∉ c.names ↔ c.get? key = none := by
  rw [mem_names, Bool.not_eq_true, Option.isSome_eq_false_iff, Option.isNone_iff_eq_none]

theorem card_names (h : c.Distinct) : c.names.card = c.entries.length := by
  rw [names, List.toFinset_card_of_nodup h, List.length_map]

/-- A fixed chart without room for one more name. -/
def Full (c : Chart) : Prop := c.growth = .fixed ∧ c.capacity ≤ c.entries.length

/-- Where a doubling chart is too crowded for a new name, there is memory to double
    its room. -/
def Supplied (memory : Memory) (key : String) (c : Chart) : Prop :=
  c.growth = .double → c.get? key = none → ¬ (c.entries.length + 1) * 4 ≤ c.capacity * 3 →
    memory.grants .statsSlots (c.capacity * 2 * StatsTable.slotBytes) = true

/-! ## One addition -/

/-- An addition under a name went from one chart to another. -/
structure Counted (c : Chart) (key : String) (delta : Duration) (d : Chart) : Prop where
  /-- The name was there, or there was room for it. -/
  room : c.get? key = none → ¬ c.Full
  /-- The duration is added to what there was under the name. -/
  get?_eq : ∀ k, d.get? k =
    if k = key then some (((c.get? key).getD .zero).saturatingAdd delta) else c.get? k
  distinct : d.Distinct
  growth_eq : d.growth = c.growth
  /-- The room is the same, or doubled. -/
  capacity : d.capacity = c.capacity ∨ c.growth = .double ∧ d.capacity = c.capacity * 2

/-- What an addition does to a chart: the answer with the chart afterwards. -/
inductive Addends (c : Chart) (key : String) (delta : Duration) :
    Outcome StatsError Duration × Chart → Prop
  /-- It is answered with the new sum. -/
  | counted {d : Chart} : Counted c key delta d →
      Addends c key delta (.value (((c.get? key).getD .zero).saturatingAdd delta), d)
  /-- The name is new, and there is no room. -/
  | refused : c.get? key = none → c.Full →
      Addends c key delta (.error (.capacityExceeded c.capacity), c)

theorem Distinct.replace (h : c.Distinct) (key : String) (value : Duration) :
    (c.replace key value).Distinct := by
  have hnames : (c.replace key value).entries.map Prod.fst = c.entries.map Prod.fst := by
    rw [Chart.replace, List.map_map]
    refine List.map_congr_left fun e _ => ?_
    dsimp only [Function.comp]
    by_cases hkey : e.1 = key
    · rw [if_pos hkey, hkey]
    · rw [if_neg hkey]
  rw [Distinct, hnames]
  exact h

theorem Distinct.add (h : c.Distinct) (hkey : c.get? key = none) (value : Duration) :
    (c.add key value).Distinct := by
  rw [Distinct, Chart.add, List.map_append, List.map_singleton, ← List.concat_eq_append]
  refine List.Nodup.concat (fun hmem => ?_) h
  rw [← not_mem_names, names, List.mem_toFinset] at hkey
  exact hkey hmem

theorem not_full_of_accept (h : c.accept memory = .ok d) : ¬ c.Full := by
  rintro ⟨hfixed, hfull⟩
  rw [accept_of_fixed hfixed, if_neg (Nat.not_lt.mpr hfull)] at h
  cases h

theorem capacity_accept (h : c.accept memory = .ok d) :
    d.capacity = c.capacity ∨ c.growth = .double ∧ d.capacity = c.capacity * 2 := by
  rcases accept_ok h with ⟨-, -, rfl⟩ | ⟨-, -, rfl⟩ | ⟨hgrowth, -, -, rfl⟩
  · exact .inl rfl
  · exact .inl rfl
  · exact .inr ⟨hgrowth, rfl⟩

/-- With memory to grow, an addition is counted, or refused by a full chart. -/
theorem addends (h : c.Distinct) (hm : c.Supplied memory key)
    (delta : Duration) : c.Addends key delta (c.accumulate memory key delta) := by
  have hlook (hvalue : (c.accumulate memory key delta).1.isValue = true) :=
    get?_accumulate hvalue
  cases hget : c.get? key with
  | some value =>
      have hwrite : c.accumulate memory key delta
          = (.value (((c.get? key).getD .zero).saturatingAdd delta),
            c.replace key (((c.get? key).getD .zero).saturatingAdd delta)) := by
        rw [hget]
        exact write_of_some hget
      rw [hwrite] at hlook ⊢
      refine .counted ⟨fun hnone => ?_, hlook rfl, h.replace key _, rfl, .inl rfl⟩
      rw [hget] at hnone
      cases hnone
  | none =>
      cases haccept : c.accept memory with
      | ok c' =>
          have hwrite : c.accumulate memory key delta
              = (.value (((c.get? key).getD .zero).saturatingAdd delta),
                c'.add key (((c.get? key).getD .zero).saturatingAdd delta)) := by
            rw [hget]
            exact write_of_ok hget haccept
          have hentries := accept_entries haccept
          have hdistinct : c'.Distinct := by
            rw [Distinct, hentries]
            exact h
          have hnone : c'.get? key = none := by
            rw [get?, hentries]
            exact hget
          rw [hwrite] at hlook ⊢
          have hgrowth : c'.growth = c.growth := growth_accept haccept
          exact .counted ⟨fun _ => not_full_of_accept haccept, hlook rfl,
            hdistinct.add hnone _, hgrowth, capacity_accept (d := c') haccept⟩
      | error e =>
          have hwrite : c.accumulate memory key delta = (.error e, c) :=
            write_of_error hget haccept
          rw [hwrite]
          rcases accept_error haccept with
            ⟨hgrowth, hfull, rfl⟩ | ⟨hgrowth, hcrowded, hrefused, -⟩
          · exact .refused hget ⟨hgrowth, Nat.not_lt.mp hfull⟩
          · exact absurd (hm hgrowth hget hcrowded) hrefused

theorem Counted.mem_names_iff (h : c.Counted key delta d) {k : String} :
    k ∈ d.names ↔ k = key ∨ k ∈ c.names := by
  rw [mem_names, mem_names, h.get?_eq k]
  by_cases hk : k = key
  · rw [if_pos hk]
    exact iff_of_true rfl (.inl hk)
  · rw [if_neg hk]
    exact (or_iff_right hk).symm

theorem Addends.names_subset {r : Outcome StatsError Duration × Chart} {N : Finset String}
    (h : c.Addends key delta r) (hkey : key ∈ N) (hN : c.names ⊆ N) : r.2.names ⊆ N := by
  cases h with
  | counted hcounted =>
      intro k hk
      rcases hcounted.mem_names_iff.mp hk with rfl | hk
      · exact hkey
      · exact hN hk
  | refused => exact hN

/-- A full chart stays so. -/
theorem Counted.full (h : c.Counted key delta d) (hc : c.Distinct) (hfull : c.Full) :
    d.Full := by
  have hle : c.names.card ≤ d.names.card :=
    Finset.card_le_card fun k hk => h.mem_names_iff.mpr (.inr hk)
  rw [card_names hc, card_names h.distinct] at hle
  refine ⟨h.growth_eq.trans hfull.1, ?_⟩
  rcases h.capacity with heq | ⟨hdouble, -⟩
  · rw [heq]
    exact hfull.2.trans hle
  · exact nomatch hfull.1.symm.trans hdouble

/-! ## Many additions -/

/-- The sum of a name after additions, from what a chart holds under it. -/
def accrued (c : Chart) (additions : List Addition) (key : String) : Duration :=
  ((c.get? key).getD .zero).plusAll (deltasOf key additions)

theorem accrued_concat (c : Chart) (additions : List Addition) (a : Addition)
    (key : String) :
    c.accrued (additions ++ [a]) key
      = if a.key = key then (c.accrued additions key).saturatingAdd a.delta
        else c.accrued additions key := by
  rw [accrued, deltasOf_concat]
  by_cases h : a.key = key
  · rw [if_pos h, if_pos h]
    exact List.foldl_append
  · rw [if_neg h, if_neg h]
    rfl

/-- What a chart has become by additions. -/
structure Accrued (c : Chart) (additions : List Addition) (d : Chart) : Prop where
  distinct : d.Distinct
  growth_eq : d.growth = c.growth
  /-- A fixed chart keeps its room, a doubling one may have doubled it. -/
  capacity : d.capacity = c.capacity ∨
    c.growth = .double ∧ ∃ k, d.capacity = c.capacity * 2 ^ k
  /-- Its names are there for good. -/
  kept : c.names ⊆ d.names
  /-- All others were added to. -/
  named : ∀ key ∈ d.names, key ∈ c.names ∨ key ∈ additions.map Addition.key
  /-- Nothing that was added to a name is lost. -/
  complete : ∀ key ∈ d.names, d.get? key = some (c.accrued additions key)
  /-- A name that was added to is missing from a full chart alone. -/
  full : ∀ key ∈ additions.map Addition.key, key ∉ d.names → d.Full

/-- A fixed chart keeps its room. -/
theorem Accrued.capacity_eq (h : Accrued c additions d) (hfixed : d.growth = .fixed) :
    d.capacity = c.capacity := by
  rcases h.capacity with heq | ⟨hdouble, -⟩
  · exact heq
  · rw [h.growth_eq, hdouble] at hfixed
    cases hfixed

/-- A full chart keeps its names, since it has no room for others. -/
theorem Accrued.names_eq (h : Accrued c additions d) (hfull : c.Full) (hc : c.Distinct)
    (hd : d.entries.length ≤ d.capacity) : d.names = c.names := by
  refine (Finset.eq_of_subset_of_card_le h.kept ?_).symm
  rw [card_names h.distinct, card_names hc]
  rw [h.capacity_eq (h.growth_eq.trans hfull.1)] at hd
  exact hd.trans hfull.2

theorem Accrued.get?_eq_none (h : Accrued c additions d) (hkey : key ∉ d.names) :
    c.get? key = none :=
  not_mem_names.mp fun hc => hkey (h.kept hc)

theorem accrued_nil (h : c.Distinct) : Accrued c [] c := by
  refine ⟨h, rfl, .inl rfl, subset_rfl, fun key hkey => .inl hkey, ?_, ?_⟩
  · intro key hkey
    rw [mem_names, Option.isSome_iff_exists] at hkey
    obtain ⟨value, hvalue⟩ := hkey
    rw [hvalue, accrued, hvalue]
    rfl
  · intro key hkey
    cases hkey

/-- What a chart holds under a name that it has, or has room for. -/
theorem Accrued.sum_eq (h : Accrued c additions d)
    (hroom : d.get? key = none → ¬ d.Full) :
    (d.get? key).getD .zero = c.accrued additions key := by
  by_cases hkey : key ∈ d.names
  · rw [h.complete key hkey, Option.getD_some]
  · -- nothing was added to it yet, or the chart would be full
    have hnew : key ∉ additions.map Addition.key :=
      fun hadded => hroom (not_mem_names.mp hkey) (h.full key hadded hkey)
    rw [accrued, deltasOf_of_not_mem hnew, not_mem_names.mp hkey, h.get?_eq_none hkey]
    rfl

theorem mem_keys_concat : key ∈ (additions ++ [a]).map Addition.key
    ↔ key ∈ additions.map Addition.key ∨ key = a.key := by
  rw [List.map_append, List.mem_append, List.map_singleton, List.mem_singleton]

theorem Accrued.counted {e : Chart} (h : Accrued c additions d)
    (he : d.Counted a.key a.delta e) : Accrued c (additions ++ [a]) e := by
  refine ⟨he.distinct, he.growth_eq.trans h.growth_eq, ?_, ?_, ?_, ?_, ?_⟩
  · rcases he.capacity with heq | ⟨hdouble, hcapacity⟩
    · rw [heq]
      exact h.capacity
    · rw [hcapacity]
      refine .inr ⟨h.growth_eq.symm.trans hdouble, ?_⟩
      rcases h.capacity with heq | ⟨-, k, hk⟩
      · exact ⟨1, by rw [heq, Nat.pow_one]⟩
      · exact ⟨k + 1, by rw [hk, Nat.pow_succ, Nat.mul_assoc]⟩
  · exact h.kept.trans fun key hkey => he.mem_names_iff.mpr (.inr hkey)
  · intro key hkey
    rw [mem_keys_concat]
    rcases he.mem_names_iff.mp hkey with rfl | hkey
    · exact .inr (.inr rfl)
    · exact (h.named key hkey).imp_right .inl
  · intro key hkey
    rw [he.get?_eq key, accrued_concat]
    by_cases heq : key = a.key
    · rw [if_pos heq, if_pos heq.symm, heq, h.sum_eq he.room]
    · rw [if_neg heq, if_neg fun h => heq h.symm]
      exact h.complete key ((he.mem_names_iff.mp hkey).resolve_left heq)
  · intro key hadded hkey
    rw [he.mem_names_iff, not_or] at hkey
    have hbefore := (mem_keys_concat.mp hadded).resolve_right hkey.1
    exact he.full h.distinct (h.full key hbefore hkey.2)

theorem Accrued.refused (h : Accrued c additions d) (hnone : d.get? a.key = none)
    (hfull : d.Full) : Accrued c (additions ++ [a]) d := by
  refine ⟨h.distinct, h.growth_eq, h.capacity, h.kept, ?_, ?_, fun _ _ _ => hfull⟩
  · intro key hkey
    rw [mem_keys_concat]
    exact (h.named key hkey).imp_right .inl
  · intro key hkey
    have hne : a.key ≠ key := by
      rintro rfl
      exact not_mem_names.mpr hnone hkey
    rw [accrued_concat, if_neg hne]
    exact h.complete key hkey

/-- One more addition. -/
theorem Accrued.concat {r : Outcome StatsError Duration × Chart}
    (h : Accrued c additions d) (hr : d.Addends a.key a.delta r) :
    Accrued c (additions ++ [a]) r.2 := by
  cases hr with
  | counted hcounted => exact h.counted hcounted
  | refused hnone hfull => exact h.refused hnone hfull

/-- The names of a chart, and those of the additions. -/
def offered (c : Chart) (additions : List Addition) : Finset String :=
  c.names ∪ (additions.map Addition.key).toFinset

theorem Accrued.names_subset (h : Accrued c additions d) :
    d.names ⊆ c.offered additions := by
  intro key hkey
  rw [offered, Finset.mem_union, List.mem_toFinset]
  exact h.named key hkey

/-- A chart without all of the names is full. -/
theorem Accrued.full_of_missing (h : Accrued c additions d)
    (hne : d.names ≠ c.offered additions) : d.Full := by
  by_contra hroom
  refine hne (h.names_subset.antisymm fun key hkey => ?_)
  rw [offered, Finset.mem_union, List.mem_toFinset] at hkey
  rcases hkey with hkey | hkey
  · exact h.kept hkey
  · by_contra hmissing
    exact hroom (h.full key hkey hmissing)

/-- Where there is room for all names, all are admitted. -/
theorem Accrued.names_eq_offered (h : Accrued c additions d)
    (hroom : c.growth = .fixed → (c.offered additions).card ≤ c.capacity) :
    d.names = c.offered additions := by
  by_contra hne
  have hfull := h.full_of_missing hne
  have hlt := Finset.card_lt_card (h.names_subset.ssubset_of_ne hne)
  have hle := hroom (h.growth_eq.symm.trans hfull.1)
  have hcapacity := h.capacity_eq hfull.1
  rw [card_names h.distinct] at hlt
  have := hfull.2
  omega

/-- Where there is not, as many are admitted as there is room for. -/
theorem Accrued.card_names_eq (h : Accrued c additions d) (hfixed : c.growth = .fixed)
    (hshort : c.capacity < (c.offered additions).card)
    (hd : d.entries.length ≤ d.capacity) : d.names.card = c.capacity := by
  have hcapacity := h.capacity_eq (h.growth_eq.trans hfixed)
  rw [card_names h.distinct]
  have hne : d.names ≠ c.offered additions := by
    intro heq
    rw [← heq, card_names h.distinct] at hshort
    omega
  have := (h.full_of_missing hne).2
  omega

end Chart

end Provenance
