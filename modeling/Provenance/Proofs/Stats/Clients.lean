import Mathlib.Algebra.BigOperators.Group.Finset.Piecewise
import Mathlib.Data.Finset.Sort
import Mathlib.Data.String.Basic
import Provenance.Proofs.Stats.Accrual
import Provenance.Shared
import Provenance.Written

/-! # Clients of a shared table

    Several clients add to one table behind a lock, each by a script of its own.
    Which of them takes the lock next is left open: a session is a list of turns
    among which each client has those of its script, in order (`Interleaves`).

    Where the slots lie, when the table grows, and which names find room in a short
    table depends on the order of the turns.  What the table holds in the end does
    not: under each name that was admitted it has what it had at the beginning, and
    all that the scripts add (`Settled`). -/

namespace Provenance

/-- There is memory for each doubling that so many names ask of so many slots. -/
def Memory.Doubles (memory : Memory) (capacity names : Nat) : Prop :=
  ∀ k, capacity * 2 ^ k * 3 < names * 4 →
    memory.grants .statsSlots (capacity * 2 ^ (k + 1) * StatsTable.slotBytes) = true

namespace StatsTable

variable {ι : Type} {t t' : StatsTable} {c d : Chart}

/-! ## Sessions -/

/-- An addition that a client makes, with the memory that it finds. -/
structure Turn (ι : Type) where
  client : ι
  addition : Addition
  memory : Memory

/-- The call that a client makes in its turn. -/
def Turn.call (turn : Turn ι) : Call (Shared StatsTable) StatsError Duration :=
  Shared.run .lockPoisoned
    (accumulate turn.memory turn.addition.key turn.addition.delta)

/-- A table behind a lock, after turns of its clients. -/
def afterTurns (t : StatsTable) (turns : List (Turn ι)) : Shared StatsTable :=
  turns.foldl (fun s turn => (turn.call s).state) (.ofValue t)

/-- The additions of a client among the turns. -/
def additionsOf [DecidableEq ι] (i : ι) (turns : List (Turn ι)) : List Addition :=
  (turns.filter fun turn => turn.client = i).map Turn.addition

/-- The turns are those of the scripts, in an order that each of them keeps. -/
def Interleaves [DecidableEq ι] (turns : List (Turn ι))
    (scripts : ι → List Addition) : Prop :=
  ∀ i, additionsOf i turns = scripts i

/-- A table that was made, and worked on since. -/
def Reachable (t : StatsTable) : Prop :=
  ∃ (memory : Memory) (n : Nat) (growth : Growth) (new : StatsTable)
    (history : List (Memory × Op)),
    ofCapacity memory n growth = .ok new ∧ t = (new.runAll history).2

theorem Reachable.charts (h : Reachable t) : ∃ c, Charts t c := by
  obtain ⟨memory, n, growth, new, history, hnew, rfl⟩ := h
  exact ⟨_, ((charts_of_ofCapacity hnew).runAll history).2⟩

/-! ## What a session comes to -/

/-- The names of a table. -/
def names (t : StatsTable) : Finset String := (t.toList.map Prod.fst).toFinset

/-- The sum of a name after additions one by one, each cut at the longest duration. -/
def accrued (t : StatsTable) (additions : List Addition) (key : String) : Duration :=
  ((t.get? key).getD .zero).plusAll (deltasOf key additions)

section

variable [Fintype ι]

/-- The names of a table, and those of the scripts. -/
def named (t : StatsTable) (scripts : ι → List Addition) : Finset String :=
  t.names ∪ Finset.univ.biUnion fun i => ((scripts i).map Addition.key).toFinset

/-- What there is under a name, and all that the scripts add, cut at the longest
    duration. -/
def due (t : StatsTable) (scripts : ι → List Addition) (key : String) : Duration :=
  .ofNanos (((t.get? key).getD .zero).nanos + ∑ i, addedTo key (scripts i))

/-- A table that its clients left with the names that were admitted, and under
    each of them all that the scripts add. -/
structure Settled (t : StatsTable) (scripts : ι → List Addition)
    (admitted : Finset String) (s : Shared StatsTable) : Prop where
  unpoisoned : s.poisoned = false
  get?_eq : ∀ key, s.value.get? key =
    if key ∈ admitted then some (t.due scripts key) else none
  size_eq : s.value.size = admitted.card
  json_eq : s.value.json = .object (admitted.sort.map fun key =>
    (key, .count (t.due scripts key).wordMicros))

end

/-- There is room for so many names: memory where the table doubles its slots, and
    slots where it does not. -/
def HasRoom (t : StatsTable) (names : Nat) (turns : List (Turn ι)) : Prop :=
  (t.growth = .double ∧ ∀ turn ∈ turns, turn.memory.Doubles t.capacity names) ∨
    (t.growth = .fixed ∧ names ≤ t.capacity)

/-! ## Names of a table -/

theorem Charts.names_eq (h : Charts t c) : t.names = c.names := by
  rw [names, Chart.names, List.toFinset_eq_iff_perm_dedup,
    List.dedup_eq_self.mpr h.distinct, List.dedup_eq_self.mpr h.shows.distinct]
  exact h.perm.map Prod.fst

theorem Charts.accrued_eq (h : Charts t c) (additions : List Addition) (key : String) :
    t.accrued additions key = c.accrued additions key := by
  rw [accrued, Chart.accrued, h.get?_eq]

theorem Charts.card_names (h : Charts t c) : t.names.card = t.size := by
  rw [h.names_eq, Chart.card_names h.distinct, h.size_eq]

/-- The row of a name. -/
def row (t : StatsTable) (key : String) : StatsEntry :=
  ⟨key, ((t.get? key).getD .zero).wordMicros⟩

theorem Charts.entries_eq (h : Charts t c) :
    t.entries = (t.toList.map Prod.fst).map t.row := by
  rw [entries, List.map_map]
  refine List.map_congr_left fun e he => ?_
  have hget : t.get? e.1 = some e.2 := by
    rw [h.get?_eq, Chart.get?_eq_some_iff h.distinct]
    exact h.perm.mem_iff.mp he
  rw [Function.comp, row, hget]
  rfl

theorem pairwise_byName (t : StatsTable) :
    t.byName.Pairwise fun a b => a.name ≤ b.name := by
  refine (List.pairwise_mergeSort ?_ ?_ t.entries).imp fun hle => of_decide_eq_true hle
  · intro a b c hab hbc
    exact decide_eq_true ((of_decide_eq_true hab).trans (of_decide_eq_true hbc))
  · intro a b
    rw [Bool.or_eq_true, decide_eq_true_iff, decide_eq_true_iff]
    exact le_total a.name b.name

/-- The rows by name are those of the names in ascending order. -/
theorem Charts.byName_eq (h : Charts t c) : t.byName = t.names.sort.map t.row := by
  have hperm : t.byName.Perm (t.names.sort.map t.row) := by
    refine (List.mergeSort_perm _ _).trans ?_
    rw [h.entries_eq]
    refine .map _ ((Finset.sort_perm_toList _ _).trans ?_).symm
    exact List.toFinset_toList h.shows.distinct
  refine hperm.eq_of_pairwise ?_ t.pairwise_byName ?_
  · -- rows of one name are the same row
    intro a b ha hb hab hba
    obtain ⟨key, -, rfl⟩ := List.mem_map.mp (hperm.mem_iff.mp ha)
    obtain ⟨key', -, rfl⟩ := List.mem_map.mp hb
    exact congrArg t.row (le_antisymm hab hba)
  · rw [List.pairwise_map]
    exact t.names.pairwise_sort (· ≤ ·)

theorem Charts.json_eq (h : Charts t c) :
    t.json = .object (t.names.sort.map fun key =>
      (key, .count ((t.get? key).getD .zero).wordMicros)) := by
  rw [json, h.byName_eq, List.map_map]
  rfl

/-! ## Sessions step by step -/

section

variable {N : Finset String} {turn : Turn ι} {part turns : List (Turn ι)}
  {additions : List Addition}

theorem afterTurns_concat (t : StatsTable) (turns : List (Turn ι)) (turn : Turn ι) :
    t.afterTurns (turns ++ [turn]) = (turn.call (t.afterTurns turns)).state :=
  List.foldl_append

theorem afterTurns_append (h : t.afterTurns part = .ofValue t') (rest : List (Turn ι)) :
    t.afterTurns (part ++ rest) = t'.afterTurns rest := by
  rw [afterTurns, List.foldl_append, ← afterTurns, h]
  rfl

/-- A turn is about one of the names, and finds memory for all of them. -/
structure Turn.Provided (N : Finset String) (c : Chart) (turn : Turn ι) : Prop where
  mem : turn.addition.key ∈ N
  memory : c.growth = .double → turn.memory.Doubles c.capacity N.card

/-- It still does after other additions. -/
theorem Turn.Provided.later (h : turn.Provided N c) (hd : c.Accrued additions d) :
    turn.Provided N d := by
  refine ⟨h.mem, fun hgrowth => ?_⟩
  have hm := h.memory (hd.growth_eq.symm.trans hgrowth)
  rcases hd.capacity with heq | ⟨-, j, hj⟩
  · rw [heq]
    exact hm
  · intro k hk
    rw [hj, Nat.mul_assoc c.capacity, ← Nat.pow_add] at hk ⊢
    exact hm (j + k) hk

/-- So there is memory when the chart has to grow. -/
theorem Turn.Provided.supplied (h : turn.Provided N c) (hdistinct : c.Distinct)
    (hN : c.names ⊆ N) : c.Supplied turn.memory turn.addition.key := by
  intro hgrowth hnone hcrowded
  -- the new name is one of those that the memory is enough for
  have hcard : c.entries.length + 1 ≤ N.card := by
    rw [← Chart.card_names hdistinct,
      ← Finset.card_insert_of_notMem (Chart.not_mem_names.mpr hnone)]
    exact Finset.card_le_card (Finset.insert_subset h.mem hN)
  have hm := h.memory hgrowth 0
  rw [Nat.pow_zero, Nat.mul_one, Nat.pow_one] at hm
  exact hm (by omega)

/-- One turn. -/
theorem Charts.call (h : Charts t c) (hturn : turn.Provided N c) (hN : c.names ⊆ N) :
    ∃ r t', c.Addends turn.addition.key turn.addition.delta r ∧
      (turn.call (.ofValue t)).outcome = r.1 ∧
      (turn.call (.ofValue t)).state = .ofValue t' ∧ Charts t' r.2 := by
  have hr := c.addends h.distinct (hturn.supplied h.distinct hN) turn.addition.delta
  obtain ⟨houtcome, hcharts⟩ :=
    h.accumulate turn.memory turn.addition.key turn.addition.delta
  have hquiet : (c.accumulate turn.memory turn.addition.key
      turn.addition.delta).1.isFault = false := by
    generalize c.accumulate turn.memory turn.addition.key turn.addition.delta = r at hr
    cases hr with
    | counted => rfl
    | refused => rfl
  refine ⟨_, _, hr, houtcome, ?_, hcharts⟩
  show (⟨_, (StatsTable.accumulate turn.memory turn.addition.key
    turn.addition.delta t).outcome.isFault⟩ : Shared StatsTable) = _
  rw [houtcome, hquiet]
  rfl

/-- Many turns. -/
theorem Charts.afterTurns (h : Charts t c) (hN : c.names ⊆ N)
    (hturns : ∀ turn ∈ turns, turn.Provided N c) :
    ∃ t' d, t.afterTurns turns = .ofValue t' ∧ Charts t' d ∧
      c.Accrued (turns.map Turn.addition) d ∧ d.names ⊆ N := by
  induction turns using List.reverseRecOn with
  | nil => exact ⟨t, c, rfl, h, Chart.accrued_nil h.distinct, hN⟩
  | append_singleton turns turn ih =>
      obtain ⟨t₁, d₁, ht₁, hcharts₁, haccrued, hN₁⟩ :=
        ih fun u hu => hturns u (List.mem_append_left _ hu)
      have hturn := hturns turn (List.mem_append_right _ (List.mem_singleton_self turn))
      obtain ⟨r, t₂, hr, -, ht₂, hcharts₂⟩ :=
        hcharts₁.call (hturn.later haccrued) hN₁
      refine ⟨t₂, r.2, ?_, hcharts₂, ?_, ?_⟩
      · rw [afterTurns_concat, ht₁, ht₂]
      · rw [List.map_append, List.map_singleton]
        exact haccrued.concat hr
      · exact hr.names_subset hturn.mem hN₁

/-- What is answered in a turn: the sum of its name so far, unless the name is not
    among those of the table in the end. -/
theorem Charts.answer (h : Charts t c) (hN : c.names ⊆ N)
    (hturns : ∀ turn ∈ turns, turn.Provided N c) (hend : t.afterTurns turns = .ofValue t')
    (h' : Charts t' d) (hpart : part ++ [turn] <+: turns) :
    (turn.call (t.afterTurns part)).outcome =
      if turn.addition.key ∈ d.names then
        .value (t.accrued ((part ++ [turn]).map Turn.addition) turn.addition.key)
      else .error (.capacityExceeded t.capacity) := by
  obtain ⟨rest, rfl⟩ := hpart
  obtain ⟨t₁, d₁, ht₁, hcharts₁, hbefore, hN₁⟩ := h.afterTurns hN
    fun u hu => hturns u (List.mem_append_left _ (List.mem_append_left _ hu))
  have hturn := hturns turn
    (List.mem_append_left _ (List.mem_append_right _ (List.mem_singleton_self turn)))
  obtain ⟨r, t₂, hr, houtcome, ht₂, hcharts₂⟩ :=
    hcharts₁.call (hturn.later hbefore) hN₁
  have hafter : c.Accrued ((part ++ [turn]).map Turn.addition) r.2 := by
    rw [List.map_append, List.map_singleton]
    exact hbefore.concat hr
  obtain ⟨t₃, d₃, ht₃, hcharts₃, hrest, -⟩ :=
    hcharts₂.afterTurns (hr.names_subset hturn.mem hN₁) fun u hu =>
      (hturns u (List.mem_append_right _ hu)).later hafter
  -- the rest of the turns ends at the table that all of them end at
  rw [afterTurns_append ((afterTurns_concat t part turn).trans (ht₁ ▸ ht₂)), ht₃] at hend
  obtain rfl : t₃ = t' := congrArg Shared.value hend
  have hnames : d.names = d₃.names := h'.names_eq.symm.trans hcharts₃.names_eq
  rw [hnames, ht₁, houtcome]
  cases hr with
  | counted hcounted =>
      -- the name stays
      rw [if_pos (hrest.kept (hcounted.mem_names_iff.mpr (.inl rfl))), h.accrued_eq,
        List.map_append, List.map_singleton, Chart.accrued_concat, if_pos rfl,
        hbefore.sum_eq hcounted.room]
  | refused hnone hfull =>
      -- the chart is full, and no name comes in
      rw [hrest.names_eq hfull hcharts₁.distinct hcharts₃.length_le,
        if_neg (Chart.not_mem_names.mpr hnone), h.capacity_eq,
        hbefore.capacity_eq hfull.1]

end

/-! ## Interleavings -/

section

variable [DecidableEq ι] {scripts : ι → List Addition} {turns : List (Turn ι)}

theorem additionsOf_concat (i : ι) (turns : List (Turn ι)) (turn : Turn ι) :
    additionsOf i (turns ++ [turn])
      = if turn.client = i then additionsOf i turns ++ [turn.addition]
        else additionsOf i turns :=
  map_filter_concat (fun turn : Turn ι => turn.client = i) Turn.addition turns turn

theorem Interleaves.mem_keys_iff (h : Interleaves turns scripts) {key : String} :
    key ∈ (turns.map Turn.addition).map Addition.key
      ↔ ∃ i, key ∈ (scripts i).map Addition.key := by
  simp only [List.mem_map]
  constructor
  · rintro ⟨a, ⟨turn, hturn, rfl⟩, rfl⟩
    refine ⟨turn.client, turn.addition, ?_, rfl⟩
    rw [← h turn.client]
    exact List.mem_map.mpr ⟨turn, List.mem_filter.mpr ⟨hturn, by simp⟩, rfl⟩
  · rintro ⟨i, a, ha, rfl⟩
    rw [← h i] at ha
    obtain ⟨turn, hturn, rfl⟩ := List.mem_map.mp ha
    exact ⟨turn.addition, ⟨turn, List.mem_of_mem_filter hturn, rfl⟩, rfl⟩

variable [Fintype ι]

/-- What the turns add to a name is what the clients add to it, one after another. -/
theorem addedTo_turns (key : String) (turns : List (Turn ι)) :
    addedTo key (turns.map Turn.addition)
      = ∑ i, addedTo key (additionsOf i turns) := by
  induction turns using List.reverseRecOn with
  | nil => exact (Finset.sum_const_zero).symm
  | append_singleton turns turn ih =>
      have hclient : ∀ i, addedTo key (additionsOf i (turns ++ [turn]))
          = addedTo key (additionsOf i turns) + if turn.client = i then
              (if turn.addition.key = key then turn.addition.delta.nanos else 0) else 0 := by
        intro i
        rw [additionsOf_concat]
        by_cases h : turn.client = i
        · rw [if_pos h, if_pos h, addedTo_concat]
        · rw [if_neg h, if_neg h, Nat.add_zero]
      rw [List.map_append, List.map_singleton, addedTo_concat, ih,
        Finset.sum_congr rfl fun i _ => hclient i, Finset.sum_add_distrib,
        Finset.sum_ite_eq, if_pos (Finset.mem_univ _)]

theorem Charts.named_eq (h : Charts t c) (hturns : Interleaves turns scripts) :
    t.named scripts = c.offered (turns.map Turn.addition) := by
  ext key
  simp only [named, Chart.offered, Finset.mem_union, Finset.mem_biUnion, List.mem_toFinset,
    hturns.mem_keys_iff, h.names_eq, Finset.mem_univ, true_and]

theorem Charts.due_eq (h : Charts t c) (hturns : Interleaves turns scripts) (key : String) :
    t.due scripts key = c.accrued (turns.map Turn.addition) key := by
  rw [due, Chart.accrued, Duration.plusAll_eq, h.get?_eq, ← addedTo, addedTo_turns]
  exact congrArg (fun sum => Duration.ofNanos (_ + sum))
    (Finset.sum_congr rfl fun i _ => congrArg (addedTo key) (hturns i).symm)

/-- A session leaves under each name that was admitted what is due to it. -/
theorem Charts.settled (h : Charts t c) (h' : Charts t' d)
    (haccrued : c.Accrued (turns.map Turn.addition) d)
    (hturns : Interleaves turns scripts) : Settled t scripts d.names (.ofValue t') := by
  have hget : ∀ key ∈ d.names, t'.get? key = some (t.due scripts key) := by
    intro key hkey
    rw [h'.get?_eq, haccrued.complete key hkey, h.due_eq hturns]
  refine ⟨rfl, fun key => ?_, ?_, ?_⟩
  · by_cases hkey : key ∈ d.names
    · rw [if_pos hkey]
      exact hget key hkey
    · rw [if_neg hkey]
      exact (h'.get?_eq key).trans (Chart.not_mem_names.mp hkey)
  · rw [← h'.names_eq, h'.card_names]
    rfl
  · refine h'.json_eq.trans (congrArg Json.Value.object ?_)
    rw [h'.names_eq]
    refine List.map_congr_left fun key hkey => ?_
    rw [hget key ((Finset.mem_sort _).mp hkey), Option.getD_some]

theorem Interleaves.mem_named (h : Interleaves turns scripts) (t : StatsTable)
    {turn : Turn ι} (hturn : turn ∈ turns) : turn.addition.key ∈ t.named scripts := by
  obtain ⟨i, hi⟩ := h.mem_keys_iff.mp (List.mem_map_of_mem (List.mem_map_of_mem hturn))
  refine Finset.mem_union_right _ (Finset.mem_biUnion.mpr ⟨i, Finset.mem_univ i, ?_⟩)
  exact List.mem_toFinset.mpr hi

/-- Where there is memory for a doubling table, a session serves the names that the
    table has in the end, and settles them. -/
theorem Charts.serves (h : Charts t c) (hturns : Interleaves turns scripts)
    (hmemory : t.growth = .double →
      ∀ turn ∈ turns, turn.memory.Doubles t.capacity (t.named scripts).card) :
    ∃ t' d, Charts t' d ∧ c.Accrued (turns.map Turn.addition) d ∧
      (∀ part turn, part ++ [turn] <+: turns →
        (turn.call (t.afterTurns part)).outcome =
          if turn.addition.key ∈ d.names then
            .value (t.accrued ((part ++ [turn]).map Turn.addition) turn.addition.key)
          else .error (.capacityExceeded t.capacity)) ∧
      Settled t scripts d.names (t.afterTurns turns) := by
  have hN : c.names ⊆ t.named scripts := by
    rw [← h.names_eq]
    exact Finset.subset_union_left
  have hprovided : ∀ turn ∈ turns, turn.Provided (t.named scripts) c := by
    refine fun turn hturn => ⟨hturns.mem_named t hturn, fun hdouble => ?_⟩
    rw [← h.capacity_eq]
    exact hmemory (h.growth_eq.trans hdouble) turn hturn
  obtain ⟨t', d, ht', h', haccrued, -⟩ := h.afterTurns hN hprovided
  refine ⟨t', d, h', haccrued, fun part turn hpart => ?_, ?_⟩
  · exact h.answer hN hprovided ht' h' hpart
  · rw [ht']
    exact h.settled h' haccrued hturns

/-- No update of a shared table is lost, whatever the order of its clients.  With
    room for all names each call is answered with the sum of its name so far, and
    in the end every name has all that was added to it.  A fixed table with fewer
    slots than that admits as many names as it has slots.  The same holds of them,
    and a call for any other name is refused. -/
theorem no_update_lost (ht : t.Reachable) (hturns : Interleaves turns scripts) :
    (t.HasRoom (t.named scripts).card turns →
      (∀ part turn, part ++ [turn] <+: turns →
        (turn.call (t.afterTurns part)).outcome = .value
          (t.accrued ((part ++ [turn]).map Turn.addition) turn.addition.key)) ∧
      Settled t scripts (t.named scripts) (t.afterTurns turns)) ∧
    (t.growth = .fixed → t.capacity < (t.named scripts).card →
      ∃ admitted, t.names ⊆ admitted ∧ admitted ⊆ t.named scripts ∧
        admitted.card = t.capacity ∧
        (∀ part turn, part ++ [turn] <+: turns →
          (turn.call (t.afterTurns part)).outcome =
            if turn.addition.key ∈ admitted then
              .value (t.accrued ((part ++ [turn]).map Turn.addition) turn.addition.key)
            else .error (.capacityExceeded t.capacity)) ∧
        Settled t scripts admitted (t.afterTurns turns)) := by
  obtain ⟨c, hc⟩ := ht.charts
  constructor
  · intro hroom
    obtain ⟨t', d, h', haccrued, hanswer, hsettled⟩ := hc.serves hturns fun hdouble => by
      rcases hroom with ⟨-, hmemory⟩ | ⟨hfixed, -⟩
      · exact hmemory
      · exact nomatch hfixed.symm.trans hdouble
    -- a table without some of the names would be full
    have hall : d.names = t.named scripts := by
      rw [hc.named_eq hturns]
      refine haccrued.names_eq_offered fun hfixed => ?_
      rcases hroom with ⟨hdouble, -⟩ | ⟨-, hle⟩
      · exact nomatch hdouble.symm.trans (hc.growth_eq.trans hfixed)
      · rw [← hc.named_eq hturns, ← hc.capacity_eq]
        exact hle
    rw [hall] at hanswer hsettled
    refine ⟨fun part turn hpart => ?_, hsettled⟩
    have hmem := hpart.subset (List.mem_append_right _ (List.mem_singleton_self turn))
    rw [hanswer part turn hpart, if_pos (hturns.mem_named t hmem)]
  · intro hfixed hshort
    obtain ⟨t', d, h', haccrued, hanswer, hsettled⟩ := hc.serves hturns fun hdouble =>
      nomatch hfixed.symm.trans hdouble
    refine ⟨d.names, ?_, ?_, ?_, hanswer, hsettled⟩
    · rw [hc.names_eq]
      exact haccrued.kept
    · rw [hc.named_eq hturns]
      exact haccrued.names_subset
    · rw [hc.named_eq hturns, hc.capacity_eq] at hshort
      rw [hc.capacity_eq]
      exact haccrued.card_names_eq (hc.growth_eq.symm.trans hfixed) hshort h'.length_le

end

/-- Two clients, each with a name of its own beside one that both of them add to. -/
def twoScripts : Bool → List Addition
  | false => [⟨"open", .ofNanos 5⟩, ⟨"close", .ofNanos 1⟩]
  | true => [⟨"open", .ofNanos 2⟩, ⟨"read", .ofNanos 3⟩]

/-- The clients take turns. -/
def takingTurns : List (Turn Bool) :=
  [⟨false, ⟨"open", .ofNanos 5⟩, Memory.addressSpace⟩,
    ⟨true, ⟨"open", .ofNanos 2⟩, Memory.addressSpace⟩,
    ⟨false, ⟨"close", .ofNanos 1⟩, Memory.addressSpace⟩,
    ⟨true, ⟨"read", .ofNanos 3⟩, Memory.addressSpace⟩]

/-- A doubling table takes all three names, a fixed one of two slots those that come
    first, and the name that both clients add to has both sums. -/
theorem no_update_lost_of_two_clients :
    (∃ t, ofCapacity Memory.addressSpace 1 .double = .ok t ∧
      Settled t twoScripts {"open", "close", "read"} (t.afterTurns takingTurns) ∧
      t.due twoScripts "open" = .ofNanos 7) ∧
    ∃ t, ofCapacity Memory.addressSpace 2 .fixed = .ok t ∧
      ∃ admitted, admitted.card = 2 ∧
        Settled t twoScripts admitted (t.afterTurns takingTurns) := by
  have hturns : Interleaves takingTurns twoScripts := by
    intro i
    cases i with
    | false => rfl
    | true => rfl
  have hmemory : ∀ turn ∈ takingTurns, turn.memory = Memory.addressSpace := by
    simp [takingTurns]
  -- one slot is doubled twice
  have hdoubles : Memory.addressSpace.Doubles 1 3
    | 0, _ => rfl
    | 1, _ => rfl
    | k + 2, hk => by
        have := Nat.two_pow_pos k
        rw [Nat.pow_add] at hk
        omega
  constructor
  · obtain ⟨t, ht⟩ : ∃ t, ofCapacity Memory.addressSpace 1 .double = .ok t := ⟨_, rfl⟩
    have hreachable : t.Reachable := ⟨_, _, _, t, [], ht, rfl⟩
    have hnamed : t.named twoScripts = {"open", "close", "read"} := by
      cases ht
      decide
    have hroom : t.HasRoom (t.named twoScripts).card takingTurns := by
      refine .inl ⟨by cases ht; rfl, fun turn hturn => ?_⟩
      rw [hmemory turn hturn, hnamed]
      cases ht
      exact hdoubles
    obtain ⟨-, hsettled⟩ := (no_update_lost hreachable hturns).1 hroom
    rw [hnamed] at hsettled
    refine ⟨t, ht, hsettled, ?_⟩
    cases ht
    decide
  · obtain ⟨t, ht⟩ : ∃ t, ofCapacity Memory.addressSpace 2 .fixed = .ok t := ⟨_, rfl⟩
    have hreachable : t.Reachable := ⟨_, _, _, t, [], ht, rfl⟩
    obtain ⟨admitted, -, -, hcard, -, hsettled⟩ :=
      (no_update_lost hreachable hturns).2 (by cases ht; rfl) (by cases ht; decide)
    refine ⟨t, ht, admitted, ?_, hsettled⟩
    cases ht
    exact hcard

end StatsTable

end Provenance
