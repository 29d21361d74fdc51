import Provenance.Proofs.Registry.Clients

/-! # Sharing a registry

    Clients that share a registry and rely on their own references alone do not
    get in each other's way, and whoever comes first, they leave the registry
    in the same state but for the numbers of nodes and the names.

    An operation that takes a reference ends in a value, and its claim stands
    (`Op.take_ensures`); one that gives a reference back ends in a value
    (`Op.release_ensures`).  So each turn of a disciplined client is answered,
    and adds to the stakes or takes from them what its script says
    (`Carried.next`); and so does a whole session (`Carried.after`).  The stakes
    at its end are the sum of what each client has left.  That sum does not
    depend on the order of the turns (`Carried.claims_eq`), and what is open in
    the registry depends on its claims alone (`Staked.agree`). -/

namespace Provenance.Registry

variable {ι ω η τ ρ : Type} {Same : τ → τ → Prop} {reg reg' : Registry τ ρ}
  {id : ContainerId} {kind : Kind} {token : τ} {claim : Claim τ} {r : Reference}
  {held : Multiset Reference} {memory : Memory}

/-! ## Operations of disciplined clients -/

/-- The memory has room for the names that an operation needs, with `title` for
    a placeholder. -/
def Op.Granted (memory : Memory) (title : String) : Op η τ ρ → Prop
  | openContainer _ name => grantsName memory .objectName name = true
  | track _ _ _ name _ => grantsName memory .objectName name = true
  | trackIn _ _ _ _ name _ => grantsName memory .objectName name = true ∧
      grantsName memory .placeholderName (some title) = true
  | _ => True

section

variable [Identity ω η τ] {w : ω}

/-- The reference that tracking takes is on a node of the class that was
    tracked. -/
theorem Tracked.stands {name : Option String} {node : NodeHandle}
    (h : Tracked ω memory reg id kind token name node reg') (hs : reg.Sound)
    (hequiv : Equivalence Same) (hcmp : Identity.Classifies ω Same) :
    Stands Same reg' (.object id kind token) (.tracked node) := by
  obtain ⟨n, hn, htoken⟩ := h.resolves hs
  obtain ⟨rfl, rfl⟩ := h.place
  refine .object hn ?_
  rcases htoken with rfl | heq
  · exact hequiv.refl _
  · exact (hcmp.eq_iff heq).mp rfl

theorem TrackError.not_classifies {c : Container τ ρ} {name : Option String}
    {e : RegistryError} (h : TrackError ω memory c kind token name e)
    (hgrants : grantsName memory .objectName name = true) :
    ¬ Identity.Classifies ω Same := by
  intro hcmp
  cases h with
  | identity he => exact hcmp.not_fails _ he
  | name hrefused =>
      rw [hgrants] at hrefused
      cases hrefused

/-- An operation that takes a reference, and relies on no container but open
    ones, ends in a value; what it claimed stands. -/
theorem Op.take_ensures (hequiv : Equivalence Same)
    (hcmp : Identity.Classifies ω Same) (h : reg.Consistent held)
    (hs : reg.Sound) {op : Op η τ ρ}
    (hop : op.Allowed fun id => ∃ c, reg.container? id = some c)
    (hgranted : op.Granted memory reg.placeholderName) :
    (op.run memory).Ensures (w, reg) []
      (fun a s _ => ∃ claim r, op.claim? = some claim ∧
        op.reference? (.value a) = some r ∧ s.2.Consistent (r ::ₘ held) ∧
        Stands Same s.2 claim r)
      (fun _ _ _ => False) (fun _ _ _ => False) := by
  cases op with
  | openContainer id name =>
      rw [run, Call.ensures_map, ensures_alone]
      refine (openContainer_ensures memory name h).mono ?_ ?_ fun _ _ _ h => h
      · rintro c reg' _ ⟨-, hreg⟩
        exact ⟨.hold id, .opened id, rfl, rfl, hreg, .hold (Or.inl rfl)⟩
      · rintro e reg' _ ⟨-, -, -, hrefused⟩
        rw [show grantsName memory .objectName name = true from hgranted]
          at hrefused
        cases hrefused
  | pinContainer id =>
      rw [run, Call.ensures_map, ensures_alone]
      refine (pinContainer_ensures h).mono ?_ ?_ fun _ _ _ h => h
      · rintro n reg' _ ⟨-, hreg⟩
        exact ⟨.hold id, .pinned id, rfl, rfl, hreg, .hold (Or.inr rfl)⟩
      · rintro e reg' _ ⟨-, -, hnone⟩
        obtain ⟨c, hget⟩ : ∃ c, reg.container? id = some c := hop
        rw [hnone] at hget
        cases hget
  | track id kind token name raw =>
      obtain ⟨c, hget⟩ : ∃ c, reg.container? id = some c := hop
      rw [run, Call.ensures_map]
      refine (track_tracked_of_some Identity.compare_keeps_true memory kind token
        name raw hget (hs.entry hget) trivial).mono ?_ ?_ ?_
      · rintro node s _ ⟨-, ht⟩
        exact ⟨_, .tracked node, rfl, rfl, ht.consistent h,
          ht.stands hs hequiv hcmp⟩
      · exact fun e s _ he => he.2.2.not_classifies hgranted hcmp
      · exact fun f s _ hf => hcmp.not_faults f hf.2.2.1
  | trackIn home reported kind token name raw =>
      rw [run, Call.ensures_map]
      refine (trackIn_tracked Identity.compare_keeps_true memory home reported
        kind token name raw hs.entry trivial).mono ?_ ?_ ?_
      · rintro node s _ ⟨-, ht⟩
        exact ⟨_, .tracked node, rfl, rfl, ht.consistent h,
          ht.stands hs hequiv hcmp⟩
      · rintro e s _ ⟨-, -, he⟩
        cases he with
        | track he => exact he.not_classifies hgranted.1 hcmp
        | placeholder hrefused =>
            rw [hgranted.2] at hrefused
            cases hrefused
        | notOpen hhome hnone =>
            -- only a container that is asked for may not be open
            obtain ⟨c, hget⟩ := hop.resolve_left fun hne => hne hhome
            rw [hnone] at hget
            cases hget
      · exact fun f s _ hf => hcmp.not_faults f hf.2.2
  | _ => exact hop.elim

/-- A reference that is held can be given back. -/
theorem Op.release_ensures (memory : Memory)
    (h : reg.Consistent (r ::ₘ held)) :
    ((r.release : Op η τ ρ).run memory).Ensures (w, reg) []
      (fun _ s _ => s.2.Consistent held)
      (fun _ _ _ => False) (fun _ _ _ => False) := by
  cases r with
  | opened id =>
      rw [Reference.release, Op.run, Call.ensures_map, ensures_alone]
      exact (closeContainer_ensures [] (Or.inl rfl) h.toBalanced h.occupied).mono
        (fun _ _ _ h => h.2) (fun _ _ _ h => h) fun _ _ _ h => h
  | pinned id =>
      rw [Reference.release, Op.run, Call.ensures_map, ensures_alone]
      exact (closeContainer_ensures [] (Or.inr rfl) h.toBalanced h.occupied).mono
        (fun _ _ _ h => h.2) (fun _ _ _ h => h) fun _ _ _ h => h
  | tracked node =>
      rw [Reference.release, Op.run, Call.ensures_map, ensures_alone]
      exact (untrack_ensures h).mono
        (fun _ _ _ h => h.2) (fun _ _ _ h => h) fun _ _ _ h => h

/-! ## Stakes of one operation -/

variable {stakes : Multiset (Claim τ × Reference)}

theorem Staked.take (h : reg.Staked Same stakes) (hequiv : Equivalence Same)
    (hcmp : Identity.Classifies ω Same) (memory : Memory) {op : Op η τ ρ}
    (hop : op.Allowed fun id => ∃ c, reg.container? id = some c)
    (hgranted : op.Granted memory reg.placeholderName) :
    ∃ a claim r, (op.run memory (w, reg)).outcome = .value a ∧
      op.claim? = some claim ∧ op.reference? (.value a) = some r ∧
      (op.run memory (w, reg)).state.2.Staked Same ((claim, r) ::ₘ stakes) := by
  obtain ⟨a, ha, claim, r, hclaim, hr, hc, hstands⟩ :=
    (Op.take_ensures (w := w) hequiv hcmp h.toConsistent h.sound hop
      hgranted).exists_value
  refine ⟨a, claim, r, ha, hclaim, hr, h.of_writes
    (Op.run_writes memory op h.sound) hcmp.not_same
    ((Multiset.map_cons _ _ _).symm ▸ hc) fun s hs => ?_⟩
  rcases Multiset.mem_cons.mp hs with rfl | hs
  · exact Or.inr hstands
  · exact Or.inl hs

theorem Staked.giveBack (h : reg.Staked Same ((claim, r) ::ₘ stakes))
    (hcmp : Identity.Classifies ω Same) (memory : Memory) :
    ∃ a, ((r.release : Op η τ ρ).run memory (w, reg)).outcome = .value a ∧
      ((r.release : Op η τ ρ).run memory (w, reg)).state.2.Staked Same stakes := by
  have hheld : reg.Consistent (r ::ₘ stakes.map Prod.snd) :=
    (Multiset.map_cons Prod.snd (claim, r) stakes) ▸ h.toConsistent
  obtain ⟨a, ha, hc⟩ := (Op.release_ensures (w := w) memory
    hheld).exists_value
  exact ⟨a, ha, h.of_writes (Op.run_writes memory _ h.sound) hcmp.not_same hc
    fun s hs => Or.inl (Multiset.mem_cons_of_mem hs)⟩

end

/-! ## Stakes of a session -/

/-- An operation that ends in a value leaves the lock as it is. -/
theorem Session.ending?_of_value [Identity ω η τ] {s : Session ι ω τ ρ}
    {t : Turn ι η τ ρ} {op : Op η τ ρ} {a : Answer τ ρ}
    (hop : t.command.op? (s.taken t.client) = some op)
    (hs : s.shared.poisoned = false)
    (ha : (op.run memory s.shared.value).outcome = .value a) :
    s.ending? memory t = some ⟨.value a,
      ⟨(op.run memory s.shared.value).state, false⟩,
      (op.run memory s.shared.value).events⟩ := by
  rw [ending?, hop, Option.map_some, Shared.run, if_neg (Bool.eq_false_iff.mp hs)]
  simp only [ha]
  rfl

section

variable [DecidableEq ι] [Fintype ι] {stakes₀ : Multiset (Claim τ × Reference)}
  {title : String} {turns : List (Turn ι η τ ρ)} {s s' : Session ι ω τ ρ}

/-- What a client has outstanding after turns. -/
def Session.own (s : Session ι ω τ ρ) (turns : List (Turn ι η τ ρ)) (i : ι) :
    Multiset (Claim τ × Reference) :=
  outstanding (booked (commandsOf i turns)) (s.taken i)

/-- What all clients but one have outstanding. -/
def Session.others (s : Session ι ω τ ρ) (turns : List (Turn ι η τ ρ)) (i : ι) :
    Multiset (Claim τ × Reference) :=
  ∑ j ∈ Finset.univ.erase i, s.own turns j

/-- What all clients have outstanding. -/
def Session.stakes (s : Session ι ω τ ρ) (turns : List (Turn ι η τ ρ)) :
    Multiset (Claim τ × Reference) :=
  ∑ i, s.own turns i

theorem Session.stakes_eq (s : Session ι ω τ ρ) (turns : List (Turn ι η τ ρ))
    (i : ι) : s.stakes turns = s.own turns i + s.others turns i :=
  (Finset.add_sum_erase _ _ (Finset.mem_univ i)).symm

/-- A turn changes what its client has outstanding, and nothing else. -/
theorem Session.stakes_concat (turns : List (Turn ι η τ ρ)) {t : Turn ι η τ ρ}
    {taken : List (Option Reference)}
    (htaken : s'.taken = Function.update s.taken t.client taken) :
    s'.stakes (turns ++ [t])
      = outstanding (t.command.book (booked (commandsOf t.client turns))) taken
        + s.others turns t.client := by
  rw [stakes_eq _ _ t.client, own, booked_commandsOf_concat, if_pos rfl, htaken,
    Function.update_self]
  refine congrArg _ (Finset.sum_congr rfl fun i hi => ?_)
  have hne : i ≠ t.client := Finset.ne_of_mem_erase hi
  rw [own, own, booked_commandsOf_concat, if_neg hne.symm, htaken,
    Function.update_of_ne hne]

/-- After turns, the lock is not poisoned, there is a reference behind each
    claim, and the registry carries the stakes of the clients on top of those
    that were there before. -/
structure Carried (Same : τ → τ → Prop)
    (stakes₀ : Multiset (Claim τ × Reference)) (title : String)
    (turns : List (Turn ι η τ ρ)) (s : Session ι ω τ ρ) : Prop where
  unpoisoned : s.shared.poisoned = false
  backing : ∀ i, List.Forall₂ Backing (booked (commandsOf i turns)) (s.taken i)
  staked : s.registry.Staked Same (stakes₀ + s.stakes turns)
  placeholderName_eq : s.registry.placeholderName = title
  card_le : (s.stakes turns).card ≤ turns.length

/-- A claim of a client has a reference behind it, and is carried. -/
theorem Carried.exists_stake (h : Carried Same stakes₀ title turns s) {i : ι}
    {k : Nat} (hk : (booked (commandsOf i turns))[k]? = some (some claim)) :
    ∃ r, (s.taken i)[k]? = some (some r) ∧
      (claim, r) ∈ stakes₀ + s.stakes turns := by
  obtain ⟨r, hr, hout, -⟩ := outstanding_set (h.backing i) hk
  refine ⟨r, hr, Multiset.mem_add.mpr (Or.inr (Multiset.mem_sum.mpr
    ⟨i, Finset.mem_univ i, ?_⟩))⟩
  rw [Session.own, hout]
  exact Multiset.mem_cons_self _ _

/-- A container on which a client has a claim is open. -/
theorem Carried.open_of_holds (h : Carried Same stakes₀ title turns s) {i : ι}
    (hid : Ledger.Holds (booked (commandsOf i turns)) id) :
    ∃ c, s.registry.container? id = some c := by
  obtain ⟨claim, hclaim, hcontainer⟩ := hid
  obtain ⟨k, hk⟩ := List.mem_iff_getElem?.mp hclaim
  obtain ⟨r, -, hmem⟩ := h.exists_stake hk
  exact (h.staked.open_iff id).mpr
    ⟨claim, Multiset.mem_map_of_mem Prod.fst hmem, hcontainer⟩

/-- Clients whose claims are on one class of tokens were given one handle. -/
theorem Carried.same_handle (h : Carried Same stakes₀ title turns s)
    (hequiv : Equivalence Same) {i j : ι} {k l : Nat} {token' : τ}
    (hk : (booked (commandsOf i turns))[k]? = some (some (.object id kind token)))
    (hl : (booked (commandsOf j turns))[l]? = some (some (.object id kind token')))
    (htoken : Same token token') :
    ∃ node, (s.taken i)[k]? = some (some (.tracked node)) ∧
      (s.taken j)[l]? = some (some (.tracked node)) := by
  obtain ⟨r, hr, hmem⟩ := h.exists_stake hk
  obtain ⟨r', hr', hmem'⟩ := h.exists_stake hl
  obtain ⟨m, n, rfl, hn, hsame⟩ := (h.staked.stands _ hmem).exists_node
  have hstands := h.staked.stands _ hmem'
  have hon : (Claim.object id kind token').On Same id kind token :=
    ⟨rfl, rfl, hequiv.symm htoken⟩
  obtain rfl : .tracked ⟨id, kind, m⟩ = r' :=
    (hstands.tracked_iff hequiv h.staked.distinct hn hsame).mpr hon
  exact ⟨_, hr, hr'⟩

theorem Session.stakes_start (w : ω) (reg : Registry τ ρ) :
    (start w reg : Session ι ω τ ρ).stakes ([] : List (Turn ι η τ ρ)) = 0 :=
  Finset.sum_eq_zero fun _ _ => rfl

/-- The registry that a session starts with carries the stakes that were there
    before. -/
theorem carried_start {w : ω} (h : reg.Staked Same stakes₀) :
    Carried Same stakes₀ reg.placeholderName ([] : List (Turn ι η τ ρ))
      (Session.start w reg) where
  unpoisoned := rfl
  backing _ := .nil
  staked := by
    rw [Session.stakes_start, add_zero]
    exact h
  placeholderName_eq := rfl
  card_le := by
    rw [Session.stakes_start, Multiset.card_zero]
    exact Nat.zero_le _

/-- One turn after others, by what it does to its client and to the registry. -/
theorem Carried.concat (h : Carried Same stakes₀ title turns s)
    (t : Turn ι η τ ρ) (taken : List (Option Reference))
    (own : Multiset (Claim τ × Reference))
    (hown : outstanding (t.command.book (booked (commandsOf t.client turns))) taken
      = own)
    (hcard : own.card ≤ (s.own turns t.client).card + 1)
    (hbacking : List.Forall₂ Backing
      (t.command.book (booked (commandsOf t.client turns))) taken)
    (hpoisoned : s'.shared.poisoned = false)
    (htaken : s'.taken = Function.update s.taken t.client taken)
    (htitle : s'.registry.placeholderName = s.registry.placeholderName)
    (hstaked : s'.registry.Staked Same
      (own + (stakes₀ + s.others turns t.client))) :
    Carried Same stakes₀ title (turns ++ [t]) s' := by
  have hstakes := Session.stakes_concat turns htaken
  rw [hown] at hstakes
  refine ⟨hpoisoned, fun i => ?_, ?_, htitle.trans h.placeholderName_eq, ?_⟩
  · rw [booked_commandsOf_concat, htaken]
    by_cases hi : t.client = i
    · subst hi
      rw [if_pos rfl, Function.update_self]
      exact hbacking
    · rw [if_neg hi, Function.update_of_ne fun heq => hi heq.symm]
      exact h.backing i
  · rw [hstakes, add_left_comm]
    exact hstaked
  · have hle := h.card_le
    rw [s.stakes_eq turns t.client, Multiset.card_add] at hle
    rw [hstakes, Multiset.card_add, List.length_append, List.length_singleton]
    omega

/-- The registry carries what a client has outstanding on top of all else. -/
theorem Carried.staked_own (h : Carried Same stakes₀ title turns s) (i : ι) :
    s.registry.Staked Same
      (s.own turns i + (stakes₀ + s.others turns i)) := by
  rw [add_left_comm, ← s.stakes_eq turns i]
  exact h.staked

/-- The claims that are carried are those of the scripts, whatever the order of
    their commands. -/
theorem Carried.claims_eq (h : Carried Same stakes₀ title turns s) :
    (stakes₀ + s.stakes turns).map Prod.fst = stakes₀.map Prod.fst
      + ∑ i, ((booked (commandsOf i turns)).reduceOption : Multiset (Claim τ)) := by
  have hsum : (s.stakes turns).map Prod.fst
      = ∑ i, (s.own turns i).map Prod.fst :=
    map_sum (Multiset.mapAddMonoidHom Prod.fst) _ _
  rw [Multiset.map_add, hsum]
  exact congrArg _ (Finset.sum_congr rfl fun i _ =>
    map_fst_outstanding (h.backing i))

/-- A session in which nothing went wrong. -/
structure Session.Undisturbed (Same : τ → τ → Prop) (bound : Nat)
    (turns : List (Turn ι η τ ρ)) (s : Session ι ω τ ρ) : Prop where
  unpoisoned : s.shared.poisoned = false
  /-- Clients whose claims are on one class of tokens have one handle. -/
  same_handle : ∀ {i j : ι} {k l : Nat} {id : ContainerId} {kind : Kind}
    {token token' : τ},
    (booked (commandsOf i turns))[k]? = some (some (.object id kind token)) →
    (booked (commandsOf j turns))[l]? = some (some (.object id kind token')) →
    Same token token' →
    ∃ node, (s.taken i)[k]? = some (some (.tracked node)) ∧
      (s.taken j)[l]? = some (some (.tracked node))
  /-- The registry counts the references that are outstanding. -/
  accounted : ∃ held, held.card ≤ bound ∧ s.registry.Accounted held

theorem Carried.undisturbed (h : Carried Same stakes₀ title turns s)
    (hequiv : Equivalence Same) :
    s.Undisturbed Same (stakes₀.card + turns.length) turns where
  unpoisoned := h.unpoisoned
  same_handle := h.same_handle hequiv
  accounted := by
    refine ⟨_, ?_, h.staked.toConsistent.accounted⟩
    rw [Multiset.card_map, Multiset.card_add]
    exact Nat.add_le_add_left h.card_le _

variable [Identity ω η τ]

/-- A request of a disciplined client is answered. -/
theorem Carried.ask (h : Carried Same stakes₀ title turns s)
    (hequiv : Equivalence Same) (hcmp : Identity.Classifies ω Same) {i : ι}
    {op : Op η τ ρ} (hop : op.Allowed (booked (commandsOf i turns)).Holds)
    (hgranted : op.Granted memory title) :
    (∃ r a, s.ending? memory ⟨i, .ask op⟩ = some r ∧ r.outcome = .value a) ∧
      Carried Same stakes₀ title (turns ++ [⟨i, .ask op⟩])
        (s.next memory ⟨i, .ask op⟩) := by
  obtain ⟨a, claim, r, ha, hclaim, hr, hstaked⟩ :=
    (h.staked_own i).take (w := s.shared.value.1) hequiv hcmp memory
      (hop.mono fun _ => h.open_of_holds) (h.placeholderName_eq.symm ▸ hgranted)
  have hending := Session.ending?_of_value (t := ⟨i, .ask op⟩) rfl h.unpoisoned ha
  have hbook : (Command.ask op).book (booked (commandsOf i turns))
      = booked (commandsOf i turns) ++ [some claim] := by
    rw [Command.book, hclaim]
  refine ⟨⟨_, a, hending, rfl⟩, ?_⟩
  rw [Session.next, hending]
  refine h.concat ⟨i, .ask op⟩ (s.taken i ++ [some r])
    ((claim, r) ::ₘ s.own turns i) ?_ ?_ ?_ rfl ?_ ?_ ?_
  · rw [hbook, outstanding_concat (h.backing i)]
    rfl
  · rw [Multiset.card_cons]
  · rw [hbook]
    exact List.rel_append (h.backing i) (.cons (fun _ => rfl) .nil)
  · simp only [Command.keep, hr]
  · exact (Op.run_writes memory op h.staked.sound).placeholderName_eq
  · rw [Multiset.cons_add]
    exact hstaked

/-- A client that has a claim can give its reference back. -/
theorem Carried.giveBack (h : Carried Same stakes₀ title turns s)
    (hcmp : Identity.Classifies ω Same) (memory : Memory) {i : ι} {k : Nat}
    (hk : (booked (commandsOf i turns))[k]? = some (some claim)) :
    (∃ r a, s.ending? memory ⟨i, .giveBack k⟩ = some r ∧ r.outcome = .value a) ∧
      Carried Same stakes₀ title (turns ++ [⟨i, .giveBack k⟩])
        (s.next memory ⟨i, .giveBack k⟩) := by
  obtain ⟨r, hr, hout, hbacking⟩ := outstanding_set (h.backing i) hk
  have hstaked := h.staked_own i
  rw [Session.own, hout, Multiset.cons_add] at hstaked
  obtain ⟨a, ha, hstaked⟩ := hstaked.giveBack (w := s.shared.value.1) hcmp memory
  have hop : (Command.giveBack k : Command η τ ρ).op? (s.taken i)
      = some r.release := by
    rw [Command.op?, hr]
    rfl
  have hending := Session.ending?_of_value (t := ⟨i, .giveBack k⟩) hop h.unpoisoned ha
  refine ⟨⟨_, a, hending, rfl⟩, ?_⟩
  rw [Session.next, hending]
  refine h.concat ⟨i, .giveBack k⟩ (s.taken i) _ rfl ?_ hbacking rfl rfl ?_ hstaked
  · rw [Session.own, hout, Multiset.card_cons]
    exact Nat.le_succ_of_le (Nat.le_succ _)
  · exact (Op.run_writes memory _ h.staked.sound).placeholderName_eq

/-! ## Whole sessions -/

/-- Each turn asks something of the registry, and is answered. -/
def Session.Answered (memory : Memory) (s : Session ι ω τ ρ)
    (turns : List (Turn ι η τ ρ)) : Prop :=
  ∀ before t, before ++ [t] <+: turns →
    ∃ r a, (s.after memory before).ending? memory t = some r ∧
      r.outcome = .value a

/-- One turn of a disciplined client. -/
theorem Carried.next (h : Carried Same stakes₀ title turns s)
    (hequiv : Equivalence Same) (hcmp : Identity.Classifies ω Same)
    {t : Turn ι η τ ρ}
    (hturn : t.command.Disciplined (booked (commandsOf t.client turns)))
    (hgranted : ∀ op, t.command = .ask op → op.Granted memory title) :
    (∃ r a, s.ending? memory t = some r ∧ r.outcome = .value a) ∧
      Carried Same stakes₀ title (turns ++ [t]) (s.next memory t) := by
  obtain ⟨i, command⟩ := t
  cases command with
  | ask op => exact h.ask hequiv hcmp hturn (hgranted op rfl)
  | giveBack k =>
      obtain ⟨claim, hk⟩ := hturn
      exact h.giveBack hcmp memory hk

/-- The turns of disciplined clients keep what the session carries. -/
theorem Carried.after
    (h : Carried Same stakes₀ title ([] : List (Turn ι η τ ρ)) s)
    (hequiv : Equivalence Same) (hcmp : Identity.Classifies ω Same)
    (hturns : ∀ i, Disciplined [] (commandsOf i turns))
    (hgranted : ∀ i op, .ask op ∈ commandsOf i turns → op.Granted memory title) :
    Carried Same stakes₀ title turns (s.after memory turns) := by
  induction turns using List.reverseRecOn with
  | nil => exact h
  | append_singleton turns t ih =>
      have hpart' := fun i =>
        commandsOf_part i (List.prefix_append turns [t])
      have hlast := commandsOf_client_concat turns t
      rw [Session.after_concat]
      refine ((ih (fun i => (hturns i).of_part (hpart' i)) fun i op hop =>
        hgranted i op ((hpart' i).subset hop)).next hequiv hcmp ?_ ?_).2
      · exact (hturns t.client).of_part_concat (hlast ▸ List.prefix_refl _)
      · intro op hop
        refine hgranted t.client op (hlast ▸ ?_)
        rw [← hop]
        exact List.mem_append_right _ List.mem_cons_self

/-- As long as there is memory for the names, clients that rely on their own
    references alone are answered in every order of their turns, and all orders
    leave the same things open.  Whenever two of them have references on objects
    of one class, they have the same handle. -/
theorem order_independence {w : ω} (hequiv : Equivalence Same)
    (hcmp : Identity.Classifies ω Same) (hreached : Reached held w reg)
    {scripts : ι → List (Command η τ ρ)}
    (hscripts : ∀ i, Disciplined [] (scripts i))
    (hgranted : ∀ i op, .ask op ∈ scripts i →
      op.Granted memory reg.placeholderName) :
    (∀ turns, Interleaves turns scripts →
      (Session.start w reg).Answered memory turns ∧
      ∀ part, part <+: turns → ((Session.start w reg).after memory part).Undisturbed
        Same (held.card + part.length) part) ∧
    ∀ turns turns', Interleaves turns scripts → Interleaves turns' scripts →
      Agree Same ((Session.start w reg).after memory turns).registry
        ((Session.start w reg).after memory turns').registry := by
  obtain ⟨stakes, rfl, hstaked⟩ := hreached.exists_staked hequiv hcmp
  have hcarried : ∀ {turns}, Interleaves turns scripts → ∀ {part},
      part <+: turns → Carried Same stakes reg.placeholderName part
        ((Session.start w reg).after memory part) := by
    intro turns hturns part hpart
    have hpart' : ∀ i, commandsOf i part <+: scripts i :=
      fun i => hturns i ▸ commandsOf_part i hpart
    exact (carried_start hstaked).after hequiv hcmp
      (fun i => (hscripts i).of_part (hpart' i))
      fun i op hop => hgranted i op ((hpart' i).subset hop)
  refine ⟨fun turns hturns => ⟨fun before t ht => ?_, fun part hpart => ?_⟩,
    fun turns turns' hturns hturns' => ?_⟩
  · -- the turn is one that its script has at this point
    have hpart : commandsOf t.client before ++ [t.command] <+: scripts t.client :=
      hturns t.client ▸ commandsOf_client_concat before t ▸
        commandsOf_part t.client ht
    refine ((hcarried hturns ((List.prefix_append before [t]).trans ht)).next
      hequiv hcmp ((hscripts _).of_part_concat hpart) fun op hop => ?_).1
    exact hgranted t.client op
      (hpart.subset (hop ▸ List.mem_append_right _ List.mem_cons_self))
  · rw [Multiset.card_map]
    exact (hcarried hturns hpart).undisturbed hequiv
  · have h := hcarried hturns (List.prefix_refl turns)
    have h' := hcarried hturns' (List.prefix_refl turns')
    refine h.staked.agree h'.staked hequiv ?_
    rw [h.claims_eq, h'.claims_eq]
    simp only [hturns _, hturns' _]

end

/-- A client that opens a container and tracks an object in it. -/
def opener : List (Command Unit Token Empty) :=
  [.ask (.openContainer ⟨1⟩ (some "a")),
    .ask (.track ⟨1⟩ .dataset (.ofAddress 5) none ())]

/-- A client that comes upon that object from another container, and relies on
    it for a while to track another one. -/
def finder : List (Command Unit Token Empty) :=
  [.ask (.trackIn ⟨2⟩ ⟨1⟩ .dataset (.ofAddress 5) none ()),
    .ask (.track ⟨1⟩ .group (.ofAddress 6) none ()), .giveBack 0]

/-- The registry that turns leave, with all the memory there is and a library
    that compares byte by byte. -/
def left (turns : List (Turn Bool Unit Token Empty)) : Registry Token Empty :=
  ((Session.start Bytewise.mk (.ofConfig Config.default)).after
    Memory.addressSpace turns).registry

/-- The object has one node if the client that opens the container comes first.
    If the other one does, the object is freed and then gets another node. -/
theorem order_independence_of_finder_first :
    ∃ turns turns', Interleaves turns (cond · opener finder) ∧
      Interleaves turns' (cond · opener finder) ∧
      Agree Eq (left turns) (left turns') ∧
      ((left turns).node? ⟨⟨1⟩, .dataset, ⟨1⟩⟩).isSome = true ∧
      ((left turns').node? ⟨⟨1⟩, .dataset, ⟨3⟩⟩).isSome = true := by
  have hcmp : Identity.Classifies Bytewise (Eq : Token → Token → Prop) :=
    fun _ a b _ => ⟨a.cmp b, rfl, Token.cmp_eq_iff⟩
  have hscripts : ∀ i, Disciplined [] (cond i opener finder) := by
    rintro (_ | _)
    · exact ⟨Or.inl (by decide), ⟨_, List.mem_cons_self, rfl⟩, ⟨_, rfl⟩, trivial⟩
    · exact ⟨trivial, ⟨_, List.mem_cons_self, rfl⟩, trivial⟩
  have hgranted : ∀ i op, .ask op ∈ cond i opener finder →
      op.Granted Memory.addressSpace Config.default.placeholderName := by
    rintro (_ | _) op hop <;>
      simp only [cond_true, cond_false, opener, finder, List.mem_cons,
        Command.ask.injEq, reduceCtorEq, List.not_mem_nil, or_false] at hop
    · rcases hop with rfl | rfl
      · exact ⟨rfl, by decide⟩
      · rfl
    · rcases hop with rfl | rfl
      · exact (by decide : grantsName Memory.addressSpace .objectName (some "a")
          = true)
      · rfl
  have hshared := order_independence eq_equivalence hcmp
    (Reached.start Config.default Bytewise.mk) hscripts hgranted
  have hopener : Interleaves (opener.map (Turn.mk true) ++
      finder.map (Turn.mk false)) (cond · opener finder) := by
    rintro (_ | _) <;> rfl
  have hfinder : Interleaves (finder.map (Turn.mk false) ++
      opener.map (Turn.mk true)) (cond · opener finder) := by
    rintro (_ | _) <;> rfl
  refine ⟨_, _, hopener, hfinder, hshared.2 _ _ hopener hfinder, ?_⟩
  decide +kernel

end Provenance.Registry
