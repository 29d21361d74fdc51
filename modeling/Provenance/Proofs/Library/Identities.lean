import Mathlib.Algebra.Group.Nat.Defs
import Mathlib.Data.List.Nodup
import Provenance.Proofs.Library.Requests

/-! # Identities that a library in memory gives out

    All that the replies of a library have told so far is in a `Log`.  Its
    tables hold that and nothing else: the numbers of containers by name
    (`Named`), addresses one after another (`Addressed`), and under each key the
    handle that came there last (`Holds`).  New addresses are above all others as
    long as there are fewer than 2 ^ 59 of them, so no handle is ever under two
    keys.  Hence the search for a handle among the objects, which would stop at
    any key of it, finds the one there is (`Holds.shape_eq`). -/

namespace Provenance.InMemory

/-! ## What was told -/

/-- A new handle of which the news tell. -/
def News.handle? : News → Option Handle
  | container _ handle => some handle
  | object _ handle => some handle
  | _ => none

/-- A container's name and number of which the news tell. -/
def News.named? : News → Option (String × ContainerId)
  | container name handle => some (name, handle.container)
  | _ => none

/-- A handle under a key of which the news tell. -/
def News.entered? : News → Option (Key × Handle)
  | object key handle => some (key, handle)
  | _ => none

/-- A name with a shape of which the news tell. -/
def News.shaped? : News → Option (String × DatasetShape)
  | shape name given => some (name, given)
  | _ => none

/-- Requests with their replies, the newest first. -/
abbrev Log := List (Request × Reply)

namespace Log

/-- All news, the newest first. -/
def news (log : Log) : List News := log.map fun e => e.1.news e.2

/-- The handles with new addresses, the newest first. -/
def allocations (log : Log) : List Handle := log.news.filterMap News.handle?

/-- The names of containers with their numbers. -/
def names (log : Log) : List (String × ContainerId) := log.news.filterMap News.named?

/-- The handle that last came under a key, by creation or by a link. -/
def handle? (log : Log) (key : Key) : Option Handle :=
  ((log.news.filterMap News.entered?).find? fun e => e.1 == key).map Prod.snd

/-- The shape that the datasets of a name were last given, or else the one of those
    that were given none. -/
def shape (log : Log) (name : String) : DatasetShape :=
  (((log.news.filterMap News.shaped?).find? fun e => e.1 == name).map Prod.snd).getD
    State.defaultShape

/-- A failure was ordered for the next call of a sort, and no such call was made
    since. -/
def Due (service : Service) : Log → Prop
  | [] => False
  | (request, _) :: before =>
      request = .failNext service ∨ request.service? ≠ some service ∧ Due service before

end Log

/-- The address that is given out as the `count`-th. -/
def address (count : Nat) : UInt64 := UInt64.ofNat (0x1000 + 0x10 * count)

/-- The address that is given out next. -/
def Log.nextAddress (log : Log) : UInt64 := address (log.allocations.length + 1)

/-! ## Addresses -/

theorem toNat_address {count : Nat} (h : count < 2 ^ 59) :
    (address count).toNat = 0x1000 + 0x10 * count := by
  rw [address, UInt64.toNat_ofNat', Nat.mod_eq_of_lt (by omega)]

/-- The handles given out, newest first, have one address after another. -/
structure Addressed (handles : List Handle) (s : State) : Prop where
  last : s.lastAddress = UInt64.ofNat (0x10 * handles.length)
  addresses : handles.map Handle.address
    = (List.range handles.length).reverse.map fun k => address (k + 1)

section

variable {handles : List Handle} {s s' : State} {id : ContainerId}

theorem Addressed.allocate_eq (h : Addressed handles s) (id : ContainerId) :
    (s.allocate id).1 = ⟨address (handles.length + 1), id⟩ := by
  have haddress : 0x1000 + (s.lastAddress + 0x10) = address (handles.length + 1) := by
    rw [h.last, address, ← UInt64.toNat_inj]
    simp only [UInt64.toNat_add, UInt64.toNat_ofNat', UInt64.reduceToNat]
    omega
  exact congrArg (fun a => Handle.mk a id) haddress

theorem Addressed.allocate (h : Addressed handles s) (id : ContainerId) :
    Addressed ((s.allocate id).1 :: handles) (s.allocate id).2 := by
  constructor
  · show s.lastAddress + 0x10 = _
    rw [h.last, ← UInt64.toNat_inj]
    simp only [UInt64.toNat_add, UInt64.toNat_ofNat', UInt64.reduceToNat, List.length_cons]
    omega
  · rw [List.map_cons, h.allocate_eq, h.addresses, List.length_cons, List.range_succ,
      List.reverse_append]
    rfl

theorem Addressed.congr (h : Addressed handles s)
    (hlast : s'.lastAddress = s.lastAddress) : Addressed handles s' :=
  ⟨hlast.trans h.last, h.addresses⟩

/-- Fewer than 2 ^ 59 addresses descend from the newest to the first. -/
theorem Addressed.descending (h : Addressed handles s) (hfew : handles.length < 2 ^ 59) :
    handles.Pairwise fun a b => b.address < a.address := by
  have hpairs : (handles.map Handle.address).Pairwise fun a b => b < a := by
    rw [h.addresses, List.pairwise_map, List.pairwise_reverse]
    refine List.pairwise_lt_range.imp_of_mem fun {j k} hj hk hlt => ?_
    rw [List.mem_range] at hj hk
    rw [UInt64.lt_iff_toNat_lt, toNat_address (by omega), toNat_address (by omega)]
    omega
  exact List.pairwise_map.mp hpairs

theorem Addressed.nodup (h : Addressed handles s) (hfew : handles.length < 2 ^ 59) :
    (handles.map Handle.address).Nodup := by
  rw [List.Nodup, List.pairwise_map]
  exact (h.descending hfew).imp fun hlt heq => absurd (heq ▸ hlt) (UInt64.lt_irrefl _)

end

/-! ## Containers -/

/-- The names with their numbers are those of the table, each with a number of its
    own. -/
structure Named (names : List (String × ContainerId)) (s : State) : Prop where
  mem_iff : ∀ name id, (name, id) ∈ names ↔ s.container? name = some id
  bounded : ∀ name id, s.container? name = some id → id.number ≤ s.lastContainer
  injective : ∀ name name' id, s.container? name = some id →
    s.container? name' = some id → name = name'

section

variable {names : List (String × ContainerId)} {s s' : State} {name : String}
  {id : ContainerId}

theorem container?_found (s : State) (name name' : String) :
    (s.found name).container? name'
      = if name = name' then some ⟨s.lastContainer + 1⟩ else s.container? name' := by
  rw [State.container?, State.found, List.find?_cons]
  by_cases h : name = name'
  · rw [if_pos h, beq_iff_eq.mpr h]
    rfl
  · rw [if_neg h, beq_false_of_ne h]
    rfl

theorem Named.unknown (h : Named names s) (hname : ∀ id, (name, id) ∉ names) :
    s.container? name = none := by
  cases hid : s.container? name with
  | none => rfl
  | some id => exact absurd ((h.mem_iff name id).mpr hid) (hname id)

theorem Named.one_to_one (h : Named names s) {name' : String} {id' : ContainerId}
    (hmem : (name, id) ∈ names) (hmem' : (name', id') ∈ names) :
    name = name' ↔ id = id' := by
  have hid := (h.mem_iff name id).mp hmem
  have hid' := (h.mem_iff name' id').mp hmem'
  constructor
  · rintro rfl
    exact Option.some.inj (hid.symm.trans hid')
  · rintro rfl
    exact h.injective name name' id hid hid'

theorem Named.congr (h : Named names s) (hlast : s'.lastContainer = s.lastContainer)
    (hcontainers : s'.containers = s.containers) : Named names s' := by
  have hsame : ∀ name, s'.container? name = s.container? name := by
    intro name
    rw [State.container?, hcontainers, State.container?]
  constructor
  · intro name id
    rw [hsame, h.mem_iff]
  · intro name id hid
    rw [hlast]
    exact h.bounded name id (hsame name ▸ hid)
  · intro name name' id hid hid'
    exact h.injective name name' id (hsame name ▸ hid) (hsame name' ▸ hid')

theorem Named.again (h : Named names s) (hid : s.container? name = some id) :
    Named ((name, id) :: names) s := by
  refine ⟨fun name' id' => ?_, h.bounded, h.injective⟩
  rw [List.mem_cons, h.mem_iff]
  refine ⟨fun hor => hor.elim (fun heq => ?_) fun hmem => hmem, Or.inr⟩
  cases heq
  exact hid

/-- A container that is new takes the next number. -/
theorem Named.found (h : Named names s) (hnew : s.container? name = none) :
    Named ((name, ⟨s.lastContainer + 1⟩) :: names) (s.found name) := by
  have hother : ∀ name' id', s.container? name' = some id' → name ≠ name' := by
    rintro name' id' hid rfl
    rw [hnew] at hid
    cases hid
  have hold : ∀ name' id', (s.found name).container? name' = some id' →
      name' = name ∧ id' = ⟨s.lastContainer + 1⟩ ∨ s.container? name' = some id' := by
    intro name' id' hid
    rw [container?_found] at hid
    by_cases hname : name = name'
    · rw [if_pos hname] at hid
      cases hid
      exact Or.inl ⟨hname.symm, rfl⟩
    · rw [if_neg hname] at hid
      exact Or.inr hid
  constructor
  · intro name' id'
    rw [List.mem_cons, Prod.mk.injEq, h.mem_iff]
    refine ⟨fun hor => ?_, hold name' id'⟩
    rw [container?_found]
    rcases hor with ⟨rfl, rfl⟩ | hid
    · rw [if_pos rfl]
    · rw [if_neg (hother name' id' hid), hid]
  · intro name' id' hid
    show id'.number ≤ s.lastContainer + 1
    rcases hold name' id' hid with ⟨-, rfl⟩ | hid
    · exact Nat.le_refl _
    · exact Nat.le_succ_of_le (h.bounded name' id' hid)
  · intro name' name'' id' hid hid'
    -- the next number was nobody's before
    have hfresh : ∀ name', s.container? name' ≠ some ⟨s.lastContainer + 1⟩ := by
      intro name' hid
      exact absurd (h.bounded name' _ hid) (Nat.not_succ_le_self _)
    rcases hold name' id' hid with ⟨hname, hnumber⟩ | hid
    · rcases hold name'' id' hid' with ⟨hname', -⟩ | hid'
      · rw [hname, hname']
      · exact absurd (hnumber ▸ hid') (hfresh name'')
    · rcases hold name'' id' hid' with ⟨-, hnumber⟩ | hid'
      · exact absurd (hnumber ▸ hid) (hfresh name')
      · exact h.injective name' name'' id' hid hid'

end

/-! ## Objects -/

/-- Each key stands for the handle that was entered last under it, and each handle in
    the table was given out and is under one key. -/
structure Holds (handles : List Handle) (entered : List (Key × Handle)) (s : State) :
    Prop where
  object?_eq : ∀ key, s.object? key = (entered.find? fun e => e.1 == key).map Prod.snd
  keys_nodup : (s.objects.map Prod.fst).Nodup
  handles_nodup : (s.objects.map Prod.snd).Nodup
  issued : ∀ e ∈ s.objects, e.2 ∈ handles

section

variable {handles handles' : List Handle} {entered : List (Key × Handle)} {s s' : State}
  {key : Key} {handle : Handle}

theorem object?_enterObject (s : State) (key key' : Key) (handle : Handle) :
    (s.enterObject key handle).object? key'
      = if key = key' then some handle else s.object? key' := by
  rw [State.object?, State.enterObject, List.find?_cons]
  by_cases h : key = key'
  · rw [if_pos h, beq_iff_eq.mpr h]
    rfl
  · -- what is left out has the other key
    have hfilter : (fun e : Key × Handle =>
        decide (decide (e.1 ≠ key) = true ∧ (e.1 == key') = true)) = fun e => e.1 == key' := by
      funext e
      rw [Bool.eq_iff_iff, decide_eq_true_iff]
      refine and_iff_right_of_imp fun he => decide_eq_true fun hkey => h ?_
      exact hkey.symm.trans (beq_iff_eq.mp he)
    rw [if_neg h, beq_false_of_ne h, List.find?_filter, hfilter]
    rfl

theorem Holds.congr (h : Holds handles entered s) (hobjects : s'.objects = s.objects)
    (hmore : ∀ handle ∈ handles, handle ∈ handles') : Holds handles' entered s' := by
  constructor
  · intro key
    rw [State.object?, hobjects]
    exact h.object?_eq key
  · rw [hobjects]
    exact h.keys_nodup
  · rw [hobjects]
    exact h.handles_nodup
  · rw [hobjects]
    exact fun e he => hmore _ (h.issued e he)

/-- A handle that was not given out before can come under any key. -/
theorem Holds.enter (h : Holds handles entered s) (hnew : handle ∉ handles) (key : Key) :
    Holds (handle :: handles) ((key, handle) :: entered) (s.enterObject key handle) := by
  have hothers : (s.objects.filter fun e => e.1 ≠ key).Sublist s.objects :=
    List.filter_sublist
  constructor
  · intro key'
    rw [object?_enterObject, List.find?_cons]
    by_cases hkey : key = key'
    · rw [if_pos hkey, beq_iff_eq.mpr hkey]
      rfl
    · rw [if_neg hkey, beq_false_of_ne hkey]
      exact h.object?_eq key'
  · refine List.nodup_cons.mpr ⟨fun hmem => ?_, h.keys_nodup.sublist (hothers.map _)⟩
    obtain ⟨e, he, hkey⟩ := List.mem_map.mp hmem
    exact of_decide_eq_true (List.mem_filter.mp he).2 hkey
  · refine List.nodup_cons.mpr ⟨fun hmem => ?_, h.handles_nodup.sublist (hothers.map _)⟩
    obtain ⟨e, he, rfl⟩ := List.mem_map.mp hmem
    exact hnew (h.issued e (hothers.subset he))
  · intro e he
    rcases List.mem_cons.mp he with rfl | he
    · exact List.mem_cons_self
    · exact List.mem_cons_of_mem _ (h.issued e (hothers.subset he))

theorem mem_of_object? (h : s.object? key = some handle) : (key, handle) ∈ s.objects := by
  obtain ⟨e, he, rfl⟩ := Option.map_eq_some_iff.mp h
  have hpass := List.find?_some he
  rw [← beq_iff_eq.mp hpass]
  exact List.mem_of_find?_eq_some he

/-- The first that passes is the only one. -/
theorem find?_of_unique {α : Type} {p : α → Bool} {xs : List α} {a : α} (ha : a ∈ xs)
    (hp : p a = true) (hunique : ∀ b ∈ xs, p b = true → b = a) : xs.find? p = some a := by
  cases hfind : xs.find? p with
  | none => exact absurd hp (List.find?_eq_none.mp hfind a ha)
  | some b =>
      exact congrArg some (hunique b (List.mem_of_find?_eq_some hfind) (List.find?_some hfind))

theorem Holds.object?_of_mem (h : Holds handles entered s) (hmem : (key, handle) ∈ s.objects) :
    s.object? key = some handle := by
  have hfind : (s.objects.find? fun e => e.1 == key) = some (key, handle) :=
    find?_of_unique hmem (beq_self_eq_true _) fun e he hkey =>
      List.inj_on_of_nodup_map h.keys_nodup he hmem (beq_iff_eq.mp hkey)
  rw [State.object?, hfind]
  rfl

theorem Holds.key_eq {key' : Key} (h : Holds handles entered s)
    (hkey : s.object? key = some handle) (hkey' : s.object? key' = some handle) :
    key = key' :=
  congrArg Prod.fst (List.inj_on_of_nodup_map h.handles_nodup (mem_of_object? hkey)
    (mem_of_object? hkey') rfl)

/-- The shape behind a handle is that of the name it is under. -/
theorem Holds.shape_eq (h : Holds handles entered s) (hkey : s.object? key = some handle) :
    s.shape handle
      = ((s.shapes.find? fun e => e.1 == key.name).map Prod.snd).getD State.defaultShape := by
  have hmem := mem_of_object? hkey
  have hfind : (s.objects.find? fun e => e.2 == handle) = some (key, handle) :=
    find?_of_unique hmem (beq_self_eq_true _) fun e he hhandle =>
      List.inj_on_of_nodup_map h.handles_nodup he hmem (beq_iff_eq.mp hhandle)
  rw [State.shape, hfind]

theorem Holds.shape_of_other (h : Holds handles entered s)
    (hother : ∀ key, s.object? key ≠ some handle) : s.shape handle = State.defaultShape := by
  have hfind : (s.objects.find? fun e => e.2 == handle) = none := by
    refine List.find?_eq_none.mpr fun e he hhandle => hother e.1 ?_
    rw [← beq_iff_eq.mp hhandle]
    exact h.object?_of_mem he
  rw [State.shape, hfind]

end

/-! ## All tables -/

/-- The tables of a library hold what the news told, the newest first. -/
structure Mirrors (news : List News) (s : State) : Prop where
  addressed : Addressed (news.filterMap News.handle?) s
  named : Named (news.filterMap News.named?) s
  holds : Holds (news.filterMap News.handle?) (news.filterMap News.entered?) s
  shapes : s.shapes = news.filterMap News.shaped?

namespace Mirrors

variable {news : List News} {s s' : State} {name : String} {id : ContainerId}

theorem new (connector : ConnectorId) : Mirrors [] (.new connector) where
  addressed := ⟨rfl, rfl⟩
  named := ⟨fun _ _ => ⟨nofun, nofun⟩, nofun, nofun⟩
  holds := ⟨fun _ => rfl, List.nodup_nil, List.nodup_nil, nofun⟩
  shapes := rfl

theorem congr (h : Mirrors news s) (hsame : SameTables s s') : Mirrors news s' where
  addressed := h.addressed.congr hsame.lastAddress
  named := h.named.congr hsame.lastContainer hsame.containers
  holds := h.holds.congr hsame.objects fun _ hmem => hmem
  shapes := hsame.shapes.trans h.shapes

theorem reopened (h : Mirrors news s) (hid : s.container? name = some id) :
    Mirrors (.container name (s.allocate id).1 :: news) (s.allocate id).2 where
  addressed := h.addressed.allocate id
  named := (h.named.again hid).congr rfl rfl
  holds := h.holds.congr rfl fun _ hmem => List.mem_cons_of_mem _ hmem
  shapes := h.shapes

theorem founded (h : Mirrors news s) (hnew : s.container? name = none) :
    Mirrors (.container name (s.allocate ⟨s.lastContainer + 1⟩).1 :: news)
      ((s.found name).allocate ⟨s.lastContainer + 1⟩).2 where
  addressed := (h.addressed.allocate _).congr rfl
  named := (h.named.found hnew).congr rfl rfl
  holds := h.holds.congr rfl fun _ hmem => List.mem_cons_of_mem _ hmem
  shapes := h.shapes

theorem entered (h : Mirrors news s) (key : Key)
    (hfew : (news.filterMap News.handle?).length + 1 < 2 ^ 59) :
    Mirrors (.object key (s.allocate id).1 :: news)
      ((s.allocate id).2.enterObject key (s.allocate id).1) where
  addressed := (h.addressed.allocate id).congr rfl
  named := h.named.congr rfl rfl
  holds := by
    -- all addresses given out before are below the new one
    have hbelow := (List.pairwise_cons.mp ((h.addressed.allocate id).descending hfew)).1
    have hissued : Holds (news.filterMap News.handle?) (news.filterMap News.entered?)
        (s.allocate id).2 := h.holds.congr rfl fun _ hmem => hmem
    exact hissued.enter (fun hmem => UInt64.lt_irrefl _ (hbelow _ hmem)) key
  shapes := h.shapes

theorem shaped (h : Mirrors news s) (shape : DatasetShape) :
    Mirrors (.shape name shape :: news) (s.withShape name shape) where
  addressed := h.addressed.congr rfl
  named := h.named.congr rfl rfl
  holds := h.holds.congr rfl fun _ hmem => hmem
  shapes := congrArg ((name, shape) :: ·) h.shapes

theorem becomes {n : News} (h : Mirrors news s) (hbecomes : Becomes s s' n)
    (hfew : ((n :: news).filterMap News.handle?).length < 2 ^ 59) :
    Mirrors (n :: news) s' := by
  cases hbecomes with
  | still hsame =>
      have hagain : Mirrors (.nothing :: news) s := ⟨h.addressed, h.named, h.holds, h.shapes⟩
      exact hagain.congr hsame
  | reopened hid hsame => exact (h.reopened hid).congr hsame
  | founded hnew hsame => exact (h.founded hnew).congr hsame
  | entered hsame => exact (h.entered _ hfew).congr hsame
  | shaped hsame => exact (h.shaped _).congr hsame

theorem object?_eq {log : Log} (h : Mirrors log.news s) (key : Key) :
    s.object? key = log.handle? key :=
  h.holds.object?_eq key

end Mirrors

/-! ## Runs -/

/-- What was asked of a library since it was new, and its replies.  The clock and the
    files beside it may change at any time. -/
inductive Recorded : Log → World → Prop
  | start {w : World} {connector : ConnectorId} (h : w.library = .new connector) :
      Recorded [] w
  | request {log : Log} {w : World} (request : Request) (h : Recorded log w) :
      Recorded ((request, (request.run w).1) :: log) (request.run w).2
  | beside {log : Log} {w w' : World} (h : Recorded log w) (hsame : w'.library = w.library) :
      Recorded log w'

section

variable {log : Log} {w : World}

theorem Recorded.waits (h : Recorded log w) (service : Service) :
    service ∈ w.library.failing ↔ log.Due service := by
  induction h with
  | start h =>
      rw [h]
      exact ⟨nofun, nofun⟩
  | request request h ih => rw [Request.mem_failing, ih, Log.Due]
  | beside h hsame ih => rw [hsame, ih]

theorem Recorded.mirrors (h : Recorded log w) (hfew : log.allocations.length < 2 ^ 59) :
    Mirrors log.news w.library := by
  induction h with
  | start h =>
      rw [h]
      exact .new _
  | @request log w request h ih =>
      have hbefore : log.allocations.length
          ≤ (Log.allocations ((request, (request.run w).1) :: log)).length :=
        ((List.sublist_cons_self _ _).filterMap _).length_le
      exact (ih (Nat.lt_of_le_of_lt hbefore hfew)).becomes (request.becomes w) hfew
  | beside h hsame ih =>
      rw [hsame]
      exact ih hfew

theorem work_of_known {s : State} {name : String} {id : ContainerId} (access : Access)
    (hid : s.container? name = some id) :
    ((Request.container access name).work s).1 = .ok (.handle (s.allocate id).1) := by
  cases access with
  | created =>
      rw [Request.work, State.createContainer, hid]
      rfl
  | opened =>
      rw [Request.work, State.openContainer, hid]
      rfl

/-- A call for which no failure was ordered does its work. -/
theorem Recorded.reply {request : Request} {service : Service} (h : Recorded log w)
    (hservice : request.service? = some service) (hdue : ¬log.Due service) :
    (request.run w).1 = .ofCall id (request.work w.library).1 := by
  rw [Request.run_of_not_mem hservice fun hmem => hdue ((h.waits service).mp hmem)]

end

/-! ## Replies -/

namespace Recorded

variable {log : Log} {w : World} {name : String} {id : ContainerId} {handle : Handle}

theorem reply_known (h : Recorded log w) (hm : Mirrors log.news w.library)
    {access : Access} (hname : (name, id) ∈ log.names)
    (hdue : ¬log.Due (Request.containerService access)) :
    ((Request.container access name).run w).1 = .handle ⟨log.nextAddress, id⟩ := by
  rw [h.reply rfl hdue, work_of_known access ((hm.named.mem_iff name id).mp hname)]
  exact congrArg Reply.handle (hm.addressed.allocate_eq id)

theorem reply_founded (h : Recorded log w) (hm : Mirrors log.news w.library)
    (hname : ∀ id, (name, id) ∉ log.names) (hdue : ¬log.Due .createContainer) :
    ∃ id, (∀ name', (name', id) ∉ log.names) ∧
      ((Request.container .created name).run w).1 = .handle ⟨log.nextAddress, id⟩ := by
  refine ⟨⟨w.library.lastContainer + 1⟩, fun name' hmem => ?_, ?_⟩
  · have hid := (hm.named.mem_iff name' _).mp hmem
    exact Nat.not_succ_le_self _ (hm.named.bounded name' _ hid)
  · rw [h.reply rfl hdue, Request.work, State.createContainer, hm.named.unknown hname]
    exact congrArg Reply.handle (hm.addressed.allocate_eq _)

theorem reply_unknown (h : Recorded log w) (hm : Mirrors log.news w.library)
    (hname : ∀ id, (name, id) ∉ log.names) (hdue : ¬log.Due .openContainer) :
    ((Request.container .opened name).run w).1
      = .failed ⟨"no such container: " ++ name⟩ := by
  rw [h.reply rfl hdue, Request.work, State.openContainer, hm.named.unknown hname]
  rfl

theorem reply_opened (h : Recorded log w) (hm : Mirrors log.news w.library)
    (parent : Handle) (kind : Kind) (name : String) (hdue : ¬log.Due .openObject) :
    ((Request.object .opened parent kind name).run w).1 =
      match log.handle? ⟨parent.container, kind, name⟩ with
      | some handle => .handle handle
      | none => .failed ⟨"no such " ++ kind.name ++ ": " ++ name⟩ := by
  rw [h.reply rfl hdue, Request.work, State.openObject, hm.object?_eq]
  cases log.handle? ⟨parent.container, kind, name⟩ with
  | some handle => rfl
  | none => rfl

theorem reply_created (h : Recorded log w) (hm : Mirrors log.news w.library)
    (parent : Handle) (kind : Kind) (name : String) (hdue : ¬log.Due .createObject) :
    ((Request.object .created parent kind name).run w).1 =
      match log.handle? ⟨parent.container, kind, name⟩ with
      | some _ => .failed ⟨kind.name ++ " " ++ name ++ " already exists"⟩
      | none => .handle ⟨log.nextAddress, parent.container⟩ := by
  rw [h.reply rfl hdue, Request.work, State.createObject, hm.object?_eq]
  cases log.handle? ⟨parent.container, kind, name⟩ with
  | some handle => rfl
  | none => exact congrArg Reply.handle (hm.addressed.allocate_eq _)

theorem reply_shape (h : Recorded log w) (hm : Mirrors log.news w.library) {key : Key}
    (hkey : log.handle? key = some handle) (hdue : ¬log.Due .datasetShape) :
    ((Request.datasetShape handle).run w).1 = .shape (log.shape key.name) := by
  rw [h.reply rfl hdue, Request.work,
    hm.holds.shape_eq ((hm.object?_eq key).trans hkey), hm.shapes]
  rfl

theorem reply_shape_of_other (h : Recorded log w) (hm : Mirrors log.news w.library)
    (hother : ∀ key, log.handle? key ≠ some handle) (hdue : ¬log.Due .datasetShape) :
    ((Request.datasetShape handle).run w).1 = .shape State.defaultShape := by
  rw [h.reply rfl hdue, Request.work,
    hm.holds.shape_of_other fun key => (hm.object?_eq key).trans_ne (hother key)]
  rfl

end Recorded

/-- What the library keeps after a run, and what it replies next. -/
structure Issues (log : Log) (w : World) : Prop where
  /-- Each name of a container has one number, and each number has one name. -/
  one_to_one : ∀ name id name' id', (name, id) ∈ log.names → (name', id') ∈ log.names →
    (name = name' ↔ id = id')
  /-- A name that has a number keeps it, whether it is created or opened. -/
  known : ∀ access name id, (name, id) ∈ log.names →
    ¬log.Due (Request.containerService access) →
    ((Request.container access name).run w).1 = .handle ⟨log.nextAddress, id⟩
  /-- A new name is given a new number. -/
  founded : ∀ name, (∀ id, (name, id) ∉ log.names) → ¬log.Due .createContainer →
    ∃ id, (∀ name', (name', id) ∉ log.names) ∧
      ((Request.container .created name).run w).1 = .handle ⟨log.nextAddress, id⟩
  unknown : ∀ name, (∀ id, (name, id) ∉ log.names) → ¬log.Due .openContainer →
    ((Request.container .opened name).run w).1 = .failed ⟨"no such container: " ++ name⟩
  /-- Each new address is above all before it. -/
  ascending : log.allocations.reverse.Pairwise fun a b => a.address < b.address
  distinct : (log.allocations.map Handle.address).Nodup
  /-- The table of objects has what came under each key last. -/
  object?_eq : ∀ key, w.library.object? key = log.handle? key
  keys_nodup : (w.library.objects.map Prod.fst).Nodup
  handles_nodup : (w.library.objects.map Prod.snd).Nodup
  one_key : ∀ key key' handle, log.handle? key = some handle →
    log.handle? key' = some handle → key = key'
  opened : ∀ parent kind name, ¬log.Due .openObject →
    ((Request.object .opened parent kind name).run w).1 =
      match log.handle? ⟨parent.container, kind, name⟩ with
      | some handle => .handle handle
      | none => .failed ⟨"no such " ++ kind.name ++ ": " ++ name⟩
  created : ∀ parent kind name, ¬log.Due .createObject →
    ((Request.object .created parent kind name).run w).1 =
      match log.handle? ⟨parent.container, kind, name⟩ with
      | some _ => .failed ⟨kind.name ++ " " ++ name ++ " already exists"⟩
      | none => .handle ⟨log.nextAddress, parent.container⟩
  linked : ∀ source kind name target,
    ((Request.link source kind name target).run w).1 = .linked ⟨log.nextAddress, target⟩
  shape : ∀ key handle, log.handle? key = some handle → ¬log.Due .datasetShape →
    ((Request.datasetShape handle).run w).1 = .shape (log.shape key.name)
  /-- A handle that never was under a key, or is not any more, has the default shape. -/
  shape_of_other : ∀ handle, (∀ key, log.handle? key ≠ some handle) →
    ¬log.Due .datasetShape →
    ((Request.datasetShape handle).run w).1 = .shape State.defaultShape
  injected : ∀ (request : Request) service, request.service? = some service →
    log.Due service → (request.run w).1 = .failed (injected service)
  /-- A failure leaves all as it was, but for the time of a call and the failure that
      was ordered for it. -/
  unchanged : ∀ request : Request, (request.run w).1.isFailure = true →
    (request.run w).2 = (request.service?.map fun s => w.begun s).getD w

/-- A library tells apart all it has given out, as long as these are fewer than 2 ^ 59
    handles. -/
theorem identities_of_run {log : Log} {w : World} (h : Recorded log w)
    (hfew : log.allocations.length < 2 ^ 59) : Issues log w := by
  have hm := h.mirrors hfew
  constructor
  case one_to_one =>
    intro name id name' id' hmem hmem'
    exact hm.named.one_to_one hmem hmem'
  case known =>
    intro access name id hname hdue
    exact h.reply_known hm hname hdue
  case founded =>
    intro name hname hdue
    exact h.reply_founded hm hname hdue
  case unknown =>
    intro name hname hdue
    exact h.reply_unknown hm hname hdue
  case ascending => exact List.pairwise_reverse.mpr (hm.addressed.descending hfew)
  case distinct => exact hm.addressed.nodup hfew
  case object?_eq => exact hm.object?_eq
  case keys_nodup => exact hm.holds.keys_nodup
  case handles_nodup => exact hm.holds.handles_nodup
  case one_key =>
    intro key key' handle hkey hkey'
    exact hm.holds.key_eq ((hm.object?_eq key).trans hkey) ((hm.object?_eq key').trans hkey')
  case opened => exact h.reply_opened hm
  case created => exact h.reply_created hm
  case linked =>
    intro source kind name target
    exact congrArg Reply.linked (hm.addressed.allocate_eq target)
  case shape =>
    intro key handle hkey hdue
    exact h.reply_shape hm hkey hdue
  case shape_of_other =>
    intro handle hother hdue
    exact h.reply_shape_of_other hm hother hdue
  case injected =>
    intro request service hservice hdue
    rw [Request.run_of_mem hservice ((h.waits service).mpr hdue)]
  case unchanged => exact fun request hfailed => Request.unchanged_of_failure hfailed

/-- A link takes the key of an object, and a failure is ordered after it. -/
theorem identities_of_run_relinked :
    let file : Handle := ⟨0x1010, ⟨1⟩⟩
    let log : Log :=
      [(.failNext .openObject, .done),
        (.link ⟨1⟩ .dataset "d" ⟨7⟩, .linked ⟨0x1030, ⟨7⟩⟩),
        (.object .created file .dataset "d", .handle ⟨0x1020, ⟨1⟩⟩),
        (.container .created "f", .handle file)]
    log.Due .openObject ∧ log.handle? ⟨⟨1⟩, .dataset, "d"⟩ = some ⟨0x1030, ⟨7⟩⟩ ∧
      ∃ w, Recorded log w ∧ log.allocations.length < 2 ^ 59 ∧ Issues log w := by
  intro file log
  have hrun : Recorded log _ :=
    .request (.failNext .openObject) (.request (.link ⟨1⟩ .dataset "d" ⟨7⟩)
      (.request (.object .created file .dataset "d")
        (.request (.container .created "f") (.start (w := .new ⟨1⟩) rfl))))
  exact ⟨Or.inl rfl, by decide +kernel, _, hrun, by decide, identities_of_run hrun (by decide)⟩

end Provenance.InMemory
