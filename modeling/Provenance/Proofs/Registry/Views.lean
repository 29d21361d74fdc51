import Mathlib.Data.Set.Card
import Provenance.Proofs.Registry.Attachments
import Provenance.Proofs.Text.Lines

/-! # Views of the open things

    A container keeps a count beside each of its four lists of nodes.  The number
    of open nodes, the check against expected numbers and the head lines of a dump
    read the counts; a look-up and the other lines of a dump read the lists; and
    the end of the registry reads the counts again.  In a sound registry they all
    show the same (`Sound.views`), since each list has as many nodes as are counted
    (`Sound.length_newestFirst`) and a node is in the one list that its handle
    names (`Sound.mem_openHandles`). -/

namespace Provenance.Registry

variable {ω η τ ρ ε : Type} {reg : Registry τ ρ} {c : Container τ ρ} {kind : Kind}

/-! ## What is open -/

/-- The names of the containers with an entry. -/
def openIds (reg : Registry τ ρ) : Set ContainerId :=
  {id | reg.container? id ≠ none}

/-- The names of the nodes of a kind that can be looked up. -/
def openNodes (reg : Registry τ ρ) (kind : Kind) : Set NodeHandle :=
  {node | node.kind = kind ∧ reg.node? node ≠ none}

/-- The handles of the nodes of a kind, by containers in ascending order. -/
def openHandles (reg : Registry τ ρ) (kind : Kind) : List NodeHandle :=
  reg.openContainers.flatMap fun c => (c.newestFirst kind).map Node.handle

/-- A set that a list without repetitions runs through has its length. -/
theorem encard_eq_length {α : Type} [DecidableEq α] {s : Set α} {l : List α}
    (hl : l.Nodup) (hmem : ∀ a, a ∈ s ↔ a ∈ l) : s.encard = l.length := by
  have hs : s = (l.toFinset : Set α) := by
    ext a
    rw [hmem, List.coe_toFinset]
    exact Iff.rfl
  rw [hs, Set.encard_coe_eq_coe_finsetCard, List.toFinset_card_of_nodup hl]

namespace Sound

theorem entry_of_mem (hs : reg.Sound) (hc : c ∈ reg.openContainers) :
    c.Sound reg.nextNode c.id :=
  hs.entry (hs.mem_openContainers.mp hc)

/-- A list has as many nodes as the count beside it says. -/
theorem length_newestFirst (hs : reg.Sound) (hc : c ∈ reg.openContainers)
    (kind : Kind) : (c.newestFirst kind).length = c.counts.get kind := by
  rw [Container.newestFirst, List.length_reverse, IdMap.values, List.length_map,
    (hs.entry_of_mem hc).counts_eq]
  rfl

/-- A node is listed under the handle that it is found by. -/
theorem mem_newestFirst_iff (hs : reg.Sound) (hc : c ∈ reg.openContainers)
    {n : Node τ} : n ∈ c.newestFirst kind ↔
      n.handle = ⟨c.id, kind, n.id⟩ ∧ reg.node? n.handle = some n := by
  have hget := hs.mem_openContainers.mp hc
  have hsound := hs.entry_of_mem hc
  rw [mem_newestFirst hsound]
  constructor
  · intro hn
    have hhandle := hsound.handle_eq hn
    refine ⟨hhandle, ?_⟩
    rw [hhandle, node?_of_container? hget rfl]
    exact hn
  · rintro ⟨hhandle, hn⟩
    rw [hhandle, node?_of_container? hget rfl] at hn
    exact hn

theorem nodup_ids (hs : reg.Sound) : (reg.openContainers.map Container.id).Nodup := by
  refine List.Pairwise.map _ ?_ hs.openContainers_ascending
  intro c c' hlt heq
  rw [heq] at hlt
  exact Nat.lt_irrefl _ hlt

theorem mem_ids (hs : reg.Sound) (id : ContainerId) :
    id ∈ reg.openIds ↔ id ∈ reg.openContainers.map Container.id := by
  rw [List.mem_map]
  constructor
  · intro hne
    obtain ⟨c, hget⟩ := Option.ne_none_iff_exists'.mp hne
    obtain rfl := (hs.entry hget).id_eq
    exact ⟨c, hs.mem_openContainers.mpr hget, rfl⟩
  · rintro ⟨c, hc, rfl⟩
    show reg.container? c.id ≠ none
    rw [hs.mem_openContainers.mp hc]
    nofun

theorem encard_openIds (hs : reg.Sound) : reg.openIds.encard = reg.containerCount := by
  rw [encard_eq_length hs.nodup_ids hs.mem_ids, List.length_map, openContainers,
    IdMap.values, List.length_map]
  rfl

/-- No handle comes twice: within a container the numbers of the nodes fall, and
    two containers have two names. -/
theorem nodup_openHandles (hs : reg.Sound) (kind : Kind) :
    (reg.openHandles kind).Nodup := by
  rw [openHandles, List.nodup_flatMap]
  constructor
  · intro c hc
    refine List.Pairwise.map _ ?_ (newestFirst_decreasing (hs.entry_of_mem hc) kind)
    intro a b hlt heq
    have hid : a.id = b.id := congrArg NodeHandle.node heq
    rw [hid] at hlt
    exact Nat.lt_irrefl _ hlt
  · refine hs.openContainers_ascending.imp_of_mem ?_
    intro c c' hc hc' hlt node hnode hnode'
    obtain ⟨n, hn, rfl⟩ := List.mem_map.mp hnode
    obtain ⟨n', hn', heq⟩ := List.mem_map.mp hnode'
    rw [((hs.mem_newestFirst_iff hc).mp hn).1,
      ((hs.mem_newestFirst_iff hc').mp hn').1] at heq
    have hid : c'.id = c.id := congrArg NodeHandle.container heq
    rw [hid] at hlt
    exact Nat.lt_irrefl _ hlt

theorem mem_openHandles (hs : reg.Sound) (kind : Kind) (node : NodeHandle) :
    node ∈ reg.openNodes kind ↔ node ∈ reg.openHandles kind := by
  rw [openHandles, List.mem_flatMap]
  constructor
  · rintro ⟨rfl, hne⟩
    obtain ⟨n, hn⟩ := Option.ne_none_iff_exists'.mp hne
    obtain ⟨c, hget, hnode⟩ := node?_eq_some_iff.mp hn
    have hid : c.id = node.container := (hs.entry hget).id_eq
    have hhandle : n.handle = node := hs.handle_eq hn
    have hc : c ∈ reg.openContainers := by
      rw [hs.mem_openContainers, hid]
      exact hget
    refine ⟨c, hc, List.mem_map.mpr ⟨n, ?_, hhandle⟩⟩
    rw [hs.mem_newestFirst_iff hc, hid]
    constructor
    · rw [← hhandle]
      rfl
    · rw [hhandle]
      exact hn
  · rintro ⟨c, hc, hmem⟩
    obtain ⟨n, hn, rfl⟩ := List.mem_map.mp hmem
    obtain ⟨hhandle, hfound⟩ := (hs.mem_newestFirst_iff hc).mp hn
    constructor
    · exact congrArg NodeHandle.kind hhandle
    · rw [hfound]
      nofun

theorem length_openHandles (hs : reg.Sound) (kind : Kind) :
    (reg.openHandles kind).length = reg.openNodeCount kind := by
  have hlength : ∀ c ∈ reg.openContainers,
      ((c.newestFirst kind).map Node.handle).length = c.counts.get kind := by
    intro c hc
    rw [List.length_map, hs.length_newestFirst hc]
  rw [openHandles, openNodeCount]
  generalize reg.openContainers = l at hlength
  induction l with
  | nil => rfl
  | cons c rest ih =>
      obtain ⟨hc, hrest⟩ := List.forall_mem_cons.mp hlength
      rw [List.flatMap_cons, List.length_append, hc, ih hrest]
      rfl

/-- As many nodes of a kind are counted as can be looked up. -/
theorem encard_openNodes (hs : reg.Sound) (kind : Kind) :
    (reg.openNodes kind).encard = reg.openNodeCount kind := by
  rw [encard_eq_length (hs.nodup_openHandles kind) (hs.mem_openHandles kind),
    hs.length_openHandles]

end Sound

/-! ## The dump, line by line -/

/-- What a dump says of a container, of which it has four counts. -/
def containerRow (c : Container τ ρ) : String :=
  s!"container {c.id.number} {nameText c.name} refcount={c.refcount} datasets={c.counts.dataset} groups={c.counts.group} datatypes={c.counts.datatype} attributes={c.counts.attr}"
    ++ if c.placeholder then " (placeholder)" else ""

/-- The transfers of a node; none are counted where it is not a dataset. -/
def transfers (n : Node τ) : DatasetCounters :=
  match n.counters with
  | .dataset counters => counters
  | _ => .zero

/-- What a dump says of a dataset. -/
def datasetRow (n : Node τ) : String :=
  s!"  dataset {n.id.number} {nameText n.name} refcount={n.refcount}"
    ++ s!" read={(transfers n).bytesRead}B write={(transfers n).bytesWritten}B"

/-- The lines of a dump. -/
def rows (reg : Registry τ ρ) : List String :=
  s!"open containers: {reg.containerCount}" ::
    reg.openContainers.flatMap fun c =>
      containerRow c :: (c.newestFirst .dataset).map datasetRow

theorem containerLine_eq (c : Container τ ρ) :
    containerLine c = containerRow c ++ "\n" :=
  rfl

/-- The nodes in a list of datasets count what datasets count. -/
theorem Sound.counters_eq (hs : reg.Sound) (hc : c ∈ reg.openContainers) {n : Node τ}
    (hn : n ∈ c.newestFirst .dataset) : n.counters = .dataset (transfers n) := by
  have hkind : n.counters.kind = .dataset :=
    congrArg NodeHandle.kind ((hs.mem_newestFirst_iff hc).mp hn).1
  rw [transfers]
  cases hcounters : n.counters with
  | dataset counters => rfl
  | _ =>
      rw [hcounters] at hkind
      cases hkind

theorem datasetLine_eq {n : Node τ} (h : n.counters = .dataset (transfers n)) :
    datasetLine n = datasetRow n ++ "\n" := by
  unfold datasetLine
  rw [h]
  rfl

theorem Sound.dump_eq (hs : reg.Sound) :
    reg.dump = String.join (reg.rows.map fun row => row ++ "\n") := by
  have htext : ∀ c ∈ reg.openContainers, containerText c
      = String.join ((containerRow c :: (c.newestFirst .dataset).map datasetRow).map
          fun row => row ++ "\n") := by
    intro c hc
    have hlines : (c.newestFirst .dataset).map datasetLine
        = ((c.newestFirst .dataset).map datasetRow).map fun row => row ++ "\n" := by
      rw [List.map_map]
      exact List.map_congr_left fun n hn => datasetLine_eq (hs.counters_eq hc hn)
    rw [containerText, containerLine_eq, hlines, List.map_cons, String.join_cons]
  have hbody : String.join (reg.openContainers.map containerText)
      = String.join ((reg.openContainers.flatMap fun c =>
          containerRow c :: (c.newestFirst .dataset).map datasetRow).map
            fun row => row ++ "\n") := by
    rw [List.map_flatMap, Text.join_flatMap, List.map_congr_left htext]
  show s!"open containers: {reg.containerCount}" ++ "\n"
    ++ String.join (reg.openContainers.map containerText) = _
  rw [hbody, rows, List.map_cons, String.join_cons]

/-- The names in a dump have no newlines. -/
def PlainNames (reg : Registry τ ρ) : Prop :=
  ∀ c ∈ reg.openContainers, '\n' ∉ (nameText c.name).toList ∧
    ∀ n ∈ c.newestFirst .dataset, '\n' ∉ (nameText n.name).toList

instance (reg : Registry τ ρ) : Decidable reg.PlainNames :=
  inferInstanceAs (Decidable (∀ c ∈ reg.openContainers,
    '\n' ∉ (nameText c.name).toList ∧
      ∀ n ∈ c.newestFirst .dataset, '\n' ∉ (nameText n.name).toList))

theorem newline_not_mem_containerRow (hname : '\n' ∉ (nameText c.name).toList) :
    '\n' ∉ (containerRow c).toList := by
  have htext : ∀ s : String, toString s = s := fun _ => rfl
  have hflag : '\n' ∉ (if c.placeholder then " (placeholder)" else "").toList := by
    split <;> decide
  unfold containerRow
  simp [htext, hname, hflag, String.toList_append, Text.not_mem_toDigits]

theorem newline_not_mem_datasetRow {n : Node τ}
    (hname : '\n' ∉ (nameText n.name).toList) : '\n' ∉ (datasetRow n).toList := by
  have htext : ∀ s : String, toString s = s := fun _ => rfl
  unfold datasetRow
  simp [htext, hname, String.toList_append, Text.not_mem_toDigits]

theorem newline_not_mem_rows (h : reg.PlainNames) :
    ∀ row ∈ reg.rows, '\n' ∉ row.toList := by
  intro row hrow
  rw [rows, List.mem_cons, List.mem_flatMap] at hrow
  rcases hrow with rfl | ⟨c, hc, hrow⟩
  · have htext : ∀ s : String, toString s = s := fun _ => rfl
    simp [htext, String.toList_append, Text.not_mem_toDigits]
  · obtain ⟨hname, hnames⟩ := h c hc
    rcases List.mem_cons.mp hrow with rfl | hrow
    · exact newline_not_mem_containerRow hname
    · obtain ⟨n, hn, rfl⟩ := List.mem_map.mp hrow
      exact newline_not_mem_datasetRow (hnames n hn)

/-- The line of a container ends in a mark if it is a placeholder, and else in the
    digits of its last count. -/
theorem placeholder_suffix_iff (c : Container τ ρ) :
    " (placeholder)".toList <:+ (containerRow c).toList ↔ c.placeholder = true := by
  unfold containerRow
  rw [String.toList_append]
  constructor
  · rintro ⟨front, hfront⟩
    by_contra hflag
    have hdigits : (toString c.counts.attr).toList = Nat.toDigits 10 c.counts.attr :=
      String.toList_ofList
    rw [if_neg hflag, String.toList_append, hdigits, String.toList_empty,
      List.append_nil] at hfront
    have hlast := congrArg List.getLast? hfront
    rw [List.getLast?_append_of_ne_nil _ (by decide),
      List.getLast?_append_of_ne_nil _ Nat.toDigits_ne_nil] at hlast
    have hmem : ')' ∈ Nat.toDigits 10 c.counts.attr := List.mem_of_getLast? hlast.symm
    exact Text.not_mem_toDigits rfl _ hmem
  · intro hflag
    rw [if_pos hflag]
    exact List.suffix_append _ _

/-! ## Agreement -/

/-- What the views of the open things show. -/
structure ViewsAgree (reg : Registry τ ρ) : Prop where
  containerCount_eq : reg.openIds.encard = reg.containerCount
  openNodeCount_eq : ∀ kind, (reg.openNodes kind).encard = reg.openNodeCount kind
  /-- The check asks for the numbers of open containers and of open datasets. -/
  verified_iff : ∀ containers datasets,
    (verifyOpenThings containers datasets reg).outcome = .value () ↔
      reg.openIds.encard = containers ∧ (reg.openNodes .dataset).encard = datasets
  /-- If it refuses, it tells both. -/
  refused : ∀ containers datasets,
    (verifyOpenThings containers datasets reg).outcome ≠ .value () →
      (verifyOpenThings containers datasets reg).outcome
        = .error (.openThingsMismatch containers datasets reg.containerCount
            (reg.openNodeCount .dataset)) ∧
      (verifyOpenThings containers datasets reg).events
        = [.openThingsMismatch containers datasets reg.containerCount
            (reg.openNodeCount .dataset)]
  verified_state : ∀ containers datasets,
    (verifyOpenThings containers datasets reg).state = reg
  /-- All entries are listed, in ascending order. -/
  ascending : reg.openContainers.Pairwise fun c c' => c.id.number < c'.id.number
  listed : ∀ c, c ∈ reg.openContainers ↔ reg.container? c.id = some c
  /-- Each of them lists as many nodes as it counts, in descending order, and those
      are the ones that can be looked up. -/
  counted : ∀ c ∈ reg.openContainers, ∀ kind,
    (c.newestFirst kind).length = c.counts.get kind
  descending : ∀ c ∈ reg.openContainers, ∀ kind,
    (c.newestFirst kind).Pairwise fun n n' => n'.id.number < n.id.number
  found : ∀ c ∈ reg.openContainers, ∀ kind n, n ∈ c.newestFirst kind ↔
    n.handle = ⟨c.id, kind, n.id⟩ ∧ reg.node? n.handle = some n
  /-- A dump has a line for each container, followed by one for each of its
      datasets with what was moved. -/
  dumped : reg.PlainNames → Text.lines reg.dump = reg.rows
  moved : ∀ c ∈ reg.openContainers, ∀ n ∈ c.newestFirst .dataset,
    n.counters = .dataset (transfers n)
  marked : ∀ c ∈ reg.openContainers,
    " (placeholder)".toList <:+ (containerRow c).toList ↔ c.placeholder = true
  /-- The end reports the same containers. -/
  closed : ∃ dropped,
    (close reg : Ending (Registry τ ρ) RegistryError (Teardown ρ)).outcome
      = .value ⟨reg.openContainers.map fun c => ⟨c.id, c.name, c.refcount, c.counts⟩,
          dropped⟩

theorem verifyOpenThings_ok {containers datasets : Nat}
    (h : reg.containerCount = containers ∧ reg.openNodeCount .dataset = datasets) :
    verifyOpenThings containers datasets reg = ⟨.value (), reg, []⟩ := by
  rw [verifyOpenThings]
  exact if_pos h

theorem verifyOpenThings_refused {containers datasets : Nat}
    (h : ¬(reg.containerCount = containers ∧ reg.openNodeCount .dataset = datasets)) :
    verifyOpenThings containers datasets reg
      = ⟨.error (.openThingsMismatch containers datasets reg.containerCount
            (reg.openNodeCount .dataset)), reg,
          [.openThingsMismatch containers datasets reg.containerCount
            (reg.openNodeCount .dataset)]⟩ := by
  rw [verifyOpenThings]
  exact if_neg h

theorem verifyOpenThings_outcome_iff (containers datasets : Nat) :
    (verifyOpenThings containers datasets reg).outcome = .value () ↔
      reg.containerCount = containers ∧ reg.openNodeCount .dataset = datasets := by
  constructor
  · intro hok
    by_contra h
    rw [verifyOpenThings_refused h] at hok
    cases hok
  · intro h
    rw [verifyOpenThings_ok h]

theorem Sound.viewsAgree (hs : reg.Sound) : reg.ViewsAgree where
  containerCount_eq := hs.encard_openIds
  openNodeCount_eq := hs.encard_openNodes
  verified_iff containers datasets := by
    rw [verifyOpenThings_outcome_iff, hs.encard_openIds, hs.encard_openNodes,
      Nat.cast_inj, Nat.cast_inj]
  refused containers datasets hne := by
    rw [verifyOpenThings_refused (hne ∘ (verifyOpenThings_outcome_iff _ _).mpr)]
    exact ⟨rfl, rfl⟩
  verified_state containers datasets := by
    by_cases h : reg.containerCount = containers ∧ reg.openNodeCount .dataset = datasets
    · rw [verifyOpenThings_ok h]
    · rw [verifyOpenThings_refused h]
  ascending := hs.openContainers_ascending
  listed c := hs.mem_openContainers
  counted c hc kind := hs.length_newestFirst hc kind
  descending c hc kind := newestFirst_decreasing (hs.entry_of_mem hc) kind
  found c hc kind n := hs.mem_newestFirst_iff hc
  dumped hnames := by
    rw [hs.dump_eq]
    exact Text.lines_join (newline_not_mem_rows hnames)
  moved c hc n hn := hs.counters_eq hc hn
  marked c _ := placeholder_suffix_iff c
  closed := ⟨_, rfl⟩

/-- Whatever was asked of a registry, and however it ended, all views of the open
    things agree: the counts, the check, the look-ups, the dump and the end. -/
theorem views_agree [Identity ω η τ] (config : Config)
    (requests : List (Request ω η τ ρ)) : (built config requests).ViewsAgree :=
  (built_sound config requests).viewsAgree

/-- Two datasets, of which one was read, and a group that was adopted under a
    placeholder. -/
theorem views_agree_of_placeholder :
    Text.lines (built (ρ := Empty) Config.default
      [.plain (.openContainer ⟨1⟩ (some "c1.h5")),
        .plain (.track ⟨1⟩ .dataset (.ofAddress 1) (some "temps") ()),
        .plain (.setDatasetShape ⟨⟨1⟩, .dataset, ⟨1⟩⟩ 8 [4]),
        .plain (.recordRead ⟨⟨1⟩, .dataset, ⟨1⟩⟩ none .zero),
        .plain (.track ⟨1⟩ .dataset (.ofAddress 2) none ()),
        .plain (.trackIn ⟨1⟩ ⟨2⟩ .group (.ofAddress 3) none ())]).dump
      = ["open containers: 2",
        "container 1 c1.h5 refcount=3 datasets=2 groups=0 datatypes=0 attributes=0",
        "  dataset 2 - refcount=1 read=0B write=0B",
        "  dataset 1 temps refcount=1 read=32B write=0B",
        "container 2 dummy refcount=1 datasets=0 groups=1 datatypes=0 attributes=0 (placeholder)"] := by
  refine ((views_agree _ _).dumped ?_).trans ?_
  · decide
  · decide

end Provenance.Registry
