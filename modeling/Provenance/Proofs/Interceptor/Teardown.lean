import Provenance.Proofs.Interceptor.Handback
import Provenance.Proofs.Registry.Attachments

/-! # The end of an interceptor

    The end writes the report first and closes the registry after it.  So all hangs
    on what the disk makes of the report (`filed`).  Where it takes the report, or
    none is asked for, the registry tells every container that is still open
    (`terminate_of_filed`).  Where it refuses, the end is over before the registry
    is closed, and nothing is told (`terminate_of_refused`). -/

namespace Provenance.Interceptor

variable {ω η τ : Type} {i : Interceptor ω τ} {w : ω}

/-- The text of the report: the times by operation and, if the overhead is measured,
    the lines about it. -/
def report (i : Interceptor ω τ) : String :=
  i.stats.text ++ if i.config.recordOverhead then i.overhead.text else ""

/-- What the disk makes of the report, if there is to be one. -/
def filed [Host ω] (i : Interceptor ω τ) : Except IoError Unit × ω :=
  match i.config.statFile with
  | some path => Disk.write path i.report i.world
  | none => (.ok (), i.world)

/-- What the end leaves behind, once the report is there. -/
def tornDown (i : Interceptor ω τ) (w : ω) :
    Ending (Interceptor ω τ) InterceptError Summary :=
  ⟨.value ⟨⟨i.registry.leaks, i.registry.openContainers.flatMap Container.attachments⟩,
      i.stats, i.overhead⟩,
    { i with world := w, registry := { i.registry with containers := .empty } },
    i.registry.leaks.map Leak.event⟩

/-- Why the end fails where the disk refuses the report. -/
def refusal (i : Interceptor ω τ) (path : String) (e : IoError) : InterceptError :=
  if i.config.recordOverhead then .report path e else .stats (.io e)

theorem mapError_mapError {σ ε ε' ε'' α : Type} (x : Call σ ε α) (f : ε → ε')
    (g : ε' → ε'') : (x.mapError f).mapError g = x.mapError fun e => g (f e) := by
  funext s
  have houtcome : ((x s).outcome.mapError f).mapError g
      = (x s).outcome.mapError fun e => g (f e) := by
    cases (x s).outcome <;> rfl
  exact congrArg (Ending.mk · (x s).state (x s).events) houtcome

variable [Host ω]

/-- With or without the overhead, one text is written to the file. -/
theorem writeReport_eq (i : Interceptor ω τ) (path : String) :
    writeReport path i
      = onWorld ((Call.ofTry (Disk.write path i.report)).mapError (i.refusal path)) i := by
  rw [writeReport, Call.bind_of_value (Call.state_apply i)]
  by_cases hc : i.config.recordOverhead = true
  · have hrefusal : i.refusal path = .report path := funext fun _ => if_pos hc
    rw [if_pos hc, report, if_pos hc, hrefusal]
    rfl
  · have hrefusal : i.refusal path = fun e => .stats (.io e) :=
      funext fun _ => if_neg hc
    rw [if_neg hc, report, if_neg hc, String.append_empty, hrefusal,
      StatsTable.writeReport, mapError_mapError]
    rfl

theorem writeReport_of_ok {path : String}
    (h : Disk.write path i.report i.world = (.ok (), w)) :
    writeReport path i = ⟨.value (), { i with world := w }, []⟩ := by
  rw [writeReport_eq, onWorld, Call.focus, Call.mapError, Call.ofTry, h]
  rfl

theorem writeReport_of_error {path : String} {e : IoError}
    (h : Disk.write path i.report i.world = (.error e, w)) :
    writeReport path i = ⟨.error (i.refusal path e), { i with world := w }, []⟩ := by
  rw [writeReport_eq, onWorld, Call.focus, Call.mapError, Call.ofTry, h]
  rfl

omit [Host ω] in
/-- What is left to do when the report is there. -/
theorem close_eq (i : Interceptor ω τ) (w : ω) :
    (onRegistry (Registry.alone Registry.close) >>= fun teardown =>
      Call.state >>= fun k => pure ⟨teardown, k.stats, k.overhead⟩ :
      Call (Interceptor ω τ) InterceptError Summary) { i with world := w }
      = i.tornDown w := by
  have hclosed : (onRegistry (Registry.alone Registry.close) :
      Call (Interceptor ω τ) InterceptError (Teardown Empty)) { i with world := w }
      = ⟨.value ⟨i.registry.leaks,
            i.registry.openContainers.flatMap Container.attachments⟩,
          { i with world := w, registry := { i.registry with containers := .empty } },
          i.registry.leaks.map Leak.event⟩ := rfl
  refine (Call.bind_of_value hclosed).trans ?_
  exact congrArg (Ending.mk _ _) (List.append_nil _)

/-- With the report in place, the registry is closed and tells what is open. -/
theorem terminate_of_filed (h : i.filed = (.ok (), w)) :
    terminate i = i.tornDown w := by
  rw [filed] at h
  cases hpath : i.config.statFile with
  | none =>
      rw [hpath] at h
      cases h
      rw [terminate, Call.bind_of_value (Call.state_apply i), hpath]
      exact close_eq i i.world
  | some path =>
      rw [hpath] at h
      rw [terminate, Call.bind_of_value (Call.state_apply i), hpath]
      dsimp only
      rw [Call.bind_of_value (writeReport_of_ok h)]
      exact close_eq i w

/-- Without the report the registry is not closed, and nothing is told. -/
theorem terminate_of_refused {e : IoError} (h : i.filed = (.error e, w)) :
    ∃ path, i.config.statFile = some path ∧
      terminate i = ⟨.error (i.refusal path e), { i with world := w }, []⟩ := by
  rw [filed] at h
  cases hpath : i.config.statFile with
  | none =>
      rw [hpath] at h
      cases h
  | some path =>
      rw [hpath] at h
      refine ⟨path, rfl, ?_⟩
      rw [terminate, Call.bind_of_value (Call.state_apply i), hpath]
      dsimp only
      rw [Call.bind_of_error (writeReport_of_error h)]
      rfl

/-! ## What is told -/

/-- The lines on the overhead. -/
def overheadLines (o : Overhead) : List String :=
  [s!"interception_overhead {o.interception.micros} us\n",
    s!"library_time {o.library.micros} us\n",
    s!"container_list {o.containers.micros} us\n",
    s!"dataset_list {o.objects.dataset.micros} us\n",
    s!"group_list {o.objects.group.micros} us\n",
    s!"datatype_list {o.objects.datatype.micros} us\n",
    s!"attribute_list {o.objects.attr.micros} us\n"]

/-- A way to read texts finds what was written. -/
def ReadsBack (read : ω → String → Option String) : Prop :=
  ∀ path text (w w' : ω), Disk.write path text w = (.ok (), w') →
    read w' path = some text

variable [Library ω η τ]

/-- What the end of an interceptor tells of the containers that are still open, while
    so much is owned. -/
structure TellsLeaks (owned : Multiset (Asset η)) (i : Interceptor ω τ) : Prop where
  /-- The open containers are those with an entry, in ascending order. -/
  ascending : i.registry.openContainers.Pairwise fun c c' =>
    c.id.number < c'.id.number
  listed : ∀ c, c ∈ i.registry.openContainers ↔ i.registry.container? c.id = some c
  /-- With the report in place, or none asked for, there is a warning for each, and
      then the summary of `terminate`. -/
  told : ∀ w, i.filed = (.ok (), w) → ∃ s, (terminate i).outcome = .value s ∧
    (terminate i).state.world = w ∧
    (terminate i).events = i.registry.openContainers.map (fun c =>
      .containerStillOpen c.id c.name c.refcount) ∧
    s.teardown.leaked = i.registry.openContainers.map (fun c =>
      ⟨c.id, c.name, c.refcount, c.counts⟩) ∧
    s.stats = i.stats ∧ s.overhead = i.overhead
  /-- A report that the disk refuses leaves the registry as it is, and there is no
      warning. -/
  untold : ∀ e w, i.filed = (.error e, w) →
    (∃ path, i.config.statFile = some path ∧
      (terminate i).outcome = .error (i.refusal path e)) ∧
    (terminate i).state = { i with world := w } ∧ (terminate i).events = []
  /-- A summary without leaks says that nothing is owned any more. -/
  owned_of_leaked : ∀ s, (terminate i).outcome = .value s →
    s.teardown.leaked = [] → owned = 0
  /-- If nothing is owned, nothing leaks.  The steady clock, which is the contract
      of a clock, rules out that an operation of the run came to a fault and left
      references behind. -/
  leaked_of_owned : SteadyClock ω → owned = 0 → ∀ s, (terminate i).outcome = .value s →
    s.teardown.leaked = []
  /-- Then the report is in its file. -/
  readable : ∀ read : ω → String → Option String, ReadsBack read →
    ∀ path, i.config.statFile = some path →
    ∀ s, (terminate i).outcome = .value s →
      read (terminate i).state.world path = some (i.stats.text
        ++ if i.config.recordOverhead then String.join (overheadLines i.overhead)
          else "")

omit [Library ω η τ] in
/-- A summary comes with a report in place, and is that of a closed registry. -/
theorem filed_of_value {s : Summary} (hs : (terminate i).outcome = .value s) :
    ∃ w, i.filed = (.ok (), w) ∧ (terminate i).state.world = w ∧
      s.teardown.leaked = i.registry.leaks := by
  rcases hfiled : i.filed with ⟨_ | _, w⟩
  · obtain ⟨path, -, hend⟩ := terminate_of_refused hfiled
    rw [hend] at hs
    cases hs
  · rw [terminate_of_filed hfiled] at hs ⊢
    cases hs
    exact ⟨w, rfl, rfl, rfl⟩

omit [Host ω] [Library ω η τ] in
theorem references_eq_zero_iff {owned : Multiset (Asset η)} :
    references owned = 0 ↔ owned = 0 :=
  Multiset.map_eq_zero

/-- The end of every interceptor tells what is still open, if it has its report in
    place.  Otherwise it tells nothing. -/
theorem Reached.tellsLeaks {owned : Multiset (Asset η)} (h : Reached owned i) :
    TellsLeaks owned i := by
  obtain ⟨others, hreg⟩ := h.exists_consistent
  refine ⟨?_, ?_, ?_, ?_, ?_, ?_, ?_⟩
  · exact Registry.openContainers_ascending fun hget => (hreg.entry hget).id_eq
  · exact fun c => Registry.mem_openContainers_iff fun hget => (hreg.entry hget).id_eq
  · intro w hfiled
    rw [terminate_of_filed hfiled]
    refine ⟨_, rfl, rfl, ?_, rfl, rfl, rfl⟩
    show (i.registry.openContainers.map Registry.leak).map Leak.event = _
    rw [List.map_map]
    rfl
  · intro e w hfiled
    obtain ⟨path, hpath, hend⟩ := terminate_of_refused hfiled
    rw [hend]
    exact ⟨⟨path, hpath, rfl⟩, rfl, rfl⟩
  · intro s hs hnil
    obtain ⟨w, -, -, hleaks⟩ := filed_of_value hs
    rw [hleaks, hreg.leaks_eq_nil_iff, add_eq_zero] at hnil
    exact references_eq_zero_iff.mp hnil.1
  · rintro hsteady rfl s hs
    obtain ⟨w, -, -, hleaks⟩ := filed_of_value hs
    rw [hleaks, (h.consistent hsteady).leaks_eq_nil_iff]
    rfl
  · intro read hread path hpath s hs
    obtain ⟨w, hfiled, hworld, -⟩ := filed_of_value hs
    rw [filed, hpath] at hfiled
    rw [hworld]
    exact hread path _ i.world w hfiled

/-- The files of a library in memory are read back. -/
theorem readsBack_inMemory :
    ReadsBack fun (w : InMemory.World) path => w.files.read? path := by
  intro path text w w' hwrite
  rcases hfiles : w.files.write path text with ⟨answer, files⟩
  have hend : (answer, { w with files := files }) = (.ok (), w') := by
    rw [← hwrite]
    show _ = ((w.files.write path text).1, { w with files := (w.files.write path text).2 })
    rw [hfiles]
  cases hend
  exact Files.read?_write hfiles

/-- A file that is still open is told, and the report can be read. -/
theorem tellsLeaks_of_open_file :
    ∃ (i : Interceptor InMemory.World Token) (s : Summary),
      Reached {.proxy ⟨⟨0x1010, ⟨1⟩⟩, ⟨1⟩, .container ⟨1⟩⟩} i ∧
      (terminate i).outcome = .value s ∧
      (terminate i).events = [.containerStillOpen ⟨1⟩ (some "a.h5") 1] ∧
      s.teardown.leaked = [⟨⟨1⟩, some "a.h5", 1, .replicate 0⟩] ∧
      (terminate i).state.world.files.read? "report.txt"
        = some (String.join ["file_create 0 us\n", "interception_overhead 0 us\n",
          "library_time 0 us\n", "container_list 0 us\n", "dataset_list 0 us\n",
          "group_list 0 us\n", "datatype_list 0 us\n", "attribute_list 0 us\n"]) := by
  have hstart := Reached.start Memory.addressSpace
    { Config.default with
      statsCapacity := 1, statFile := some "report.txt", recordOverhead := true }
    (InMemory.World.new ⟨1⟩) rfl
  have hfile := hstart.step Memory.addressSpace
    (.openFile .created "a.h5" : Op InMemory.Handle) 0 0 rfl
  have hend := Reached.tellsLeaks hfile
  obtain ⟨s, hs, -, hevents, hleaked, -⟩ := hend.told _ rfl
  refine ⟨_, s, hfile, hs, hevents, hleaked, ?_⟩
  refine (hend.readable _ readsBack_inMemory "report.txt" rfl s hs).trans ?_
  exact congrArg some (by decide +kernel)

theorem filed_of_unlocated {i : Interceptor InMemory.World Token} {path : String}
    {e : PathProblem} (hpath : i.config.statFile = some path)
    (h : i.world.files.locate path = .error e) :
    i.filed = (.error ⟨e.message⟩, i.world) := by
  have hwrite : i.world.files.write path i.report
      = (.error ⟨e.message⟩, i.world.files) := by
    rw [Files.write, h]
  rw [filed, hpath]
  show ((i.world.files.write path i.report).1,
    { i.world with files := (i.world.files.write path i.report).2 }) = _
  rw [hwrite]

/-- A file that is still open is not told where the report cannot be written. -/
theorem terminate_hides_leak :
    ∃ (i : Interceptor InMemory.World Token) (c : Container Token Empty)
      (e : InterceptError),
      Reached {.proxy ⟨⟨0x1010, ⟨1⟩⟩, ⟨1⟩, .container ⟨1⟩⟩} i ∧
      i.registry.container? ⟨1⟩ = some c ∧ (terminate i).outcome = .error e ∧
      (terminate i).events = [] := by
  have hstart := Reached.start Memory.addressSpace
    { Config.default with
      statsCapacity := 1, statFile := some "no_such_dir/report.txt" }
    (InMemory.World.new ⟨1⟩) rfl
  have hfile := hstart.step Memory.addressSpace
    (.openFile .created "a.h5" : Op InMemory.Handle) 0 0 rfl
  obtain ⟨i, hreached, ⟨c, hget⟩, hpath, hfiles⟩ :
      ∃ i : Interceptor InMemory.World Token,
        Reached {.proxy ⟨⟨0x1010, ⟨1⟩⟩, ⟨1⟩, .container ⟨1⟩⟩} i ∧
        (∃ c, i.registry.container? ⟨1⟩ = some c) ∧
        i.config.statFile = some "no_such_dir/report.txt" ∧
        i.world.files = .empty :=
    ⟨_, hfile, ⟨_, rfl⟩, rfl, rfl⟩
  -- the disk has no directory but the current one
  have hmissing : i.world.files.locate "no_such_dir/report.txt" = .error .missing := by
    rw [hfiles]
    decide +kernel
  obtain ⟨path, -, hend⟩ := terminate_of_refused (filed_of_unlocated hpath hmissing)
  refine ⟨i, c, _, hreached, hget, congrArg Ending.outcome hend, ?_⟩
  rw [hend]

end Provenance.Interceptor
