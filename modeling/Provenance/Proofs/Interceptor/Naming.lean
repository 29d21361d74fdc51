import Provenance.Proofs.Interceptor.Conduct
import Provenance.Proofs.Interceptor.Ownership
import Provenance.Proofs.Library.Requests

/-! # The nodes behind object proxies

    A library identifies its objects if it says the same of a raw handle each
    time it is asked, and finds only equal tokens equal (`Identifies`).  Over
    such a library, the node of an object proxy is in the container of its raw
    handle and bears the token of that handle, from the operation that issued
    the proxy on (`Named`), whatever the proxy was obtained from.

    Two nodes of a list bear different tokens, so proxies that are owned at one
    time share a node just when they are of one kind and their raw handles are
    equal (`Reached.object_identity`). -/

namespace Provenance

/-- The library says the same of a raw handle each time, two handles of which
    it says the same are equal, and only equal tokens compare as equal. -/
structure Identifies (ω : Type) {η τ : Type} [Library ω η τ]
    (info : η → ObjectInfo τ) : Prop where
  objectInfo_eq : ∀ {raw kind answer} {w w' : ω},
    Library.objectInfo raw kind w = (.ok answer, w') → answer = info raw
  injective : Function.Injective info
  eq_iff : ∀ {a b order}, Identity.Answers ω a b order → (order = .eq ↔ a = b)

theorem Identifies.ne_of_differ {ω η τ : Type} [Library ω η τ]
    {info : η → ObjectInfo τ} (hi : Identifies ω info) {a b : τ}
    (h : Identity.Differ ω a b) : a ≠ b := by
  obtain ⟨order, hne, hanswer⟩ := h
  exact fun heq => hne ((hi.eq_iff hanswer).mpr heq)

namespace Registry

variable {τ : Type} {reg₀ reg reg' : Registry τ Empty} {node : NodeHandle}
  {info : ObjectInfo τ}

/-- A node is where the library says that an object is, and bears its token. -/
def Bears (reg : Registry τ Empty) (node : NodeHandle) (info : ObjectInfo τ) :
    Prop :=
  node.container = info.container ∧
    ∃ n, reg.node? node = some n ∧ n.token = info.token

/-- As long as a node is there, it bears its token. -/
theorem Bears.kept {t : Terms τ} (h : reg.Bears node info)
    (hw : Writes t reg reg') (hs : reg.Sound)
    (hnode : ∃ n, reg'.node? node = some n) : reg'.Bears node info := by
  obtain ⟨hcontainer, n, hn, htoken⟩ := h
  obtain ⟨n', hn'⟩ := hnode
  rcases (hw.fate hs node).of_some hn with ⟨o, ho, hsame⟩ | ⟨hnone, -⟩
  · exact ⟨hcontainer, o, ho, hsame.token_eq.trans htoken⟩
  · rw [hn'] at hnone
    cases hnone

theorem Bears.still (h : reg.Bears node info) (hw : Writes Terms.still reg reg')
    (hs : reg.Sound) : reg'.Bears node info := by
  refine h.kept hw hs ?_
  obtain ⟨-, n, hn, -⟩ := h
  rcases (hw.fate hs node).of_some hn with ⟨n', hn', -⟩ | ⟨-, hfrees⟩
  · exact ⟨n', hn'⟩
  · exact hfrees.elim

/-- What a node bears tells which object it is of. -/
theorem Bears.info_eq {info' : ObjectInfo τ} (h : reg.Bears node info)
    (h' : reg.Bears node info') : info = info' := by
  obtain ⟨container, token⟩ := info
  obtain ⟨container', token'⟩ := info'
  obtain ⟨hcontainer, n, hn, rfl⟩ := h
  obtain ⟨hcontainer', n', hn', rfl⟩ := h'
  obtain rfl : container = container' := hcontainer.symm.trans hcontainer'
  rw [hn] at hn'
  cases hn'
  rfl

/-- What the nodes of a registry bear tells them apart. -/
theorem Distinct.node_eq_of_bears (hd : reg.Distinct (· ≠ ·))
    {node' : NodeHandle} (h : reg.Bears node info) (h' : reg.Bears node' info)
    (hkind : node.kind = node'.kind) : node = node' := by
  obtain ⟨id, kind, m⟩ := node
  obtain ⟨id', kind', m'⟩ := node'
  obtain ⟨rfl, n, hn, htoken⟩ := h
  obtain ⟨rfl, n', hn', htoken'⟩ := h'
  obtain rfl : kind = kind' := hkind
  have heq : n.token = n'.token := htoken.trans htoken'.symm
  rw [hd.id_eq hn hn' (fun h => h heq) fun h => h heq.symm]

/-- After writes on free terms, a node bears the token of an object. -/
structure Placed (reg₀ : Registry τ Empty) (node : NodeHandle)
    (info : ObjectInfo τ) (reg : Registry τ Empty) : Prop where
  writes : Writes Terms.free reg₀ reg
  bears : reg.Bears node info

theorem Terms.still_preserve (hs : reg₀.Sound) (node : NodeHandle)
    (info : ObjectInfo τ) : Terms.still.Preserve (Placed reg₀ node info) :=
  fun _ _ hw h => ⟨h.writes.trans hw.free, h.bears.still hw (h.writes.sound hs)⟩

end Registry

namespace Interceptor

open Registry (Terms Writes)

variable {ω η τ ε α β : Type} [Library ω η τ] [Host ω] {i : Interceptor ω τ}
  {R : Registry τ Empty → Prop} {reg₀ : Registry τ Empty} {t : Terms τ}
  {ev : List Event} {info : η → ObjectInfo τ}

/-- What the library says of a raw handle is what it always says of it. -/
theorem objectInfo_leaves (hi : Identifies ω info) (op : Operation) (raw : η)
    (kind : Kind) (h : R i.registry) :
    (callLibrary op (Library.objectInfo raw kind)).Ensures i ev
      (fun r j _ => r.1 = info raw ∧ R j.registry)
      (fun _ j _ => R j.registry) (fun _ j _ => R j.registry) :=
  callLibrary_ensures (fun _ _ hw => ⟨hi.objectInfo_eq hw, h⟩) fun _ _ _ => h

/-- Tracking an object answers a node that bears its token. -/
theorem trackObject_bears (hi : Identifies ω info) (memory : Memory)
    (home : ContainerId) (answer : ObjectInfo τ) (kind : Kind)
    (name : Option String) (raw : η) (hs : reg₀.Sound)
    (h : Writes Terms.free reg₀ i.registry) :
    (trackObject memory home answer kind name raw :
      Call (Interceptor ω τ) InterceptError NodeHandle).Ensures i ev
      (fun node j _ => node.kind = kind ∧
        Registry.Placed reg₀ node answer j.registry)
      (fun _ j _ => Writes Terms.free reg₀ j.registry)
      (fun _ j _ => Writes Terms.free reg₀ j.registry) := by
  rw [trackObject]
  refine charged_registry (ω := ω)
    (V := fun node reg => node.kind = kind ∧ Registry.Placed reg₀ node answer reg)
    (E := fun _ => Writes Terms.free reg₀)
    (F := fun _ => Writes Terms.free reg₀) ?_
  rw [Call.ensures_mapError]
  refine (Registry.trackIn_tracked Identity.compare_keeps_true memory home
    answer.container kind answer.token name raw (h.sound hs).entry trivial).mono
    ?_ ?_ ?_
  · rintro node s _ ⟨-, ht⟩
    have hw : Writes Terms.free i.registry s.2 :=
      ht.writes (fun hdiffer => hi.ne_of_differ hdiffer) trivial
    refine ⟨ht.place.2, h.trans hw, ht.place.1, ?_⟩
    obtain ⟨n, hn, htoken | hequal⟩ := ht.resolves (h.sound hs)
    · exact ⟨n, hn, htoken⟩
    · exact ⟨n, hn, (hi.eq_iff hequal).mp rfl⟩
  · rintro e s _ ⟨-, hreg, -⟩
    rw [hreg]
    exact h
  · rintro f s _ ⟨-, hreg, -⟩
    rw [hreg]
    exact h

/-- A proxy is of an object of a kind. -/
def IsObject (p : Proxy η) (kind : Kind) : Prop :=
  ∃ node, p.target = .object node ∧ node.kind = kind

/-- A proxy is of a container, or its node is that of the object behind its raw
    handle. -/
def Named (info : η → ObjectInfo τ) (p : Proxy η) (reg : Registry τ Empty) :
    Prop :=
  ∀ node, p.target = .object node → reg.Bears node (info p.handle)

omit [Library ω η τ] [Host ω] in
theorem named_of_bears {p : Proxy η} {node : NodeHandle}
    {reg : Registry τ Empty} (htarget : p.target = .object node)
    (h : reg.Bears node (info p.handle)) : Named info p reg := by
  intro node' htarget'
  rw [htarget] at htarget'
  cases htarget'
  exact h

theorem openObject_named (hi : Identifies ω info) (memory : Memory)
    (access : Access) (parent : Proxy η) (kind : Kind) (name : String)
    (hs : reg₀.Sound) (h : Writes Terms.free reg₀ i.registry) :
    (openObject memory access parent kind name :
      Call (Interceptor ω τ) InterceptError (Proxy η)).Ensures i ev
      (fun p j _ => Writes Terms.free reg₀ j.registry ∧
        Named info p j.registry ∧ IsObject p kind)
      (fun _ j _ => Writes Terms.free reg₀ j.registry)
      (fun _ j _ => Writes Terms.free reg₀ j.registry) := by
  rw [openObject]
  refine startTimer_leaves.ensures_bind h (fun _ _ h => h)
    fun timer j ev hj => ?_
  refine (callLibrary_leaves _ _).ensures_bind hj (fun _ _ h => h) ?_
  rintro ⟨raw, opening⟩ j ev hj
  rw [Call.ensures_bind, Call.ensures_onError]
  refine (objectInfo_leaves hi _ raw kind hj).mono ?_
    (fun _ _ _ h => discard_leaves kind raw _ _ h) fun _ _ _ h => h
  rintro ⟨answer, asking⟩ j ev ⟨rfl, hj⟩
  refine (addTimes_keeps _ _).ensures_bind hj (fun _ _ h => h)
    fun library j ev hj => ?_
  rw [Call.ensures_bind, Call.ensures_onError]
  refine (trackObject_bears hi memory _ _ kind (some name) raw hs hj).mono ?_
    (fun _ _ _ h => discard_leaves kind raw _ _ h) fun _ _ _ h => h
  rintro node j ev ⟨hkind, hj⟩
  -- from here on the node is there, unless its tracking is undone
  rw [Call.ensures_bind, Call.ensures_onError]
  refine (describeObject_preserves (Terms.still_preserve hs node (info raw)) memory
    _ node access raw j ev hj).mono ?_
    (fun _ _ _ h => undoTracking_preserves (Terms.free_preserve reg₀) kind node raw
      _ _ h.writes) fun _ _ _ h => h.writes
  intro describing j ev hj
  refine (addTimes_keeps _ _).ensures_bind
    (P := fun j _ => Registry.Placed reg₀ node (info raw) j.registry) hj
    (fun _ _ h => h.writes) fun total j ev hj => ?_
  refine (finish_leaves (R := Registry.Placed reg₀ node (info raw)) memory _
    timer total).ensures_bind hj (fun _ _ h => h.writes) fun _ j ev hj => ?_
  rw [Call.ensures_bind, Call.ensures_state, Call.ensures_pure]
  exact ⟨hj.writes, named_of_bears rfl hj.bears, node, rfl, hkind⟩

theorem wrapUnder_named (hi : Identifies ω info) (memory : Memory)
    (op : Operation) (home : WrapContext) (raw : η) (kind : Kind)
    (name : Option String) (hs : reg₀.Sound)
    (h : Writes Terms.free reg₀ i.registry) :
    (wrapUnder memory op home raw kind name :
      Call (Interceptor ω τ) InterceptError (Proxy η)).Ensures i ev
      (fun p j _ => Writes Terms.free reg₀ j.registry ∧
        Named info p j.registry ∧ p.handle = raw ∧ IsObject p kind)
      (fun _ j _ => Writes Terms.free reg₀ j.registry)
      (fun _ j _ => Writes Terms.free reg₀ j.registry) := by
  rw [wrapUnder]
  refine startTimer_leaves.ensures_bind h (fun _ _ h => h)
    fun timer j ev hj => ?_
  rw [Call.ensures_bind, Call.ensures_onError]
  refine (objectInfo_leaves hi op raw kind hj).mono ?_
    (fun _ _ _ h => discard_leaves kind raw _ _ h) fun _ _ _ h => h
  rintro ⟨answer, library⟩ j ev ⟨rfl, hj⟩
  rw [Call.ensures_bind, Call.ensures_onError]
  refine (trackObject_bears hi memory home.container _ kind name raw hs hj).mono
    ?_ (fun _ _ _ h => discard_leaves kind raw _ _ h) fun _ _ _ h => h
  rintro node j ev ⟨hkind, hj⟩
  refine (finish_leaves (R := Registry.Placed reg₀ node (info raw)) memory op
    timer library).ensures_bind hj (fun _ _ h => h.writes) fun _ j ev hj => ?_
  rw [Call.ensures_pure]
  exact ⟨hj.writes, named_of_bears rfl hj.bears, rfl, node, rfl, hkind⟩

/-! ## One operation -/

/-- The proxies that an operation can answer. -/
def Op.Obtains : Op η → Proxy η → Prop
  | openFile _ _, p => ∃ id, p.target = .container id
  | openObject _ _ kind _, p => IsObject p kind
  | wrapObject raw kind _, p => p.handle = raw ∧ IsObject p kind
  | completeRequest _ raw kind _, p => p.handle = raw ∧ IsObject p kind
  | _, _ => False

/-- A proxy in the answer of an operation is one that was asked for, and is
    named. -/
def Answer.Fits (op : Op η) (info : η → ObjectInfo τ) (a : Answer η)
    (reg : Registry τ Empty) : Prop :=
  ∀ p, a = .proxy p → Named info p reg ∧ op.Obtains p

omit [Library ω η τ] [Host ω] in
theorem Op.fits_of_keeps {op : Op η} {reg₀ : Registry τ Empty}
    {x : Call (Interceptor ω τ) (Refusal η) α} {answer : α → Answer η}
    (hanswer : ∀ a p, answer a ≠ .proxy p)
    (hx : x.Keeps fun i _ => Writes Terms.free reg₀ i.registry)
    (h : Writes Terms.free reg₀ i.registry) :
    (answer <$> x).Ensures i ev
      (fun a j _ => Writes Terms.free reg₀ j.registry ∧
        a.Fits op info j.registry)
      (fun _ j _ => Writes Terms.free reg₀ j.registry)
      (fun _ j _ => Writes Terms.free reg₀ j.registry) := by
  rw [Call.ensures_map]
  exact (hx i ev h).mono (fun a _ _ hj => ⟨hj, fun p hp => absurd hp (hanswer a p)⟩)
    (fun _ _ _ h => h) fun _ _ _ h => h

omit [Library ω η τ] [Host ω] in
theorem Op.fits_of_proxy {op : Op η}
    {x : Call (Interceptor ω τ) InterceptError (Proxy η)}
    (hx : x.Ensures i ev
      (fun p j _ => Writes Terms.free reg₀ j.registry ∧
        Named info p j.registry ∧ op.Obtains p)
      (fun _ j _ => Writes Terms.free reg₀ j.registry)
      (fun _ j _ => Writes Terms.free reg₀ j.registry)) :
    (Answer.proxy <$> x.mapError (Refusal.failed : _ → Refusal η)).Ensures i ev
      (fun a j _ => Writes Terms.free reg₀ j.registry ∧
        a.Fits op info j.registry)
      (fun _ j _ => Writes Terms.free reg₀ j.registry)
      (fun _ j _ => Writes Terms.free reg₀ j.registry) := by
  rw [Call.ensures_map, Call.ensures_mapError]
  refine hx.mono ?_ (fun _ _ _ h => h) fun _ _ _ h => h
  rintro p j _ ⟨hj, hp⟩
  refine ⟨hj, fun p' heq => ?_⟩
  cases heq
  exact hp

/-- A proxy that an operation issues is one of what was asked for, and names
    the node of its object.  However the operation ends, it has written to the
    registry on free terms. -/
theorem Op.run_fits (hi : Identifies ω info) (memory : Memory) (op : Op η)
    (hs : i.registry.Sound) :
    (op.run memory).Ensures i []
      (fun a j _ => Writes Terms.free i.registry j.registry ∧
        a.Fits op info j.registry)
      (fun _ j _ => Writes Terms.free i.registry j.registry)
      (fun _ j _ => Writes Terms.free i.registry j.registry) := by
  have hfree := Terms.free_preserve i.registry
  have hstart : Writes Terms.free i.registry i.registry := .refl _ _
  cases op with
  | openFile access name =>
      refine fits_of_proxy ((openFile_preserves hfree memory access name
        hstart).mono ?_ (fun _ _ _ h => h) fun _ _ _ h => h)
      rintro p j _ ⟨⟨id, htarget⟩, hj⟩
      refine ⟨hj, fun node hnode => ?_, id, htarget⟩
      rw [htarget] at hnode
      cases hnode
  | closeFile proxy =>
      exact fits_of_keeps (fun _ _ h => nomatch h)
        ((closeFile_preserves hfree memory proxy).mapError _) hstart
  | openObject access parent kind name =>
      exact fits_of_proxy
        (openObject_named hi memory access parent kind name hs hstart)
  | closeObject proxy =>
      exact fits_of_keeps (fun _ _ h => nomatch h)
        ((closeObject_preserves hfree memory proxy).mapError _) hstart
  | readDataset proxy selected =>
      exact fits_of_keeps (fun _ _ h => nomatch h)
        ((transfer_preserves hfree memory _ proxy
          fun _ _ _ => Registry.onDataset_writes).mapError _) hstart
  | writeDataset proxy selected =>
      exact fits_of_keeps (fun _ _ h => nomatch h)
        ((transfer_preserves hfree memory _ proxy
          fun _ _ _ => Registry.onDataset_writes).mapError _) hstart
  | pin proxy =>
      exact fits_of_keeps (fun _ _ h => nomatch h)
        ((pin_preserves hfree memory proxy).mapError _) hstart
  | unpin context =>
      exact fits_of_keeps (fun _ _ h => nomatch h)
        (unpin_preserves hfree memory context) hstart
  | wrapObject raw kind context =>
      exact fits_of_proxy
        (wrapUnder_named hi memory .wrap context raw kind none hs hstart)
  | completeRequest parent raw kind name =>
      exact fits_of_proxy
        (wrapUnder_named hi memory .complete _ raw kind name hs hstart)
  | unwrapObject proxy =>
      exact fits_of_keeps (fun _ _ h => nomatch h)
        ((unwrapObject_preserves hfree memory proxy).mapError _) hstart

/-! ## Every run -/

/-- All proxies that are owned name the nodes of their objects, which are told
    apart by what they bear. -/
structure Identified (info : η → ObjectInfo τ) (owned : Multiset (Asset η))
    (reg : Registry τ Empty) : Prop where
  sound : reg.Sound
  distinct : reg.Distinct (· ≠ ·)
  named : ∀ {p}, .proxy p ∈ owned → Named info p reg

omit [Library ω η τ] [Host ω] in
/-- A proxy that stays owned keeps its node, and the node its token. -/
theorem Identified.next {owned owned' : Multiset (Asset η)}
    {reg reg' : Registry τ Empty} (h : Identified info owned reg)
    (hw : Writes Terms.free reg reg') (hc : reg'.Consistent (references owned'))
    (hnew : ∀ {p}, .proxy p ∈ owned' → .proxy p ∈ owned ∨ Named info p reg') :
    Identified info owned' reg' := by
  refine ⟨hw.sound h.sound, hw.distinct h.sound h.distinct, fun {p} hp => ?_⟩
  rcases hnew hp with hold | hnamed
  · intro node htarget
    refine (h.named hold node htarget).kept hw h.sound ?_
    have hmem := reference_mem_references hp
    rw [Asset.reference, htarget] at hmem
    exact (hc.node_iff node).mpr hmem
  · exact hnamed

omit [Library ω η τ] [Host ω] in
theorem Answer.Fits.named {op : Op η} {a : Answer η} {reg : Registry τ Empty}
    (h : a.Fits op info reg) {p : Proxy η} (hp : .proxy p ∈ a.issued) :
    Named info p reg := by
  cases a with
  | proxy q =>
      cases Multiset.mem_singleton.mp hp
      exact (h p rfl).1
  | context c => cases Multiset.mem_singleton.mp hp
  | remaining n => exact absurd hp (Multiset.notMem_zero _)
  | bytes n => exact absurd hp (Multiset.notMem_zero _)
  | raw r => exact absurd hp (Multiset.notMem_zero _)

theorem Reached.identified {owned : Multiset (Asset η)} (hs : SteadyClock ω)
    (hi : Identifies ω info) (h : Reached owned i) :
    Identified info owned i.registry := by
  induction h with
  | start memory config w h =>
      rw [(of_ofConfig h).2]
      exact ⟨Registry.sound_ofConfig config, Registry.distinct_ofConfig _ config,
        fun hp => absurd hp (Multiset.notMem_zero _)⟩
  | @step i memory op spent rest h hop ih =>
      have hrun := Op.run_fits hi memory op ih.sound
      have hconsistent := (h.step memory op spent rest hop).consistent hs
      rcases ho : (op.run memory i).outcome with a | e | f
      · rw [ho] at hconsistent
        obtain ⟨hw, ha⟩ := hrun.value ho
        refine ih.next hw hconsistent fun {p} hp => ?_
        rcases Multiset.mem_add.mp hp with hissued | hrest
        · exact Or.inr (ha.named hissued)
        · exact Or.inl (Multiset.mem_add.mpr (Or.inr hrest))
      · rw [ho] at hconsistent
        exact ih.next (hrun.error ho) hconsistent Or.inl
      · rw [ho] at hconsistent
        exact ih.next (hrun.fault ho) hconsistent Or.inl
  | other w _ ih => exact ih

end Interceptor

/-! ## The library in memory -/

namespace InMemory

/-- What the library says of a raw handle. -/
def Handle.info (raw : Handle) : ObjectInfo Token :=
  ⟨raw.container, .ofAddress raw.address⟩

theorem Handle.info_injective : Function.Injective Handle.info := by
  intro raw raw' h
  obtain ⟨hcontainer, htoken⟩ := ObjectInfo.mk.inj h
  obtain ⟨address, container⟩ := raw
  obtain ⟨address', container'⟩ := raw'
  obtain rfl : container = container' := hcontainer
  obtain rfl : address = address' := Token.ofAddress_inj htoken
  rfl

/-- A call that succeeds is its work on the tables. -/
theorem World.call_eq_ok {α : Type} {service : Service}
    {f : State → Except Cause α × State} {w w' : World} {a : α}
    (h : World.call service f w = (.ok a, w')) :
    (f w.library).1 = .ok a ∧ w'.library = (f w.library).2 := by
  by_cases hs : service ∈ w.library.failing
  · rw [World.call_of_mem f hs] at h
    cases h
  · rw [World.call_of_not_mem f hs] at h
    obtain ⟨ha, rfl⟩ := Prod.mk.inj h
    exact ⟨ha, rfl⟩

theorem cmp_of_answers {a b : Token} {order : Ordering}
    (h : Identity.Answers World a b order) : order = a.cmp b := by
  obtain ⟨raw, w, hw⟩ := h
  have hcompare : (World.compare a b w).outcome = .value order := hw
  rw [World.compare] at hcompare
  by_cases hfail : w.library.comparisonsFail = true
  · rw [if_pos hfail] at hcompare
    cases hcompare
  · rw [if_neg hfail] at hcompare
    cases hcompare
    rfl

/-- Handles are on one object when their addresses and containers are equal. -/
theorem identifies : Identifies World Handle.info where
  objectInfo_eq h := by
    obtain ⟨ha, -⟩ := World.call_eq_ok h
    cases ha
    rfl
  injective := Handle.info_injective
  eq_iff h := by
    rw [cmp_of_answers h, Token.cmp_eq_iff]

end InMemory

namespace Interceptor

open InMemory (World Handle)

/-- Over the library in memory, two object proxies that are owned at one time
    share a node just when they are of one kind and their raw handles are
    equal, and a proxy is in the container of its raw handle.  The kind of a
    proxy, and its raw handle if one was given, are what was asked for. -/
theorem Reached.object_identity {owned : Multiset (Asset Handle)}
    {i : Interceptor World Token} (h : Reached owned i) :
    (∀ p q node node', .proxy p ∈ owned → .proxy q ∈ owned →
      p.target = .object node → q.target = .object node' →
      (node = node' ↔ node.kind = node'.kind ∧ p.handle = q.handle)) ∧
    (∀ p node, .proxy p ∈ owned → p.target = .object node →
      p.target.containerId = p.handle.container) ∧
    ∀ (memory : Memory) (op : Op Handle) p,
      (op.run memory i).outcome = .value (.proxy p) → op.Obtains p := by
  have hall := h.identified InMemory.steadyClock InMemory.identifies
  refine ⟨fun p q node node' hp hq hpnode hqnode => ?_, fun p node hp hpnode => ?_,
    fun memory op p ho => ?_⟩
  · have hbears := hall.named hp node hpnode
    have hbears' := hall.named hq node' hqnode
    constructor
    · rintro rfl
      exact ⟨rfl, Handle.info_injective (hbears.info_eq hbears')⟩
    · rintro ⟨hkind, hhandle⟩
      rw [← hhandle] at hbears'
      exact hall.distinct.node_eq_of_bears hbears hbears' hkind
  · rw [hpnode]
    exact (hall.named hp node hpnode).1
  · have hrun := Op.run_fits InMemory.identifies memory op hall.sound
    exact ((hrun.value ho).2 p rfl).2

/-- A group is created in one file, and a request under that file completes
    with a raw handle on a group of the same address in another. -/
theorem object_identity_of_linked_group :
    ∃ i : Interceptor World Token,
      Reached
        ({.proxy ⟨⟨0x1020, ⟨7⟩⟩, ⟨1⟩, .object ⟨⟨7⟩, .group, ⟨2⟩⟩⟩}
          + ({.proxy ⟨⟨0x1020, ⟨1⟩⟩, ⟨1⟩, .object ⟨⟨1⟩, .group, ⟨1⟩⟩⟩}
            + {.proxy ⟨⟨0x1010, ⟨1⟩⟩, ⟨1⟩, .container ⟨1⟩⟩})) i ∧
        ((⟨⟨7⟩, .group, ⟨2⟩⟩ : NodeHandle) = ⟨⟨1⟩, .group, ⟨1⟩⟩ ↔
          Kind.group = .group ∧
            (⟨0x1020, ⟨7⟩⟩ : Handle) = ⟨0x1020, ⟨1⟩⟩) := by
  have hstart := Reached.start Memory.addressSpace
    { Config.default with statsCapacity := 1 } (World.new ⟨1⟩) rfl
  have hfile := hstart.step Memory.addressSpace
    (.openFile .created "f" : Op Handle) 0 0 rfl
  have hobject := hfile.step Memory.addressSpace
    (.openObject .created ⟨⟨0x1010, ⟨1⟩⟩, ⟨1⟩, .container ⟨1⟩⟩ .group "g" :
      Op Handle) 0
    {.proxy ⟨⟨0x1010, ⟨1⟩⟩, ⟨1⟩, .container ⟨1⟩⟩}
    ⟨rfl, Multiset.mem_singleton_self _⟩
  have hlinked := hobject.step Memory.addressSpace
    (.completeRequest ⟨⟨0x1010, ⟨1⟩⟩, ⟨1⟩, .container ⟨1⟩⟩ ⟨0x1020, ⟨7⟩⟩ .group
      none : Op Handle) 0
    ({.proxy ⟨⟨0x1020, ⟨1⟩⟩, ⟨1⟩, .object ⟨⟨1⟩, .group, ⟨1⟩⟩⟩}
      + {.proxy ⟨⟨0x1010, ⟨1⟩⟩, ⟨1⟩, .container ⟨1⟩⟩})
    ⟨rfl, Multiset.mem_add.mpr (Or.inr (Multiset.mem_singleton_self _))⟩
  exact ⟨_, hlinked, hlinked.object_identity.1 ⟨⟨0x1020, ⟨7⟩⟩, ⟨1⟩, _⟩
    ⟨⟨0x1020, ⟨1⟩⟩, ⟨1⟩, _⟩ ⟨⟨7⟩, .group, ⟨2⟩⟩ ⟨⟨1⟩, .group, ⟨1⟩⟩
    (Multiset.mem_add.mpr (Or.inl (Multiset.mem_singleton_self _)))
    (Multiset.mem_add.mpr (Or.inr (Multiset.mem_add.mpr
      (Or.inl (Multiset.mem_singleton_self _))))) rfl rfl⟩

end Interceptor

end Provenance
