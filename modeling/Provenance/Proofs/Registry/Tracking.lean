import Provenance.Proofs.Contract
import Provenance.Proofs.Registry.Writes
import Provenance.Registry.Track

/-! # What tracking does

    A search through the nodes of a list tells what the library answered of
    each of them: the one it finds names the object that is tracked, and when
    it finds none, all were told apart from it (`Identity.firstMatch_ensures`).

    So there are two ways in which tracking changes a registry (`Tracked`): a
    node that is there is tracked once more, or one is made, if need be in a
    placeholder.  Whatever else happens, the registry stays as it was.  All
    that is proved of tracking starts from here. -/

namespace Provenance

/-- A failure of a comparison or of the memory, not of the bookkeeping. -/
def RegistryError.Foreign : RegistryError → Prop
  | identity _ => True
  | outOfMemory _ => True
  | _ => False

namespace Identity

/-- A fault that some comparison ends in. -/
def Faults (ω : Type) {η τ : Type} [Identity ω η τ] (f : Fault) : Prop :=
  ∃ raw a b, ∃ w : ω, (compare raw a b w).outcome = .fault f

/-- An error that some comparison ends in. -/
def Fails (ω : Type) {η τ : Type} [Identity ω η τ] (e : IdentityError) : Prop :=
  ∃ raw a b, ∃ w : ω, (compare raw a b w).outcome = .error e

/-- An answer that some comparison of two tokens gives. -/
def Answers (ω : Type) {η τ : Type} [Identity ω η τ] (a b : τ)
    (order : Ordering) : Prop :=
  ∃ raw, ∃ w : ω, (compare raw a b w).outcome = .value order

/-- Some comparison tells two tokens apart. -/
def Differ (ω : Type) {η τ : Type} [Identity ω η τ] (a b : τ) : Prop :=
  ∃ order, order ≠ .eq ∧ Answers ω a b order

variable {ω η τ α : Type} [Identity ω η τ] {P : ω → List Event → Prop}

/-- Where nothing is asked of the library, there is nothing to keep. -/
theorem compare_keeps_true (raw : η) (a b : τ) :
    (compare raw a b).Keeps fun (_ : ω) _ => True :=
  Call.keeps_of_state fun _ h => h

theorem compare_ensures (hP : ∀ raw a b, (compare raw a b).Keeps P) (raw : η)
    (a b : τ) {w : ω} {ev : List Event} (hw : P w ev) :
    (compare raw a b).Ensures w ev
      (fun order w' ev' => P w' ev' ∧ Answers ω a b order)
      (fun e w' ev' => P w' ev' ∧ Fails ω e)
      (fun f w' ev' => P w' ev' ∧ Faults ω f) := by
  have hcmp := hP raw a b w ev hw
  simp only [Call.Ensures] at hcmp ⊢
  rcases hx : compare raw a b w with ⟨order | e | f, w', new⟩ <;> rw [hx] at hcmp
  · exact ⟨hcmp, raw, w, by rw [hx]⟩
  · exact ⟨hcmp, raw, a, b, w, by rw [hx]⟩
  · exact ⟨hcmp, raw, a, b, w, by rw [hx]⟩

/-- The search for a node finds a candidate that names the object, or has told
    all of them apart from it.  It fails and faults only where a comparison
    does. -/
theorem firstMatch_ensures (hP : ∀ raw a b, (compare raw a b).Keeps P)
    (tokenOf : α → τ) (raw : η) (token : τ) (l : List α) :
    ∀ (w : ω) (ev : List Event), P w ev →
      (firstMatch tokenOf raw token l).Ensures w ev
        (fun found w' ev' => P w' ev' ∧
          (∀ a, found = some a → a ∈ l ∧ Answers ω (tokenOf a) token .eq) ∧
          (found = none → ∀ a ∈ l, Differ ω (tokenOf a) token))
        (fun e w' ev' => P w' ev' ∧ Fails ω e)
        (fun f w' ev' => P w' ev' ∧ Faults ω f ∧ l ≠ []) := by
  induction l with
  | nil =>
      intro w ev hw
      rw [firstMatch, Call.ensures_pure]
      exact ⟨hw, fun a h => (nomatch h), fun _ a h => nomatch h⟩
  | cons a rest ih =>
      intro w ev hw
      rw [firstMatch, Call.ensures_bind, sameObject, Call.ensures_bind]
      refine (compare_ensures hP raw (tokenOf a) token hw).mono ?_ ?_ ?_
      · rintro order w' ev' ⟨hw', hanswer⟩
        rw [Call.ensures_pure]
        by_cases ho : (order == .eq) = true
        · obtain rfl : order = .eq := eq_of_beq ho
          rw [if_pos ho, Call.ensures_pure]
          refine ⟨hw', fun b hb => ?_, fun h => nomatch h⟩
          cases hb
          exact ⟨List.mem_cons_self, hanswer⟩
        · rw [if_neg ho]
          refine (ih w' ev' hw').mono ?_ ?_ ?_
          · rintro found w'' ev'' ⟨hw'', hsome, hnone⟩
            refine ⟨hw'', fun b hb => ?_, fun h b hb => ?_⟩
            · exact (hsome b hb).imp_left (List.mem_cons_of_mem a)
            · rcases List.mem_cons.mp hb with rfl | hb
              · exact ⟨order, fun heq => ho (beq_of_eq heq), hanswer⟩
              · exact hnone h b hb
          · exact fun _ _ _ h => h
          · exact fun _ _ _ h => ⟨h.1, h.2.1, List.cons_ne_nil a rest⟩
      · exact fun _ _ _ h => h
      · exact fun _ _ _ h => ⟨h.1, h.2, List.cons_ne_nil a rest⟩

end Identity

namespace Registry

variable {ω η τ ρ ε : Type} {reg reg' : Registry τ ρ} {id : ContainerId}
  {kind : Kind} {ev : List Event}

@[simp]
theorem ensures_alone {α : Type} (x : Call (Registry τ ρ) ε α) {w : ω}
    {V : α → ω × Registry τ ρ → List Event → Prop}
    {E : ε → ω × Registry τ ρ → List Event → Prop}
    {F : Fault → ω × Registry τ ρ → List Event → Prop} :
    (alone x).Ensures (w, reg) ev V E F ↔
      x.Ensures reg ev (fun a reg' => V a (w, reg')) (fun e reg' => E e (w, reg'))
        (fun f reg' => F f (w, reg')) :=
  Call.ensures_focus _ _ x

@[simp]
theorem ensures_ask {α : Type} (x : Call ω IdentityError α) {w : ω}
    {V : α → ω × Registry τ ρ → List Event → Prop}
    {E : RegistryError → ω × Registry τ ρ → List Event → Prop}
    {F : Fault → ω × Registry τ ρ → List Event → Prop} :
    (ask x).Ensures (w, reg) ev V E F ↔
      x.Ensures w ev (fun a w' => V a (w', reg))
        (fun e w' => E (.identity e) (w', reg)) (fun f w' => F f (w', reg)) := by
  rw [ask, Call.ensures_focus, Call.ensures_mapError]

/-- What tracking does to a registry, with the handle that it answers. -/
inductive Tracked (ω : Type) {η τ ρ : Type} [Identity ω η τ] (memory : Memory)
    (reg : Registry τ ρ) (id : ContainerId) (kind : Kind) (token : τ)
    (name : Option String) : NodeHandle → Registry τ ρ → Prop
  /-- A node is tracked once more. -/
  | reused {c : Container τ ρ} {n : Node τ} (hget : reg.container? id = some c)
      (hn : c.node? kind n.id = some n) (heq : Identity.Answers ω n.token token .eq) :
      Tracked ω memory reg id kind token name ⟨id, kind, n.id⟩
        (reg.put (c.putNode kind n.again))
  /-- A node is made, with the next number. -/
  | made {c : Container τ ρ} (hsite : reg.Site id c)
      (hgrants : grantsName memory .objectName name = true)
      (hdiffer : ∀ n ∈ c.newestFirst kind, Identity.Differ ω n.token token) :
      Tracked ω memory reg id kind token name ⟨id, kind, ⟨reg.nextNode⟩⟩
        ({ reg with nextNode := reg.nextNode + 1 }.put
          (c.addNode kind (.first ⟨reg.nextNode⟩ id kind token name)))

theorem Tracked.place {ω η τ ρ : Type} [Identity ω η τ] {memory : Memory}
    {reg reg' : Registry τ ρ} {id : ContainerId} {kind : Kind} {token : τ}
    {name : Option String} {node : NodeHandle}
    (h : Tracked ω memory reg id kind token name node reg') :
    node.container = id ∧ node.kind = kind := by
  cases h <;> exact ⟨rfl, rfl⟩

/-- The handle that tracking answers resolves to a node with the token that was
    tracked, or with one that a comparison found equal. -/
theorem Tracked.resolves {ω η τ ρ : Type} [Identity ω η τ] {memory : Memory}
    {reg reg' : Registry τ ρ} {id : ContainerId} {kind : Kind} {token : τ}
    {name : Option String} {node : NodeHandle}
    (h : Tracked ω memory reg id kind token name node reg') (hs : reg.Sound) :
    ∃ n, reg'.node? node = some n ∧
      (n.token = token ∨ Identity.Answers ω n.token token .eq) := by
  cases h with
  | @reused c n hget hn heq =>
      have hid : (c.putNode kind n.again).id = id := (hs.entry hget).id_eq
      refine ⟨n.again, ?_, Or.inr heq⟩
      rw [node?_put, if_pos hid, Container.node?_putNode, if_pos ⟨rfl, rfl⟩]
  | @made c hsite _ _ =>
      have hid : (c.addNode kind (.first ⟨reg.nextNode⟩ id kind token name)).id
          = id := (hsite.sound hs.entry).id_eq
      refine ⟨.first ⟨reg.nextNode⟩ id kind token name, ?_, Or.inl rfl⟩
      rw [node?_put, if_pos hid, Container.node?_addNode, if_pos ⟨rfl, rfl⟩]

/-- Why tracking fails in an open container: a comparison does, or no node names
    the object and there is no memory for its name. -/
inductive TrackError (ω : Type) {η τ ρ : Type} [Identity ω η τ] (memory : Memory)
    (c : Container τ ρ) (kind : Kind) (token : τ) (name : Option String) :
    RegistryError → Prop
  | identity {e : IdentityError} (he : Identity.Fails ω e) :
      TrackError ω memory c kind token name (.identity e)
  | name (hgrants : grantsName memory .objectName name = false)
      (hdiffer : ∀ n ∈ c.newestFirst kind, Identity.Differ ω n.token token) :
      TrackError ω memory c kind token name
        (.outOfMemory Purpose.objectName.text)

theorem TrackError.foreign {ω η τ ρ : Type} [Identity ω η τ] {memory : Memory}
    {c : Container τ ρ} {kind : Kind} {token : τ} {name : Option String}
    {e : RegistryError} (h : TrackError ω memory c kind token name e) :
    e.Foreign := by
  cases h <;> trivial

/-- Why tracking in a reported container fails: tracking there does, there is no
    memory for the name of a placeholder, or the container is the one asked for
    and is not open. -/
inductive TrackInError (ω : Type) {η τ ρ : Type} [Identity ω η τ]
    (memory : Memory) (reg : Registry τ ρ) (home reported : ContainerId)
    (kind : Kind) (token : τ) (name : Option String) : RegistryError → Prop
  | track {c : Container τ ρ} {e : RegistryError}
      (he : TrackError ω memory c kind token name e) :
      TrackInError ω memory reg home reported kind token name e
  | placeholder (hrefused : grantsName memory .placeholderName
      (some reg.placeholderName) = false) :
      TrackInError ω memory reg home reported kind token name
        (.outOfMemory Purpose.placeholderName.text)
  | notOpen {e : RegistryError} (hhome : reported = home)
      (hget : reg.container? home = none) :
      TrackInError ω memory reg home reported kind token name e

theorem TrackInError.foreign {ω η τ ρ : Type} [Identity ω η τ] {memory : Memory}
    {reg : Registry τ ρ} {home reported : ContainerId} {kind : Kind} {token : τ}
    {name : Option String} {e : RegistryError}
    (h : TrackInError ω memory reg home reported kind token name e) :
    e.Foreign ∨ reported = home ∧ reg.container? home = none := by
  cases h with
  | track he => exact Or.inl he.foreign
  | placeholder => exact Or.inl trivial
  | notOpen hhome hget => exact Or.inr ⟨hhome, hget⟩

theorem reuseNode_apply {c : Container τ ρ} {n : Node τ}
    (hget : reg.container? id = some c) (hn : c.node? kind n.id = some n)
    (hhandle : n.handle = ⟨id, kind, n.id⟩) :
    (reuseNode ⟨id, kind, n.id⟩ : Call (Registry τ ρ) ε NodeHandle) reg
      = ⟨.value ⟨id, kind, n.id⟩, reg.put (c.putNode kind n.again), []⟩ := by
  simp only [reuseNode, hget, hn, hhandle]

theorem makeNode_apply {c : Container τ ρ} (memory : Memory) (kind : Kind)
    (token : τ) (name : Option String) (hget : reg.container? id = some c) :
    makeNode memory id kind token name reg
      = if grantsName memory .objectName name then
          ⟨.value ⟨id, kind, ⟨reg.nextNode⟩⟩,
            { reg with nextNode := reg.nextNode + 1 }.put
              (c.addNode kind (.first ⟨reg.nextNode⟩ id kind token name)), []⟩
        else ⟨.error (.outOfMemory Purpose.objectName.text), reg, []⟩ := by
  simp only [makeNode, hget]
  rfl

section

variable [Identity ω η τ] {P : ω → List Event → Prop} {w : ω}

/-- Tracking in an open container.  It only faults on a comparison with one of
    the nodes already there. -/
theorem track_tracked_of_some {c : Container τ ρ}
    (hP : ∀ raw a b, (Identity.compare raw a b).Keeps P) (memory : Memory)
    (kind : Kind) (token : τ) (name : Option String) (raw : η)
    (hget : reg.container? id = some c) (hc : c.Sound reg.nextNode id)
    (hw : P w ev) :
    (track memory id kind token name raw).Ensures (w, reg) ev
      (fun node s ev' => P s.1 ev' ∧
        Tracked ω memory reg id kind token name node s.2)
      (fun e s ev' => P s.1 ev' ∧ s.2 = reg ∧
        TrackError ω memory c kind token name e)
      (fun f s ev' => P s.1 ev' ∧ s.2 = reg ∧ Identity.Faults ω f ∧
        c.newestFirst kind ≠ []) := by
  rw [track, Call.ensures_bind, Call.ensures_state]
  simp only [hget]
  rw [Call.ensures_bind, ensures_ask]
  refine (Identity.firstMatch_ensures hP Node.token raw token
    (c.newestFirst kind) w ev hw).mono ?_ ?_ ?_
  · rintro found w' ev' ⟨hw', hsome, hnone⟩
    cases found with
    | none =>
        rw [ensures_alone]
        have hmake := makeNode_apply memory kind token name hget
        by_cases hm : grantsName memory .objectName name
        · rw [if_pos hm] at hmake
          refine Call.Ensures.of_eq hmake ?_
          rw [List.append_nil]
          exact ⟨hw', .made (Or.inl hget) hm (hnone rfl)⟩
        · rw [if_neg hm] at hmake
          refine Call.Ensures.of_eq hmake ?_
          rw [List.append_nil]
          exact ⟨hw', rfl, .name (Bool.eq_false_iff.mpr hm) (hnone rfl)⟩
    | some n =>
        -- a candidate is one of the nodes, found under its own number
        obtain ⟨hmem, heq⟩ := hsome n rfl
        obtain ⟨m, hm⟩ : ∃ m, c.node? kind m = some n :=
          IdMap.mem_values_iff.mp (List.mem_reverse.mp hmem)
        obtain rfl : n.id = m := hc.number_eq hm
        rw [ensures_alone]
        refine Call.Ensures.of_eq (reuseNode_apply hget hm (hc.handle_eq hm)) ?_
        rw [List.append_nil]
        exact ⟨hw', .reused hget hm heq⟩
  · exact fun e w' ev' h => ⟨h.1, rfl, .identity h.2⟩
  · exact fun f w' ev' h => ⟨h.1, rfl, h.2⟩

/-- A failure of tracking is one of the comparison or of the memory, or the
    container is not open. -/
theorem track_tracked (hP : ∀ raw a b, (Identity.compare raw a b).Keeps P)
    (memory : Memory) (kind : Kind) (token : τ) (name : Option String) (raw : η)
    (hentry : ∀ {c}, reg.container? id = some c → c.Sound reg.nextNode id)
    (hw : P w ev) :
    (track memory id kind token name raw).Ensures (w, reg) ev
      (fun node s ev' => P s.1 ev' ∧
        Tracked ω memory reg id kind token name node s.2)
      (fun e s ev' => P s.1 ev' ∧ s.2 = reg ∧
        ((∃ c : Container τ ρ, TrackError ω memory c kind token name e) ∨
          reg.container? id = none))
      (fun f s ev' => P s.1 ev' ∧ s.2 = reg ∧ Identity.Faults ω f) := by
  cases hget : reg.container? id with
  | some c =>
      refine (track_tracked_of_some hP memory kind token name raw hget
        (hentry hget) hw).mono (fun _ _ _ h => h) ?_ ?_
      · exact fun e s ev' ⟨hw', hreg, he⟩ => ⟨hw', hreg, Or.inl ⟨c, he⟩⟩
      · exact fun f s ev' ⟨hw', hreg, hf, _⟩ => ⟨hw', hreg, hf⟩
  | none =>
      rw [track, Call.ensures_bind, Call.ensures_state]
      simp only [hget]
      rw [Call.ensures_fail]
      exact ⟨hw, rfl, Or.inr trivial⟩

/-- To track in a placeholder that was just put is to track in a registry
    without it. -/
theorem Tracked.of_placeholder {title : Option String} {token : τ}
    {name : Option String} {memory : Memory} {node : NodeHandle}
    (hget : reg.container? id = none)
    (h : Tracked ω memory (reg.put (.fresh id title true)) id kind token name
      node reg') : Tracked ω memory reg id kind token name node reg' := by
  have hput : (reg.put (.fresh id title true)).container? id
      = some (.fresh id title true) :=
    (container?_put _ _ _).trans (if_pos rfl)
  cases h with
  | reused hget' hn =>
      rw [hput] at hget'
      cases hget'
      simp at hn
  | @made c hsite hgrants hdiffer =>
      obtain rfl : Container.fresh id title true = c := by
        rcases hsite with hget' | ⟨hget', -⟩
        · rw [hput] at hget'
          exact Option.some.inj hget'
        · rw [hput] at hget'
          cases hget'
      have hmade := Tracked.made (Or.inr ⟨hget, title, rfl⟩) hgrants hdiffer
      rw [← put_put { reg with nextNode := reg.nextNode + 1 }
        (Container.id_addNode (.fresh id title true) _ _)] at hmade
      exact hmade

/-- A placeholder goes away without a trace when the tracking in it fails. -/
theorem trackIn_tracked (hP : ∀ raw a b, (Identity.compare raw a b).Keeps P)
    (memory : Memory) (home reported : ContainerId) (kind : Kind) (token : τ)
    (name : Option String) (raw : η)
    (hentry : ∀ {c}, reg.container? reported = some c →
      c.Sound reg.nextNode reported) (hw : P w ev) :
    (trackIn memory home reported kind token name raw).Ensures (w, reg) ev
      (fun node s ev' => P s.1 ev' ∧
        Tracked ω memory reg reported kind token name node s.2)
      (fun e s ev' => P s.1 ev' ∧ s.2 = reg ∧
        TrackInError ω memory reg home reported kind token name e)
      (fun f s ev' => P s.1 ev' ∧ s.2 = reg ∧ Identity.Faults ω f) := by
  rw [trackIn, Call.ensures_bind, Call.ensures_state]
  dsimp only
  by_cases hknown : reported = home ∨ reg.containers.contains reported
  · rw [if_pos hknown]
    refine (track_tracked hP memory kind token name raw hentry hw).mono
      (fun _ _ _ h => h) ?_ fun _ _ _ h => h
    rintro e s ev' ⟨hw', hreg, ⟨c, he⟩ | hget⟩
    · exact ⟨hw', hreg, .track he⟩
    · have hcontains : reg.containers.contains reported
          = (reg.container? reported).isSome := rfl
      rw [hcontains, hget] at hknown
      obtain rfl : reported = home := hknown.resolve_right Bool.false_ne_true
      exact ⟨hw', hreg, .notOpen rfl hget⟩
  · have hget : reg.container? reported = none :=
      Option.not_isSome_iff_eq_none.mp fun hsome => hknown (Or.inr hsome)
    rw [if_neg hknown, Call.ensures_bind, ensures_alone]
    by_cases hm : grantsName memory .placeholderName (some reg.placeholderName)
    · have hput : makePlaceholder memory reported reg
          = ⟨.value (),
            reg.put (.fresh reported (some reg.placeholderName) true), []⟩ :=
        if_pos hm
      have hget' : (reg.put (.fresh reported (some reg.placeholderName)
          true)).container? reported
          = some (.fresh reported (some reg.placeholderName) true) :=
        (container?_put _ _ _).trans (if_pos rfl)
      refine Call.Ensures.of_eq hput ?_
      rw [List.append_nil, Call.ensures_onError]
      refine (track_tracked_of_some hP memory kind token name raw hget'
        (Container.sound_fresh _ _ _ _) hw).mono ?_ ?_ ?_
      · exact fun node s ev' h => ⟨h.1, h.2.of_placeholder hget⟩
      · rintro e ⟨w', _⟩ ev' ⟨hw', rfl, he⟩
        rw [ensures_alone, Call.ensures_modify]
        exact ⟨hw', remove_put reg hget, .track he⟩
      · -- an entry without nodes asks the library nothing
        rintro f s ev' ⟨-, -, -, hne⟩
        simp [Container.newestFirst, Container.fresh] at hne
    · have hput : makePlaceholder memory reported reg
          = ⟨.error (.outOfMemory Purpose.placeholderName.text), reg, []⟩ :=
        if_neg hm
      refine Call.Ensures.of_eq hput ?_
      rw [List.append_nil]
      exact ⟨hw, rfl, .placeholder (Bool.eq_false_iff.mpr hm)⟩

end

end Registry

end Provenance
