import Mathlib.Data.List.Induction
import Provenance.Proofs.Registry.Conduct

/-! # Integrity of a registry

    A client may ask anything of a registry: release what it never held, use
    handles that are long gone, or go on after an operation that ended in a
    fault.  Whatever the requests were, the registry that they built is sound
    (`built_sound`): every entry is kept under its own name and counts its
    nodes, and every node is where its handle says, under a number of its own.

    Nor does a container go away under its nodes, or stay behind without
    references unless a release of it ended in a fault (`integrity`). -/

namespace Provenance.Registry

variable {ω η τ ρ : Type}

/-- A request of a client: an operation, with the memory and the world that it
    meets. -/
structure Request (ω η τ ρ : Type) where
  memory : Memory
  world : ω
  op : Op η τ ρ

/-- A request with all the memory there is, to a library that compares byte by
    byte. -/
def Request.plain (op : Op Unit Token ρ) : Request Bytewise Unit Token ρ :=
  ⟨Memory.addressSpace, .mk, op⟩

variable [Identity ω η τ]

/-- How a request to a registry ends. -/
def Request.perform (r : Request ω η τ ρ) (reg : Registry τ ρ) :
    Ending (ω × Registry τ ρ) RegistryError (Answer τ ρ) :=
  r.op.run r.memory (r.world, reg)

/-- The registry that is left after one request. -/
def Request.next (r : Request ω η τ ρ) (reg : Registry τ ρ) : Registry τ ρ :=
  (r.perform reg).state.2

/-- The registry that is left after requests, however each of them ended. -/
def after (reg : Registry τ ρ) (requests : List (Request ω η τ ρ)) :
    Registry τ ρ :=
  requests.foldl (fun reg r => r.next reg) reg

/-- The registry that requests build up from an empty one. -/
def built (config : Config) (requests : List (Request ω η τ ρ)) :
    Registry τ ρ :=
  after (.ofConfig config) requests

variable {reg : Registry τ ρ} {config : Config}

theorem after_append (reg : Registry τ ρ) (requests later : List (Request ω η τ ρ)) :
    after reg (requests ++ later) = after (after reg requests) later :=
  List.foldl_append

theorem built_concat (config : Config) (requests : List (Request ω η τ ρ))
    (r : Request ω η τ ρ) :
    built config (requests ++ [r]) = r.next (built config requests) :=
  after_append _ _ _

theorem Request.writes (r : Request ω η τ ρ) (hs : reg.Sound) :
    Writes (r.op.terms ω reg (r.perform reg).outcome) reg (r.next reg) :=
  Op.run_writes r.memory r.op hs

theorem Request.sound (r : Request ω η τ ρ) (hs : reg.Sound) :
    (r.next reg).Sound :=
  (r.writes hs).sound hs

theorem after_sound (hs : reg.Sound) (requests : List (Request ω η τ ρ)) :
    (after reg requests).Sound := by
  induction requests generalizing reg with
  | nil => exact hs
  | cons r rest ih => exact ih (r.sound hs)

/-- Requests of any kind build a sound registry. -/
theorem built_sound (config : Config) (requests : List (Request ω η τ ρ)) :
    (built config requests).Sound :=
  after_sound (sound_ofConfig config) requests

/-- The nodes of a container that goes away are none, but for the one whose
    last release takes the container away. -/
theorem Request.untracks_of_gone (r : Request ω η τ ρ) (hs : reg.Sound)
    {node : NodeHandle} {n : Node τ} (hn : reg.node? node = some n)
    (hgone : (r.next reg).container? node.container = none) :
    r.op = .untrack node ∧ n.refcount = 1 := by
  have hnone : (r.next reg).node? node = none := node?_of_container?_none hgone
  rcases ((r.writes hs).fate hs node).of_some hn with
    ⟨n', hn', -⟩ | ⟨-, hop, n', hn', hlast⟩
  · rw [hnone] at hn'
    cases hn'
  · rw [hn] at hn'
    cases hn'
    exact ⟨hop, hlast⟩

/-- A container without references was released once too often before, and is
    there since. -/
theorem exists_fault_of_unreferenced {requests : List (Request ω η τ ρ)}
    {id : ContainerId} (h : (built config requests).Unreferenced id) :
    ∃ before r since, requests = before ++ r :: since ∧ r.op.Releases id ∧
      (∃ counts, (r.perform (built config before)).outcome
        = .fault (.invariant (.freedWithNodes id counts))) ∧
      ∀ part, part <+: since →
        ∃ c, (built config (before ++ r :: part)).container? id = some c := by
  induction requests using List.reverseRecOn with
  | nil =>
      obtain ⟨c, hget, -⟩ := h
      cases hget
  | append_singleton requests r ih =>
      have hs := built_sound config requests
      have hpresent : ∃ c, (built config (requests ++ [r])).container? id = some c :=
        h.imp fun c hc => hc.1
      rw [built_concat] at h
      rcases (r.writes hs).unreferenced hs h with hold | ⟨hreleases, hfault⟩
      · -- it was without references already
        obtain ⟨before, r', since, rfl, hreleases, hfault, hsince⟩ := ih hold
        refine ⟨before, r', since ++ [r], ?_, hreleases, hfault, fun part hpart => ?_⟩
        · rw [List.append_assoc, List.cons_append]
        · rcases List.prefix_concat_iff.mp hpart with rfl | hpart
          · rw [List.append_assoc, List.cons_append] at hpresent
            exact hpresent
          · exact hsince part hpart
      · refine ⟨requests, r, [], rfl, hreleases, hfault, fun part hpart => ?_⟩
        rw [List.prefix_nil.mp hpart]
        exact hpresent

/-- Whatever was asked of a registry, it is sound.  The next request takes no
    container away while nodes are left in it: none was there before but for
    the one that it gives back the last reference on.  A container without
    references was left so by a release of it that ended in a fault. -/
theorem integrity (config : Config) (requests : List (Request ω η τ ρ)) :
    (built config requests).Sound ∧
    (∀ (r : Request ω η τ ρ) (node : NodeHandle) (n : Node τ),
      (built config requests).node? node = some n →
      (r.next (built config requests)).container? node.container = none →
      r.op = .untrack node ∧ n.refcount = 1) ∧
    ∀ id, (built config requests).Unreferenced id →
      ∃ before r since, requests = before ++ r :: since ∧ r.op.Releases id ∧
        (∃ counts, (r.perform (built config before)).outcome
          = .fault (.invariant (.freedWithNodes id counts))) ∧
        ∀ part, part <+: since →
          ∃ c, (built config (before ++ r :: part)).container? id = some c := by
  have hs := built_sound config requests
  refine ⟨hs, fun r node n hn hgone => r.untracks_of_gone hs hn hgone, ?_⟩
  exact fun id h => exists_fault_of_unreferenced h

/-- A container that was opened once and is released twice, under a node. -/
theorem integrity_of_released_twice :
    ∃ (before : List (Request Bytewise Unit Token Empty))
      (r : Request Bytewise Unit Token Empty), r.op.Releases ⟨1⟩ ∧
      ∃ counts, (r.perform (built Config.default before)).outcome
        = .fault (.invariant (.freedWithNodes ⟨1⟩ counts)) := by
  have hrun := integrity (ρ := Empty) Config.default
    [.plain (.openContainer ⟨1⟩ none),
      .plain (.track ⟨1⟩ .dataset (.ofAddress 5) none ()),
      .plain (.closeContainer ⟨1⟩), .plain (.closeContainer ⟨1⟩)]
  obtain ⟨before, r, -, -, hreleases, hfault, -⟩ := hrun.2.2 ⟨1⟩ ⟨_, rfl, rfl⟩
  exact ⟨before, r, hreleases, hfault⟩

end Provenance.Registry
