import Provenance.Proofs.Registry.Integrity
import Provenance.Proofs.Registry.Undo

/-! # Failed operations

    An operation of a registry that ends in an error has not touched it: no
    entry, no count and no number differs, whatever the registry was and
    whatever the library or the memory refused (`Op.run_spares`).  A track in a
    reported container is the one operation that puts something there before it
    can fail, and takes it away again.

    So a history leaves the same registry without the requests that failed
    (`failure_atomic`). -/

namespace Provenance.Registry

variable {ω η τ ρ : Type} {r : Registry τ ρ}

/-! ## One operation -/

theorem onContainer_spares (id : ContainerId) (f : Container τ ρ → Container τ ρ) :
    (onContainer id f).Spares fun reg _ => reg = r := by
  refine Call.spares_of_error (P := (· = r)) fun reg e he h => ?_
  simp only [onContainer] at he ⊢
  cases hget : reg.container? id with
  | some c =>
      rw [hget] at he
      cases he
  | none => exact h

theorem attach_spares (memory : Memory) (id : ContainerId) (resource : ρ) :
    (attach memory id resource : Call (Registry τ ρ) _ _).Spares
      fun reg _ => reg = r := by
  refine Call.spares_of_error (P := (· = r)) fun reg e he h => ?_
  simp only [attach] at he ⊢
  cases hget : reg.container? id with
  | none => exact h
  | some c =>
      simp only [hget] at he ⊢
      by_cases hm : memory.grants .attachments (16 * (c.attachments.length + 1)) = true
      · rw [if_pos hm] at he
        cases he
      · rw [if_neg hm]
        exact h

theorem verifyOpenThings_spares (containers datasets : Nat) :
    (verifyOpenThings containers datasets : Call (Registry τ ρ) _ _).Spares
      fun reg _ => reg = r := by
  refine Call.spares_of_error (P := (· = r)) fun reg _ _ h => ?_
  rw [verifyOpenThings_state]
  exact h

namespace Op

variable [Identity ω η τ]

/-- Whatever a registry was, an operation that fails leaves it so. -/
theorem run_spares (memory : Memory) (op : Op η τ ρ) :
    (op.run memory).Spares fun (s : ω × Registry τ ρ) _ => s.2 = r := by
  cases op with
  | openContainer id name =>
      exact (spares_alone (openContainer_spares memory id name)).map _
  | pinContainer id => exact (spares_alone (pinContainer_spares id)).map _
  | closeContainer id =>
      exact ((unfailing_alone (closeContainer_unfailing id)).map _).spares
  | track id kind token name raw =>
      exact (track_spares memory id kind token name raw).map _
  | trackIn home reported kind token name raw =>
      exact (trackIn_spares memory home reported kind token name raw).map _
  | untrack node => exact ((unfailing_alone (untrack_unfailing node)).map _).spares
  | setDatasetShape node typeSize dimensions =>
      exact (spares_alone (onDataset_spares node _)).map _
  | recordRead node selected elapsed =>
      exact (spares_alone (onDataset_spares node _)).map _
  | recordWrite node selected elapsed =>
      exact (spares_alone (onDataset_spares node _)).map _
  | recordCommit node => exact (spares_alone (onCounters_spares node _)).map _
  | recordGet node => exact (spares_alone (onCounters_spares node _)).map _
  | recordOp node => exact (spares_alone (onCounters_spares node _)).map _
  | recordCreated id kind => exact (spares_alone (onContainer_spares id _)).map _
  | recordAccessed id kind => exact (spares_alone (onContainer_spares id _)).map _
  | attach id resource =>
      exact (spares_alone (attach_spares memory id resource)).map _
  | verifyOpenThings containers datasets =>
      exact (spares_alone (verifyOpenThings_spares containers datasets)).map _

end Op

/-! ## Histories -/

section

variable [Identity ω η τ]

theorem Request.next_of_error (q : Request ω η τ ρ) {reg : Registry τ ρ}
    {e : RegistryError} (he : (q.perform reg).outcome = .error e) :
    q.next reg = reg :=
  (Op.run_spares q.memory q.op (q.world, reg) [] rfl).error he

/-- The requests of a history that do not end in an error. -/
def withoutFailures (reg : Registry τ ρ) :
    List (Request ω η τ ρ) → List (Request ω η τ ρ)
  | [] => []
  | q :: rest =>
      match (q.perform reg).outcome with
      | .error _ => withoutFailures reg rest
      | _ => q :: withoutFailures (q.next reg) rest

theorem after_withoutFailures (reg : Registry τ ρ)
    (requests : List (Request ω η τ ρ)) :
    after reg (withoutFailures reg requests) = after reg requests := by
  induction requests generalizing reg with
  | nil => rfl
  | cons q rest ih =>
      rw [withoutFailures]
      cases ho : (q.perform reg).outcome with
      | value a => exact ih (q.next reg)
      | fault f => exact ih (q.next reg)
      | error e =>
          -- the request that failed left the registry for the rest as it was
          show after reg (withoutFailures reg rest) = after (q.next reg) rest
          rw [q.next_of_error ho]
          exact ih reg

/-- A request that fails leaves the registry as it was, whatever that was.  So a
    history leaves the same registry without the requests that failed. -/
theorem failure_atomic (reg : Registry τ ρ) :
    (∀ (q : Request ω η τ ρ) (e : RegistryError),
      (q.perform reg).outcome = .error e → q.next reg = reg) ∧
    ∀ requests : List (Request ω η τ ρ),
      after reg (withoutFailures reg requests) = after reg requests :=
  ⟨fun q _ he => q.next_of_error he, after_withoutFailures reg⟩

end

/-- There is memory for the name of a placeholder, but none for that of the
    object found in it: the placeholder is gone again. -/
theorem failure_atomic_of_refused_name :
    ∃ q : Request Bytewise Unit Token Empty,
      (q.perform (built Config.default [.plain (.openContainer ⟨1⟩ none)])).outcome
        = .error (.outOfMemory "object name") ∧
      (q.next (built Config.default
        [.plain (.openContainer ⟨1⟩ none)])).container? ⟨2⟩ = none := by
  have hatomic := failure_atomic (ω := Bytewise) (η := Unit)
    (built (ρ := Empty) Config.default [.plain (.openContainer ⟨1⟩ none)])
  let q : Request Bytewise Unit Token Empty :=
    ⟨fun purpose _ => purpose == .placeholderName, .mk,
      .trackIn ⟨1⟩ ⟨2⟩ .dataset (.ofAddress 5) (some "d") ()⟩
  have he : (q.perform (built Config.default
      [.plain (.openContainer ⟨1⟩ none)])).outcome
        = .error (.outOfMemory "object name") := rfl
  refine ⟨q, he, ?_⟩
  rw [hatomic.1 q _ he]
  rfl

end Provenance.Registry
