import Mathlib.Algebra.BigOperators.Group.Finset.Basic
import Provenance.Proofs.Registry.Loan
import Provenance.Proofs.Registry.Stakes
import Provenance.Shared

/-! # Clients of a shared registry

    Several clients work on one registry behind a lock, each by a script of its
    own; which of them comes next is left open, so a session is a list of turns
    of which each client has made those of its script, in order
    (`Interleaves`).

    A script is written before it is known which handles will be answered, so
    it gives references back by the request that took them (`Command`).  What
    it claims at each point is known from the script alone (`Ledger`), and that
    is what it is held to: to pin and to track only where it has a claim, and
    to give back only what it has (`Disciplined`).  The references that stand
    behind those claims are known to the session (`Session.taken`), and side by
    side the two are the stakes of the client (`outstanding`). -/

namespace Provenance.Registry

variable {ι ω η τ ρ : Type}

/-! ## Scripts -/

/-- What a client does in one turn. -/
inductive Command (η τ ρ : Type) where
  /-- It asks for an operation. -/
  | ask (op : Op η τ ρ)
  /-- It gives back the reference that its request of that number took. -/
  | giveBack (request : Nat)

/-- What an operation claims. -/
def Op.claim? : Op η τ ρ → Option (Claim τ)
  | openContainer id _ => some (.hold id)
  | pinContainer id => some (.hold id)
  | track id kind token _ _ => some (.object id kind token)
  | trackIn _ reported kind token _ _ => some (.object reported kind token)
  | _ => none

/-- The claims of a client by request.  Those that were given back are gone. -/
abbrev Ledger (τ : Type) := List (Option (Claim τ))

/-- There is a claim on the container, or on an object in it. -/
def Ledger.Holds (ledger : Ledger τ) (id : ContainerId) : Prop :=
  ∃ claim, some claim ∈ ledger ∧ claim.container = id

/-- The operation takes a reference.  A container that it relies on is one of
    which `P` holds: it may be opened in any case, and so may an object that is
    reported in another container than the one it was asked for. -/
def Op.Allowed (P : ContainerId → Prop) : Op η τ ρ → Prop
  | openContainer .. => True
  | pinContainer id => P id
  | track id .. => P id
  | trackIn home reported .. => reported ≠ home ∨ P home
  | _ => False

theorem Op.Allowed.mono {P P' : ContainerId → Prop} {op : Op η τ ρ}
    (h : op.Allowed P) (hP : ∀ id, P id → P' id) : op.Allowed P' := by
  cases op with
  | openContainer => trivial
  | pinContainer id => exact hP id h
  | track id => exact hP id h
  | trackIn home => exact h.imp_right (hP home)
  | _ => exact h.elim

namespace Command

/-- What a command does to the claims of its client. -/
def book : Command η τ ρ → Ledger τ → Ledger τ
  | ask op, ledger => ledger ++ [op.claim?]
  | giveBack k, ledger => ledger.set k none

/-- The command relies on the claims of its client alone. -/
def Disciplined (ledger : Ledger τ) : Command η τ ρ → Prop
  | ask op => op.Allowed ledger.Holds
  | giveBack k => ∃ claim, ledger[k]? = some (some claim)

/-- The operation that a command comes to, if there is a reference to give
    back. -/
def op? (taken : List (Option Reference)) : Command η τ ρ → Option (Op η τ ρ)
  | ask op => some op
  | giveBack k => taken[k]?.join.map Reference.release

end Command

/-- The claims after a script. -/
def booked (script : List (Command η τ ρ)) : Ledger τ :=
  script.foldl (fun ledger c => c.book ledger) []

/-- Each command of a script relies on the claims that its client has by then,
    those of the ledger to begin with. -/
def Disciplined : Ledger τ → List (Command η τ ρ) → Prop
  | _, [] => True
  | ledger, c :: rest => c.Disciplined ledger ∧ Disciplined (c.book ledger) rest

theorem booked_concat (script : List (Command η τ ρ)) (c : Command η τ ρ) :
    booked (script ++ [c]) = c.book (booked script) :=
  List.foldl_append

theorem disciplined_append {ledger : Ledger τ} {part rest : List (Command η τ ρ)} :
    Disciplined ledger (part ++ rest) ↔ Disciplined ledger part ∧
      Disciplined (part.foldl (fun ledger c => c.book ledger) ledger) rest := by
  induction part generalizing ledger with
  | nil => exact (true_and _).symm ▸ Iff.rfl
  | cons c part ih => exact (and_congr_right fun _ => ih).trans and_assoc.symm

theorem Disciplined.of_part {part script : List (Command η τ ρ)}
    (h : Disciplined [] script) (hpart : part <+: script) :
    Disciplined [] part := by
  obtain ⟨rest, rfl⟩ := hpart
  exact (disciplined_append.mp h).1

/-- The last command of a part of a script. -/
theorem Disciplined.of_part_concat {part script : List (Command η τ ρ)}
    {c : Command η τ ρ} (h : Disciplined [] script)
    (hpart : part ++ [c] <+: script) : c.Disciplined (booked part) :=
  (disciplined_append.mp (h.of_part hpart)).2.1

/-! ## Sessions -/

/-- A registry behind a lock, and what its clients took of it. -/
structure Session (ι ω τ ρ : Type) where
  shared : Shared (ω × Registry τ ρ)
  /-- The references that a client took, by request. -/
  taken : ι → List (Option Reference)

/-- A command of a client. -/
structure Turn (ι η τ ρ : Type) where
  client : ι
  command : Command η τ ρ

/-- The reference that an operation took, if it ended so. -/
def Op.reference? : Op η τ ρ → Outcome RegistryError (Answer τ ρ) →
    Option Reference
  | openContainer id _, .value _ => some (.opened id)
  | pinContainer id, .value _ => some (.pinned id)
  | track .., .value (.node node) => some (.tracked node)
  | trackIn .., .value (.node node) => some (.tracked node)
  | _, _ => none

/-- The references of a client after one more command. -/
def Command.keep (outcome : Outcome RegistryError (Answer τ ρ)) :
    Command η τ ρ → List (Option Reference) → List (Option Reference)
  | ask op, taken => taken ++ [op.reference? outcome]
  | giveBack _, taken => taken

/-- The commands that a client has among the turns. -/
def commandsOf [DecidableEq ι] (i : ι) (turns : List (Turn ι η τ ρ)) :
    List (Command η τ ρ) :=
  (turns.filter fun t => t.client = i).map Turn.command

/-- The turns are those of the scripts, in an order that each of them keeps. -/
def Interleaves [DecidableEq ι] (turns : List (Turn ι η τ ρ))
    (scripts : ι → List (Command η τ ρ)) : Prop :=
  ∀ i, commandsOf i turns = scripts i

namespace Session

variable [Identity ω η τ] [DecidableEq ι]

/-- A session of clients that took nothing yet. -/
def start (w : ω) (reg : Registry τ ρ) : Session ι ω τ ρ :=
  ⟨.ofValue (w, reg), fun _ => []⟩

/-- The registry of a session. -/
def registry (s : Session ι ω τ ρ) : Registry τ ρ := s.shared.value.2

/-- How a turn ends.  There is no ending if nothing is asked of the registry. -/
def ending? (memory : Memory) (s : Session ι ω τ ρ) (t : Turn ι η τ ρ) :
    Option (Ending (Shared (ω × Registry τ ρ)) RegistryError (Answer τ ρ)) :=
  (t.command.op? (s.taken t.client)).map fun op =>
    Shared.run .lockPoisoned (op.run memory) s.shared

/-- The session after one turn. -/
def next (memory : Memory) (s : Session ι ω τ ρ) (t : Turn ι η τ ρ) :
    Session ι ω τ ρ :=
  match s.ending? memory t with
  | none => s
  | some r =>
      ⟨r.state, Function.update s.taken t.client
        (t.command.keep r.outcome (s.taken t.client))⟩

/-- The session after turns. -/
def after (memory : Memory) (s : Session ι ω τ ρ) (turns : List (Turn ι η τ ρ)) :
    Session ι ω τ ρ :=
  turns.foldl (next memory) s

theorem after_concat (memory : Memory) (s : Session ι ω τ ρ)
    (turns : List (Turn ι η τ ρ)) (t : Turn ι η τ ρ) :
    s.after memory (turns ++ [t]) = (s.after memory turns).next memory t :=
  List.foldl_append

end Session

section

variable [DecidableEq ι]

theorem commandsOf_concat (i : ι) (turns : List (Turn ι η τ ρ))
    (t : Turn ι η τ ρ) :
    commandsOf i (turns ++ [t])
      = if t.client = i then commandsOf i turns ++ [t.command]
        else commandsOf i turns := by
  simp only [commandsOf, List.filter_append, List.map_append]
  by_cases h : t.client = i
  · rw [if_pos h, List.filter_cons_of_pos (by exact decide_eq_true h)]
    rfl
  · rw [if_neg h, List.filter_cons_of_neg (by simpa using h)]
    exact List.append_nil _

theorem commandsOf_client_concat (turns : List (Turn ι η τ ρ))
    (t : Turn ι η τ ρ) :
    commandsOf t.client (turns ++ [t]) = commandsOf t.client turns ++ [t.command] :=
  (commandsOf_concat t.client turns t).trans (if_pos rfl)

theorem commandsOf_part (i : ι) {part turns : List (Turn ι η τ ρ)}
    (h : part <+: turns) : commandsOf i part <+: commandsOf i turns := by
  obtain ⟨rest, rfl⟩ := h
  exact ⟨commandsOf i rest, by simp [commandsOf]⟩

/-- What a turn changes for its client, and for nobody else. -/
theorem booked_commandsOf_concat (i : ι) (turns : List (Turn ι η τ ρ))
    (t : Turn ι η τ ρ) :
    booked (commandsOf i (turns ++ [t]))
      = if t.client = i then t.command.book (booked (commandsOf i turns))
        else booked (commandsOf i turns) := by
  rw [commandsOf_concat]
  by_cases h : t.client = i
  · rw [if_pos h, if_pos h, booked_concat]
  · rw [if_neg h, if_neg h]

end

/-! ## Claims and references side by side -/

/-- A claim has a reference behind it. -/
def Backing (claim? : Option (Claim τ)) (reference? : Option Reference) : Prop :=
  claim?.isSome → reference?.isSome

/-- The claims of a client with the references behind them. -/
def outstanding : Ledger τ → List (Option Reference) →
    Multiset (Claim τ × Reference)
  | some claim :: ledger, some r :: taken => (claim, r) ::ₘ outstanding ledger taken
  | _ :: ledger, _ :: taken => outstanding ledger taken
  | _, _ => 0

variable {ledger : Ledger τ} {taken : List (Option Reference)}
  {claim : Claim τ} {r : Reference}

@[simp]
theorem outstanding_some (claim : Claim τ) (r : Reference) (ledger : Ledger τ)
    (taken : List (Option Reference)) :
    outstanding (some claim :: ledger) (some r :: taken)
      = (claim, r) ::ₘ outstanding ledger taken := rfl

theorem outstanding_concat (h : List.Forall₂ Backing ledger taken)
    (claim : Claim τ) (r : Reference) :
    outstanding (ledger ++ [some claim]) (taken ++ [some r])
      = (claim, r) ::ₘ outstanding ledger taken := by
  induction h with
  | nil => rfl
  | @cons claim? reference? ledger taken hb _ ih =>
      cases claim? with
      | none => exact ih
      | some c =>
          obtain ⟨r', rfl⟩ := Option.isSome_iff_exists.mp (hb rfl)
          simp only [List.cons_append, outstanding_some]
          rw [ih, Multiset.cons_swap]

/-- A claim that is given back goes with the reference behind it. -/
theorem outstanding_set (h : List.Forall₂ Backing ledger taken) {k : Nat}
    (hk : ledger[k]? = some (some claim)) :
    ∃ r, taken[k]? = some (some r) ∧
      outstanding ledger taken = (claim, r) ::ₘ outstanding (ledger.set k none) taken ∧
      List.Forall₂ Backing (ledger.set k none) taken := by
  induction h generalizing k with
  | nil => cases hk
  | @cons claim? reference? ledger taken hb hrest ih =>
      cases k with
      | zero =>
          cases hk
          obtain ⟨r, rfl⟩ := Option.isSome_iff_exists.mp (hb rfl)
          exact ⟨r, rfl, rfl, .cons (fun h => nomatch h) hrest⟩
      | succ k =>
          obtain ⟨r, hr, hout, hset⟩ := ih hk
          refine ⟨r, hr, ?_, .cons hb hset⟩
          cases claim? with
          | none => exact hout
          | some c =>
              obtain ⟨r', rfl⟩ := Option.isSome_iff_exists.mp (hb rfl)
              simp only [List.set_cons_succ, outstanding_some]
              rw [hout, Multiset.cons_swap]

/-- The claims that are outstanding are those of the ledger. -/
theorem map_fst_outstanding (h : List.Forall₂ Backing ledger taken) :
    (outstanding ledger taken).map Prod.fst = (ledger.reduceOption : Multiset _) := by
  induction h with
  | nil => rfl
  | @cons claim? reference? ledger taken hb _ ih =>
      cases claim? with
      | none => exact ih
      | some c =>
          obtain ⟨r, rfl⟩ := Option.isSome_iff_exists.mp (hb rfl)
          rw [outstanding_some, Multiset.map_cons, ih]
          rfl

end Provenance.Registry
