import Provenance.Proofs.Contract
import Provenance.Stats.Table

/-! # Writes to a table of statistics

    The ways in which a write can go: at a name that is stored, refused for
    lack of room, or at a name that is new. -/

namespace Provenance.StatsTable

variable {t t' : StatsTable} {key : String} {memory : Memory}
  {f : Option Duration → Duration} {index : Nat}

/-- The search for a name does not end at the name. -/
def Misses (t : StatsTable) (key : String) : Prop :=
  ∀ index, t.probe key ≠ .found index

theorem update_of_found (h : t.probe key = .found index) :
    update memory key f t
      = ⟨.value (f ((t.slot? index).map Slot.value)),
          t.store index key (f ((t.slot? index).map Slot.value)), []⟩ := by
  simp only [update, h]

theorem update_of_error {e : StatsError} (h : t.Misses key)
    (hroom : t.makeRoom memory = .error e) :
    update memory key f t = ⟨.error e, t, []⟩ := by
  cases hp : t.probe key with
  | found index => exact absurd hp (h index)
  | _ => simp only [update, hp, hroom]

theorem update_of_room (h : t.Misses key) (hroom : t.makeRoom memory = .ok t') :
    update memory key f t =
      match t'.probe key with
      | .found index =>
          ⟨.value (f ((t'.slot? index).map Slot.value)),
            t'.store index key (f ((t'.slot? index).map Slot.value)), []⟩
      | .vacant index => ⟨.value (f none), t'.enter index key (f none), []⟩
      | .full => ⟨.error (.capacityExceeded t'.capacity), t', []⟩ := by
  cases hp : t.probe key with
  | found index => exact absurd hp (h index)
  | _ => cases hp' : t'.probe key <;> simp only [update, hp, hroom, hp']

/-- A write never faults, and emits nothing. -/
theorem update_quiet (t : StatsTable) (memory : Memory) (key : String)
    (f : Option Duration → Duration) (ev : List Event) :
    (update memory key f).Ensures t ev (fun _ _ ev' => ev' = ev)
      (fun _ _ ev' => ev' = ev) (fun _ _ _ => False) := by
  by_cases h : t.Misses key
  · cases hroom : t.makeRoom memory with
    | error e => exact .of_eq (update_of_error h hroom) (List.append_nil _)
    | ok t' =>
        have heq := update_of_room (f := f) h hroom
        cases hp : t'.probe key <;> simp only [hp] at heq <;>
          exact .of_eq heq (List.append_nil _)
  · obtain ⟨index, hp⟩ : ∃ index, t.probe key = .found index := by
      simpa [Misses] using h
    exact .of_eq (update_of_found hp) (List.append_nil _)

end Provenance.StatsTable
