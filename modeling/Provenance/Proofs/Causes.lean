import Mathlib.Data.List.Infix
import Provenance.Interceptor.Error

/-! # Causes in the common error

    An error has a text of its own, and a source that tells what it was caused
    by.  The common error has a single text.  It is the source's for a failure
    to write statistics (`StatsError.mentions`); the other conversions take the
    error's own text, which is the whole story only if there is no source.  The
    rest of a story is dropped: with another cause the common error would be the
    same (`LayerError.toError_recaused`). -/

namespace Provenance

/-- One text is a part of another. -/
def Mentions (text part : String) : Prop := part.toList <:+: text.toList

instance (text part : String) : Decidable (Mentions text part) :=
  inferInstanceAs (Decidable (part.toList <:+: text.toList))

theorem Mentions.refl (text : String) : Mentions text text := List.infix_rfl

theorem mentions_append (before text : String) : Mentions (before ++ text) text := by
  rw [Mentions, String.toList_append]
  exact (List.suffix_append _ _).isInfix

theorem Mentions.length_le {text part : String} (h : Mentions text part) :
    part.length ≤ text.length := by
  rw [← String.length_toList, ← String.length_toList]
  exact List.IsInfix.length_le h

/-- An error of one of the layers. -/
inductive LayerError where
  | stats (error : StatsError)
  | registry (error : RegistryError)
  | intercept (error : InterceptError)

namespace LayerError

def message : LayerError → String
  | stats error => error.message
  | registry error => error.message
  | intercept error => error.message

def source : LayerError → Option Source
  | stats error => error.source
  | registry error => error.source
  | intercept error => error.source

def toError : LayerError → Error
  | stats error => error.toError
  | registry error => error.toError
  | intercept error => error.toError

/-- The texts of an error and of all that caused it.  What caused the failure of a
    collaborator is known to that one only, and told by `below`. -/
def chain (below : Source → List String) (e : LayerError) : List String :=
  e.message :: e.source.elim [] fun s => s.message :: below s

/-- The text of the cause without a cause. -/
def innermost (below : Source → List String) (e : LayerError) : String :=
  (e.chain below).getLast (List.cons_ne_nil _ _)

/-- The source that is lost in conversion. -/
def dropped : LayerError → Option Source
  | stats _ => none
  | intercept (.stats _) => none
  | registry error => error.source
  | intercept error => error.source

/-- The error with another text in the place of what is dropped. -/
def recaused (text : String) : LayerError → LayerError
  | registry (.identity (.library _)) => registry (.identity (.library ⟨text⟩))
  | intercept (.registry (.identity (.library _))) =>
      intercept (.registry (.identity (.library ⟨text⟩)))
  | intercept (.library operation _) => intercept (.library operation ⟨text⟩)
  | intercept (.report path _) => intercept (.report path ⟨text⟩)
  | e => e

end LayerError

/-! ## What is told -/

/-- A failure to write has the text of its source, all other errors their own. -/
theorem StatsError.mentions (e : StatsError) :
    Mentions e.toError.message (e.source.elim e.message Source.message) := by
  cases e with
  | capacityExceeded capacity => exact mentions_append _ _
  | zeroCapacity => exact mentions_append _ _
  | outOfMemory what => exact .refl _
  | lockPoisoned => exact .refl _
  | io error => exact mentions_append _ _

theorem RegistryError.mentions (e : RegistryError) :
    Mentions e.toError.message e.message := by
  cases e with
  | outOfMemory what => exact .refl _
  | lockPoisoned => exact .refl _
  | _ => exact mentions_append _ _

namespace LayerError

variable {e : LayerError}

/-- Without a source to drop, the text is that of the source or else of the error. -/
theorem mentions_of_kept (h : e.dropped = none) :
    Mentions e.toError.message (e.source.elim e.message Source.message) := by
  cases e with
  | stats error => exact error.mentions
  | registry error =>
      have hsource : error.source = none := h
      rw [source, hsource]
      exact error.mentions
  | intercept error =>
      cases error with
      | stats error => exact error.mentions
      | registry error =>
          have hsource : error.source = none := h
          rw [source, InterceptError.source, hsource]
          exact error.mentions
      | wrongProxy operation expected => exact mentions_append _ _
      | library operation cause => cases h
      | report path error => cases h

/-- All errors whose source is dropped. -/
theorem cases_of_dropped (h : e.dropped ≠ none) :
    (∃ cause, e = registry (.identity (.library cause))) ∨
    (∃ cause, e = intercept (.registry (.identity (.library cause)))) ∨
    (∃ operation cause, e = intercept (.library operation cause)) ∨
    (∃ path error, e = intercept (.report path error)) := by
  have hregistry : ∀ error : RegistryError, error.source ≠ none →
      ∃ cause, error = .identity (.library cause) := by
    intro error hsource
    cases error with
    | identity error =>
        cases error with
        | comparison text => exact absurd rfl hsource
        | library cause => exact ⟨cause, rfl⟩
    | _ => exact absurd rfl hsource
  cases e with
  | stats error => exact absurd rfl h
  | registry error =>
      obtain ⟨cause, rfl⟩ := hregistry error h
      exact Or.inl ⟨cause, rfl⟩
  | intercept error =>
      cases error with
      | registry error =>
          obtain ⟨cause, rfl⟩ := hregistry error h
          exact Or.inr (Or.inl ⟨cause, rfl⟩)
      | library operation cause => exact Or.inr (Or.inr (Or.inl ⟨operation, cause, rfl⟩))
      | report path error => exact Or.inr (Or.inr (Or.inr ⟨path, error, rfl⟩))
      | stats error => exact absurd rfl h
      | wrongProxy operation expected => exact absurd rfl h

/-- An error whose source is dropped tells at least its own text. -/
theorem mentions_of_dropped (h : e.dropped ≠ none) :
    Mentions e.toError.message e.message := by
  rcases cases_of_dropped h with ⟨cause, rfl⟩ | ⟨cause, rfl⟩ | ⟨operation, cause, rfl⟩ |
    ⟨path, error, rfl⟩
  all_goals exact mentions_append _ _

theorem innermost_eq {below : Source → List String}
    (h : ∀ s, e.source = some s → below s = []) :
    e.innermost below = e.source.elim e.message Source.message := by
  cases hsource : e.source with
  | none => simp only [innermost, chain, hsource, Option.elim, List.getLast_singleton]
  | some s =>
      simp only [innermost, chain, hsource, h s hsource, Option.elim, List.getLast_cons_cons,
        List.getLast_singleton]

/-! ## What is lost -/

theorem toError_recaused (h : e.dropped ≠ none) (text : String) :
    (e.recaused text).toError = e.toError := by
  rcases cases_of_dropped h with ⟨cause, rfl⟩ | ⟨cause, rfl⟩ | ⟨operation, cause, rfl⟩ |
    ⟨path, error, rfl⟩
  all_goals rfl

theorem source_recaused (h : e.dropped ≠ none) (text : String) :
    (e.recaused text).source.map Source.message = some text := by
  rcases cases_of_dropped h with ⟨cause, rfl⟩ | ⟨cause, rfl⟩ | ⟨operation, cause, rfl⟩ |
    ⟨path, error, rfl⟩
  all_goals rfl

/-- Some cause is not told: any whose text is longer than that of the common error. -/
theorem exists_not_mentions (h : e.dropped ≠ none) :
    ∃ text, ¬Mentions (e.recaused text).toError.message text := by
  refine ⟨e.toError.message ++ "!", fun hmentions => ?_⟩
  rw [toError_recaused h] at hmentions
  have hle := hmentions.length_le
  rw [String.length_append] at hle
  exact Nat.not_succ_le_self _ hle

/-- What the common error tells of an error and its causes. -/
structure Conveys (below : Source → List String) (e : LayerError) : Prop where
  /-- The innermost cause is told if no source is dropped, and if a source that is not
      dropped was not caused by anything itself. -/
  innermost : e.dropped = none → (∀ s, e.source = some s → below s = []) →
    Mentions e.toError.message (e.innermost below)
  /-- Above a source that is dropped, the error itself is told. -/
  outermost : e.dropped ≠ none → Mentions e.toError.message e.message
  /-- A source that is dropped leaves no trace, whatever its text is. -/
  blind : e.dropped ≠ none → ∀ text,
    (e.recaused text).source.map Source.message = some text ∧
      (e.recaused text).toError = e.toError
  lost : e.dropped ≠ none → ∃ text, ¬Mentions (e.recaused text).toError.message text
  /-- An error that an intercepted operation only passes on is converted as it would be
      by itself. -/
  of_registry : ∀ error, e = intercept (.registry error) → e.toError = error.toError
  of_stats : ∀ error, e = intercept (.stats error) → e.toError = error.toError

end LayerError

/-- Conversion keeps the innermost text of an error that has no source, and of a
    failure to write statistics; of all others it loses it. -/
theorem causes_in_conversion (below : Source → List String) (e : LayerError) :
    e.Conveys below := by
  constructor
  case innermost =>
    intro hkept hbelow
    rw [LayerError.innermost_eq hbelow]
    exact LayerError.mentions_of_kept hkept
  case outermost => exact LayerError.mentions_of_dropped
  case blind =>
    intro h text
    exact ⟨LayerError.source_recaused h text, LayerError.toError_recaused h text⟩
  case lost => exact LayerError.exists_not_mentions
  case of_registry =>
    rintro error rfl
    rfl
  case of_stats =>
    rintro error rfl
    rfl

/-- The cause that a library gave is not told. -/
theorem conversion_loses_library_cause :
    let e : LayerError := .intercept (.library "file_create" ⟨"disk full"⟩)
    ¬Mentions e.toError.message (e.innermost fun _ => []) := by
  decide +kernel

end Provenance
