import Provenance.Json.Skip

/-! # The grammar of a skipped value

    A value is one token, or a list or an object with values inside
    (`IsValue`, `AreItems`, `AreMembers`).  However deep it is, the reader of
    skipped values takes all of it and nothing after it (`IsValue.skips`). -/

namespace Provenance.Json

/-! ## Pieces of a text -/

namespace Reader

variable {σ α : Type} (r : Reader σ α)

/-- A reader takes two pieces one after the other. -/
theorem advance_append {p q : Progress σ α} {front : List Token}
    (h : r.advance p front = .ok q) (rest : List Token) :
    r.advance p (front ++ rest) = r.advance q rest := by
  induction front generalizing p with
  | nil =>
      have hpq : p = q := by
        cases p <;> exact Except.ok.inj h
      rw [hpq, List.nil_append]
  | cons t ts ih =>
      cases p with
      | done a => cases h
      | more s =>
          rw [advance] at h
          rw [List.cons_append, advance]
          cases hstep : r.step s t with
          | error e =>
              rw [hstep] at h
              cases h
          | ok p =>
              rw [hstep] at h
              exact ih h

/-- What one state takes another takes too, if it does so for the first token. -/
theorem advance_of_step {s s' : σ}
    (hstep : ∀ t p, r.step s t = .ok p → r.step s' t = .ok p) {ts : List Token}
    (hne : ts ≠ []) {q : Progress σ α} (h : r.advance (.more s) ts = .ok q) :
    r.advance (.more s') ts = .ok q := by
  cases ts with
  | nil => exact absurd rfl hne
  | cons t ts =>
      rw [advance] at h ⊢
      cases ht : r.step s t with
      | error e =>
          rw [ht] at h
          cases h
      | ok p =>
          rw [ht] at h
          rw [hstep t p ht]
          exact h

end Reader

/-! ## Values -/

/-- A token that is a value by itself. -/
inductive IsScalar : Token → Prop
  | null : IsScalar .null
  | boolean (b : Bool) : IsScalar (.boolean b)
  | number (n : NumberText) : IsScalar (.number n)
  | text (s : String) : IsScalar (.text s)
  | unpairedText : IsScalar .unpairedText

/-- A token that names a member of an object. -/
inductive IsKey : Token → Prop
  | text (s : String) : IsKey (.text s)
  | unpairedText : IsKey .unpairedText

mutual

/-- The tokens of one value. -/
inductive IsValue : List Token → Prop
  | scalar {t : Token} (h : IsScalar t) : IsValue [t]
  | emptyList : IsValue [.openArray, .closeArray]
  | list {ts : List Token} (h : AreItems ts) :
      IsValue (.openArray :: (ts ++ [.closeArray]))
  | emptyObject : IsValue [.openObject, .closeObject]
  | object {ts : List Token} (h : AreMembers ts) :
      IsValue (.openObject :: (ts ++ [.closeObject]))

/-- The tokens of one or more values, with commas between them. -/
inductive AreItems : List Token → Prop
  | last {ts : List Token} (h : IsValue ts) : AreItems ts
  | cons {ts us : List Token} (h : IsValue ts) (hrest : AreItems us) :
      AreItems (ts ++ .comma :: us)

/-- The tokens of one or more members, with commas between them. -/
inductive AreMembers : List Token → Prop
  | last {k : Token} {ts : List Token} (hkey : IsKey k) (h : IsValue ts) :
      AreMembers (k :: .colon :: ts)
  | cons {k : Token} {ts us : List Token} (hkey : IsKey k) (h : IsValue ts)
      (hrest : AreMembers us) : AreMembers (k :: .colon :: (ts ++ .comma :: us))

end

/-! ## Skipping

    One lemma for each rule of the grammar.  Within brackets a complete value is
    followed by a comma or the closing bracket, which is what the stage `next`
    waits for. -/

namespace Skip

variable {ts us : List Token} {t : Token} {outer : List Bracket}

theorem advance_scalar (h : IsScalar t) (outer : List Bracket) :
    reader.advance (.more ⟨.value, outer⟩) [t] = .ok (complete outer) := by
  cases h <;> rfl

theorem advance_key (h : IsKey t) (ts : List Token) :
    reader.advance (.more ⟨.key, .object :: outer⟩) (t :: .colon :: ts)
      = reader.advance (.more ⟨.value, .object :: outer⟩) ts := by
  cases h <;> rfl

/-- The first value of a list is read like any other: no value starts with the
    closing bracket. -/
theorem advance_firstItem
    (h : reader.advance (.more ⟨.value, .array :: outer⟩) ts
      = .ok (.more ⟨.next, .array :: outer⟩)) :
    reader.advance (.more ⟨.first, .array :: outer⟩) ts
      = .ok (.more ⟨.next, .array :: outer⟩) := by
  refine reader.advance_of_step ?_ ?_ h
  · intro t p ht
    cases t <;> first | exact ht | cases ht
  · rintro rfl
    cases h

/-- The first key of an object is read like any other. -/
theorem advance_firstKey
    (h : reader.advance (.more ⟨.key, .object :: outer⟩) ts
      = .ok (.more ⟨.next, .object :: outer⟩)) :
    reader.advance (.more ⟨.first, .object :: outer⟩) ts
      = .ok (.more ⟨.next, .object :: outer⟩) := by
  refine reader.advance_of_step ?_ ?_ h
  · intro t p ht
    cases t <;> first | exact ht | cases ht
  · rintro rfl
    cases h

/-- A list is skipped if its values are. -/
theorem advance_list
    (h : reader.advance (.more ⟨.value, .array :: outer⟩) ts
      = .ok (.more ⟨.next, .array :: outer⟩)) :
    reader.advance (.more ⟨.value, outer⟩) (.openArray :: (ts ++ [.closeArray]))
      = .ok (complete outer) :=
  calc reader.advance (.more ⟨.value, outer⟩) (.openArray :: (ts ++ [.closeArray]))
      = reader.advance (.more ⟨.first, .array :: outer⟩) (ts ++ [.closeArray]) := rfl
    _ = reader.advance (.more ⟨.next, .array :: outer⟩) [.closeArray] :=
        reader.advance_append (advance_firstItem h) _
    _ = .ok (complete outer) := rfl

/-- An object is skipped if its members are. -/
theorem advance_object
    (h : reader.advance (.more ⟨.key, .object :: outer⟩) ts
      = .ok (.more ⟨.next, .object :: outer⟩)) :
    reader.advance (.more ⟨.value, outer⟩) (.openObject :: (ts ++ [.closeObject]))
      = .ok (complete outer) :=
  calc reader.advance (.more ⟨.value, outer⟩) (.openObject :: (ts ++ [.closeObject]))
      = reader.advance (.more ⟨.first, .object :: outer⟩) (ts ++ [.closeObject]) := rfl
    _ = reader.advance (.more ⟨.next, .object :: outer⟩) [.closeObject] :=
        reader.advance_append (advance_firstKey h) _
    _ = .ok (complete outer) := rfl

/-- After a value of a list and a comma comes the next value. -/
theorem advance_nextItem
    (h : reader.advance (.more ⟨.value, .array :: outer⟩) ts
      = .ok (.more ⟨.next, .array :: outer⟩)) (us : List Token) :
    reader.advance (.more ⟨.value, .array :: outer⟩) (ts ++ .comma :: us)
      = reader.advance (.more ⟨.value, .array :: outer⟩) us :=
  reader.advance_append h _

/-- After a member of an object and a comma comes the next key. -/
theorem advance_nextKey
    (h : reader.advance (.more ⟨.value, .object :: outer⟩) ts
      = .ok (.more ⟨.next, .object :: outer⟩)) (us : List Token) :
    reader.advance (.more ⟨.value, .object :: outer⟩) (ts ++ .comma :: us)
      = reader.advance (.more ⟨.key, .object :: outer⟩) us :=
  reader.advance_append h _

end Skip

mutual

/-- A value is skipped as a whole, whatever brackets it stands in. -/
theorem IsValue.skips : ∀ {ts : List Token}, IsValue ts → ∀ outer : List Bracket,
    Skip.reader.advance (.more ⟨.value, outer⟩) ts = .ok (Skip.complete outer)
  | _, .scalar h, outer => Skip.advance_scalar h outer
  | _, .emptyList, _ => rfl
  | _, .list h, outer => Skip.advance_list (h.skips outer)
  | _, .emptyObject, _ => rfl
  | _, .object h, outer => Skip.advance_object (h.skips outer)

/-- The values of a list are skipped up to what follows the last. -/
theorem AreItems.skips : ∀ {ts : List Token}, AreItems ts → ∀ outer : List Bracket,
    Skip.reader.advance (.more ⟨.value, .array :: outer⟩) ts
      = .ok (.more ⟨.next, .array :: outer⟩)
  | _, .last h, outer => h.skips (.array :: outer)
  | _, .cons h hrest, outer =>
      (Skip.advance_nextItem (h.skips (.array :: outer)) _).trans (hrest.skips outer)

/-- The members of an object are skipped up to what follows the last. -/
theorem AreMembers.skips : ∀ {ts : List Token}, AreMembers ts → ∀ outer : List Bracket,
    Skip.reader.advance (.more ⟨.key, .object :: outer⟩) ts
      = .ok (.more ⟨.next, .object :: outer⟩)
  | _, .last hkey h, outer =>
      (Skip.advance_key hkey _).trans (h.skips (.object :: outer))
  | _, .cons hkey h hrest, outer =>
      (Skip.advance_key hkey _).trans
        ((Skip.advance_nextKey (h.skips (.object :: outer)) _).trans (hrest.skips outer))

end

end Provenance.Json
