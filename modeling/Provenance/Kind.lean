/-! # Kinds of tracked objects

    Four kinds of object live inside a container.  `PerKind` holds one value
    per kind; its lists are in the order of `Kind.all`. -/

namespace Provenance

/-- The four kinds of object tracked inside a container. -/
inductive Kind where
  | dataset
  | group
  | datatype
  | attr
deriving DecidableEq

namespace Kind

/-- Every kind, in the order of all per-kind lists. -/
def all : List Kind := [dataset, group, datatype, attr]

/-- Place of a kind in the per-kind lists. -/
def index : Kind → Nat
  | dataset => 0
  | group => 1
  | datatype => 2
  | attr => 3

/-- Name of a kind in every text. -/
def name : Kind → String
  | dataset => "dataset"
  | group => "group"
  | datatype => "datatype"
  | attr => "attribute"

/-- The kind of a given name. -/
def ofName? (text : String) : Option Kind := all.find? fun k => k.name == text

theorem mem_all (k : Kind) : k ∈ all := by
  cases k <;> simp [all]

theorem all_getElem?_index (k : Kind) : all[k.index]? = some k := by
  cases k <;> rfl

theorem ofName?_name (k : Kind) : ofName? k.name = some k := by
  cases k <;> rfl

end Kind

/-- One value for each kind. -/
structure PerKind (α : Type) where
  dataset : α
  group : α
  datatype : α
  attr : α
deriving DecidableEq

namespace PerKind

variable {α β : Type}

/-- The same value for every kind. -/
def replicate (a : α) : PerKind α := ⟨a, a, a, a⟩

/-- The value of one kind. -/
def get (p : PerKind α) : Kind → α
  | .dataset => p.dataset
  | .group => p.group
  | .datatype => p.datatype
  | .attr => p.attr

/-- Change the value of one kind. -/
def modify (p : PerKind α) (k : Kind) (f : α → α) : PerKind α :=
  match k with
  | .dataset => { p with dataset := f p.dataset }
  | .group => { p with group := f p.group }
  | .datatype => { p with datatype := f p.datatype }
  | .attr => { p with attr := f p.attr }

/-- Change every value. -/
def map (f : α → β) (p : PerKind α) : PerKind β :=
  ⟨f p.dataset, f p.group, f p.datatype, f p.attr⟩

/-- The values in the order of `Kind.all`. -/
def toList (p : PerKind α) : List α := Kind.all.map p.get

@[simp]
theorem get_replicate (a : α) (k : Kind) : (replicate a).get k = a := by
  cases k <;> rfl

@[simp]
theorem get_map (f : α → β) (p : PerKind α) (k : Kind) :
    (p.map f).get k = f (p.get k) := by
  cases k <;> rfl

theorem get_modify (p : PerKind α) (k j : Kind) (f : α → α) :
    (p.modify k f).get j = if j = k then f (p.get j) else p.get j := by
  cases k <;> cases j <;> rfl

@[simp]
theorem get_modify_self (p : PerKind α) (k : Kind) (f : α → α) :
    (p.modify k f).get k = f (p.get k) := by
  cases k <;> rfl

theorem get_modify_of_ne (p : PerKind α) {k j : Kind} (f : α → α) (h : j ≠ k) :
    (p.modify k f).get j = p.get j := by
  rw [get_modify, if_neg h]

theorem ext_get {p q : PerKind α} (h : ∀ k, p.get k = q.get k) : p = q := by
  obtain ⟨a, b, c, d⟩ := p
  obtain ⟨a', b', c', d'⟩ := q
  have h1 : a = a' := h .dataset
  have h2 : b = b' := h .group
  have h3 : c = c' := h .datatype
  have h4 : d = d' := h .attr
  rw [h1, h2, h3, h4]

end PerKind

end Provenance
