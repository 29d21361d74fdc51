import Mathlib.Algebra.GroupWithZero.Nat
import Provenance.Library
import Provenance.Registry.Counters

/-! # Entries of a node

    What is done to an object is entered at its node, one `Entry` at a time.  The
    counters of a node are those of a new one with all its entries
    (`Counters.enterAll`).  So each of them amounts to a number or a sum of
    entries, cut once at the end although it was cut at every step
    (`Counters.amounts`), and the shape is the one that was told last. -/

namespace Provenance

/-! ## Cut sums and products -/

namespace Word

theorem cap_cap_add (a b : Nat) : cap (cap a + b) = cap (a + b) := by
  rw [cap, cap, cap]
  omega

/-- A factor may be cut before it is multiplied. -/
theorem cap_cap_mul (a b : Nat) : cap (cap a * b) = cap (a * b) := by
  rcases Nat.le_total a limit with hle | hle
  · rw [cap_of_le hle]
  · rcases Nat.eq_zero_or_pos b with rfl | hb
    · rfl
    · -- both products pass the largest word
      have hcap : cap a = limit := Nat.min_eq_right hle
      have hlimit : limit ≤ limit * b := Nat.le_mul_of_pos_right limit hb
      have ha : limit * b ≤ a * b := Nat.mul_le_mul_right b hle
      rw [hcap, cap, cap, Nat.min_eq_right hlimit,
        Nat.min_eq_right (Nat.le_trans hlimit ha)]

theorem cap_mul_cap (a b : Nat) : cap (a * cap b) = cap (a * b) := by
  rw [Nat.mul_comm, cap_cap_mul, Nat.mul_comm]

end Word

theorem Duration.ofNanos_saturatingAdd (a : Nat) (d : Duration) :
    (ofNanos a).saturatingAdd d = ofNanos (a + d.nanos) := by
  refine Duration.ext ?_
  rw [nanos_saturatingAdd, nanos_ofNanos, nanos_ofNanos]
  omega

/-- The number of elements of an extent is the product of its dimensions. -/
theorem DatasetCounters.extent_eq (dimensions : List Nat) :
    extent dimensions = Word.cap dimensions.prod := by
  have hfold : ∀ n, dimensions.foldl (fun n d => Word.cap (n * d)) (Word.cap n)
      = Word.cap (n * dimensions.prod) := by
    induction dimensions with
    | nil =>
        intro n
        rw [List.prod_nil, Nat.mul_one]
        rfl
    | cons d rest ih =>
        intro n
        rw [List.foldl_cons, Word.cap_cap_mul, ih, List.prod_cons, Nat.mul_assoc]
  have hone := hfold 1
  rwa [Nat.one_mul] at hone

/-! ## Entries -/

/-- What is entered in the counters of a node. -/
inductive Entry where
  /-- Its object was created or opened; a dataset has the shape that the library
      told. -/
  | accessed (access : Access) (shape : Option DatasetShape)
  | read (bytes : Nat) (elapsed : Duration)
  | written (bytes : Nat) (elapsed : Duration)
deriving DecidableEq

/-- The counters after an entry.  Counters of another kind do not change. -/
def Counters.enter : Counters → Entry → Counters
  | .dataset c, .accessed _ (some s) => .dataset (c.reshape s.typeSize s.dimensions)
  | .dataset c, .read bytes elapsed => .dataset (c.addRead bytes elapsed)
  | .dataset c, .written bytes elapsed => .dataset (c.addWrite bytes elapsed)
  | .group ops, .accessed _ _ => .group (ops + 1)
  | .attr ops, .accessed _ _ => .attr (ops + 1)
  | .datatype commits gets, .accessed .created _ => .datatype (commits + 1) gets
  | .datatype commits gets, .accessed .opened _ => .datatype commits (gets + 1)
  | c, _ => c

/-- The counters after some entries, the last of which is in front. -/
def Counters.enterAll (c : Counters) (entries : List Entry) : Counters :=
  entries.foldr (fun entry c => c.enter entry) c

theorem Counters.enterAll_append (c : Counters) (l l' : List Entry) :
    c.enterAll (l ++ l') = (c.enterAll l').enterAll l :=
  List.foldr_append

namespace Entry

/-- The way in which an object was come by. -/
def access? : Entry → Option Access
  | accessed access _ => some access
  | _ => none

/-- The shape that the library told. -/
def shape? : Entry → Option DatasetShape
  | accessed _ shape => shape
  | _ => none

/-- The bytes and the time of a read. -/
def read? : Entry → Option (Nat × Duration)
  | read bytes elapsed => some (bytes, elapsed)
  | _ => none

/-- The bytes and the time of a write. -/
def written? : Entry → Option (Nat × Duration)
  | written bytes elapsed => some (bytes, elapsed)
  | _ => none

end Entry

/-- The bytes of some transfers. -/
def bytesMoved (transfers : List (Nat × Duration)) : Nat :=
  (transfers.map Prod.fst).sum

/-- The time of some transfers in nanoseconds. -/
def timeSpent (transfers : List (Nat × Duration)) : Nat :=
  (transfers.map fun t => t.2.nanos).sum

/-- What the counters of a dataset amount to, given its entries. -/
structure DatasetCounters.Amounts (entries : List Entry) (c : DatasetCounters) :
    Prop where
  readCount_eq : c.readCount = (entries.filterMap Entry.read?).length
  writeCount_eq : c.writeCount = (entries.filterMap Entry.written?).length
  bytesRead_eq :
    c.bytesRead = Word.cap (bytesMoved (entries.filterMap Entry.read?))
  bytesWritten_eq :
    c.bytesWritten = Word.cap (bytesMoved (entries.filterMap Entry.written?))
  readTime_eq :
    c.readTime = .ofNanos (timeSpent (entries.filterMap Entry.read?))
  writeTime_eq :
    c.writeTime = .ofNanos (timeSpent (entries.filterMap Entry.written?))
  /-- The shape told last sizes transfers; without one, nothing is moved. -/
  transferSize_eq : ∀ selected, c.transferSize selected
    = ((entries.findSome? Entry.shape?).elim 0 fun s =>
        Word.cap (s.typeSize * selected.getD s.dimensions.prod))

/-- What the counters of a node amount to, given its entries. -/
def Counters.Amounts (entries : List Entry) : Counters → Prop
  | .dataset c => c.Amounts entries
  | .group ops => ops = (entries.filterMap Entry.access?).length
  | .attr ops => ops = (entries.filterMap Entry.access?).length
  | .datatype commits gets =>
      commits = (entries.filterMap Entry.access?).count .created ∧
        gets = (entries.filterMap Entry.access?).count .opened

namespace DatasetCounters

variable {c : DatasetCounters} {l : List Entry}

theorem amounts_zero : zero.Amounts [] where
  readCount_eq := rfl
  writeCount_eq := rfl
  bytesRead_eq := rfl
  bytesWritten_eq := rfl
  readTime_eq := rfl
  writeTime_eq := rfl
  transferSize_eq selected := by
    rw [transferSize, show zero.typeSize = 0 from rfl, Nat.zero_mul]
    rfl

/-- One entry more. -/
theorem Amounts.enter (h : c.Amounts l) (entry : Entry) :
    ∃ c', (Counters.dataset c).enter entry = .dataset c' ∧
      c'.Amounts (entry :: l) := by
  cases entry with
  | accessed access shape =>
      cases shape with
      | none =>
          exact ⟨c, rfl, h.readCount_eq, h.writeCount_eq, h.bytesRead_eq,
            h.bytesWritten_eq, h.readTime_eq, h.writeTime_eq, h.transferSize_eq⟩
      | some s =>
          refine ⟨_, rfl, h.readCount_eq, h.writeCount_eq, h.bytesRead_eq,
            h.bytesWritten_eq, h.readTime_eq, h.writeTime_eq, fun selected => ?_⟩
          show Word.cap (s.typeSize * selected.getD (extent s.dimensions))
            = Word.cap (s.typeSize * selected.getD s.dimensions.prod)
          cases selected with
          | some points => rfl
          | none =>
              rw [Option.getD_none, extent_eq]
              exact Word.cap_mul_cap _ _
  | read bytes elapsed =>
      refine ⟨_, rfl, ?_, h.writeCount_eq, ?_, h.bytesWritten_eq, ?_,
        h.writeTime_eq, h.transferSize_eq⟩
      · exact congrArg (· + 1) h.readCount_eq
      · show Word.cap (c.bytesRead + bytes) = Word.cap (bytes + bytesMoved _)
        rw [h.bytesRead_eq, Word.cap_cap_add, Nat.add_comm]
      · show c.readTime.saturatingAdd elapsed = .ofNanos (elapsed.nanos + timeSpent _)
        rw [h.readTime_eq, Duration.ofNanos_saturatingAdd, Nat.add_comm]
  | written bytes elapsed =>
      refine ⟨_, rfl, h.readCount_eq, ?_, h.bytesRead_eq, ?_, h.readTime_eq, ?_,
        h.transferSize_eq⟩
      · exact congrArg (· + 1) h.writeCount_eq
      · show Word.cap (c.bytesWritten + bytes) = Word.cap (bytes + bytesMoved _)
        rw [h.bytesWritten_eq, Word.cap_cap_add, Nat.add_comm]
      · show c.writeTime.saturatingAdd elapsed
          = .ofNanos (elapsed.nanos + timeSpent _)
        rw [h.writeTime_eq, Duration.ofNanos_saturatingAdd, Nat.add_comm]

end DatasetCounters

namespace Counters

variable {c : Counters} {l : List Entry}

theorem amounts_zero (kind : Kind) : (zero kind).Amounts [] := by
  cases kind with
  | dataset => exact DatasetCounters.amounts_zero
  | group => exact rfl
  | datatype => exact ⟨rfl, rfl⟩
  | attr => exact rfl

/-- An object that is not a dataset only counts accesses. -/
theorem Amounts.enter (h : c.Amounts l) (entry : Entry) :
    (c.enter entry).Amounts (entry :: l) ∧ (c.enter entry).kind = c.kind := by
  cases c with
  | dataset d =>
      obtain ⟨d', hd, hamounts⟩ := DatasetCounters.Amounts.enter h entry
      rw [hd]
      exact ⟨hamounts, rfl⟩
  | group ops =>
      cases entry with
      | accessed access shape => exact ⟨congrArg (· + 1) h, rfl⟩
      | _ => exact ⟨h, rfl⟩
  | attr ops =>
      cases entry with
      | accessed access shape => exact ⟨congrArg (· + 1) h, rfl⟩
      | _ => exact ⟨h, rfl⟩
  | datatype commits gets =>
      cases entry with
      | accessed access shape =>
          obtain ⟨hcommits, hgets⟩ := h
          cases access with
          | created =>
              refine ⟨⟨?_, ?_⟩, rfl⟩
              · exact (congrArg (· + 1) hcommits).trans List.count_cons_self.symm
              · exact hgets.trans (List.count_cons_of_ne (by decide)).symm
          | opened =>
              refine ⟨⟨?_, ?_⟩, rfl⟩
              · exact hcommits.trans (List.count_cons_of_ne (by decide)).symm
              · exact (congrArg (· + 1) hgets).trans List.count_cons_self.symm
      | _ => exact ⟨h, rfl⟩

/-- The counters of a node amount to what was entered in them since it was
    new. -/
theorem amounts (kind : Kind) (l : List Entry) :
    ((zero kind).enterAll l).Amounts l ∧ ((zero kind).enterAll l).kind = kind := by
  induction l with
  | nil => exact ⟨amounts_zero kind, kind_zero kind⟩
  | cons entry rest ih =>
      obtain ⟨hamounts, hkind⟩ := ih.1.enter entry
      exact ⟨hamounts, hkind.trans ih.2⟩

end Counters

end Provenance
