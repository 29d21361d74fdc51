import Provenance.Interceptor.Op
import Provenance.Proofs.Interceptor.Watched

/-! # Custody of raw handles

    What each operation of an interceptor makes of the handles in its custody,
    whatever its outcome (`Op.run_traffic`): a handle that was opened or handed
    in is returned in a proxy or discarded, a proxy given to its own close has
    its handle closed once, and a close that fails hands the proxy back. -/

namespace Provenance.Interceptor

variable {ω η τ : Type}

/-- The traffic of a handle for which an entry is to be set up. -/
inductive Custody (sort : Option Kind) (raw : η) :
    List (Traffic η) → Outcome (Refusal η) (Answer η) → Prop
  | returned (p : Proxy η) (h : p.handle = raw) :
      Custody sort raw [] (.value (.proxy p))
  | discarded (accepted : Bool) (e : InterceptError) :
      Custody sort raw (Traffic.discarded sort raw accepted) (.error (.failed e))
  | abandoned (f : Fault) : Custody sort raw [] (.fault f)

/-- The traffic of an operation that opens a handle. -/
inductive Opening (sort : Option Kind) :
    List (Traffic η) → Outcome (Refusal η) (Answer η) → Prop
  | failed (e : InterceptError) : Opening sort [] (.error (.failed e))
  | faulted (f : Fault) : Opening sort [] (.fault f)
  | issued {raw : η} {new : List (Traffic η)}
      {o : Outcome (Refusal η) (Answer η)} (h : Custody sort raw new o) :
      Opening sort (.issued raw :: new) o

/-- The traffic of a close of a proxy. -/
inductive Closing (sort : Option Kind) (proxy : Proxy η) :
    List (Traffic η) → Outcome (Refusal η) (Answer η) → Prop
  | closed (n : Nat) :
      Closing sort proxy [.closed sort proxy.handle true] (.value (.remaining n))
  | refused (e : InterceptError) :
      Closing sort proxy [.closed sort proxy.handle false]
        (.error (.notClosed ⟨proxy, e⟩))
  | faulted (f : Fault) :
      Closing sort proxy [.closed sort proxy.handle true] (.fault f)

/-- A close of a proxy that is not of its sort. -/
inductive Mistaken (proxy : Proxy η) :
    List (Traffic η) → Outcome (Refusal η) (Answer η) → Prop
  | refused (e : InterceptError) :
      Mistaken proxy [] (.error (.notClosed ⟨proxy, e⟩))

/-- An operation without traffic, and the answers it can give. -/
inductive Silent (answers : Answer η → Prop) :
    List (Traffic η) → Outcome (Refusal η) (Answer η) → Prop
  | answered {a : Answer η} (h : answers a) : Silent answers [] (.value a)
  | refused (e : InterceptError) : Silent answers [] (.error (.failed e))
  | faulted (f : Fault) : Silent answers [] (.fault f)

/-- The traffic that an operation makes, by its outcome. -/
def Op.Makes (op : Op η) (new : List (Traffic η))
    (o : Outcome (Refusal η) (Answer η)) : Prop :=
  match op with
  | openFile _ _ => Opening none new o
  | openObject _ _ kind _ => Opening (some kind) new o
  | wrapObject raw kind _ => Custody (some kind) raw new o
  | completeRequest _ raw kind _ => Custody (some kind) raw new o
  | closeFile proxy =>
      match proxy.target with
      | .container _ => Closing none proxy new o
      | .object _ => Mistaken proxy new o
  | closeObject proxy =>
      match proxy.target with
      | .container _ => Mistaken proxy new o
      | .object node => Closing (some node.kind) proxy new o
  | readDataset _ _ => Silent (fun a => ∃ n, a = .bytes n) new o
  | writeDataset _ _ => Silent (fun a => ∃ n, a = .bytes n) new o
  | pin _ => Silent (fun a => ∃ context, a = .context context) new o
  | unpin _ => Silent (fun a => ∃ n, a = .remaining n) new o
  | unwrapObject proxy => Silent (fun a => a = .raw proxy.handle) new o

section

variable [Library ω η τ] [Host ω]
  {P : List (Traffic η) → ω → List Event → Prop} {log : List (Traffic η)}
  {i : Interceptor ω τ} {ev : List Event}

omit [Library ω η τ] [Host ω] in
/-- What holds without traffic holds after no traffic. -/
theorem no_traffic {w : ω} (h : P log w ev) : P (log ++ []) w ev := by
  rw [List.append_nil]
  exact h

omit [Library ω η τ] [Host ω] in
theorem Undone.opening {sort : Option Kind} {w : ω}
    (h : Undone P sort log w ev) (e : InterceptError) :
    ∃ new, Opening sort new (.error (.failed e)) ∧ P (log ++ new) w ev := by
  rcases h with h | ⟨raw, accepted, h⟩
  · exact ⟨[], .failed e, no_traffic h⟩
  · exact ⟨_, .issued (.discarded accepted e), h⟩

omit [Library ω η τ] [Host ω] in
theorem Abandoned.opening {sort : Option Kind} {w : ω} (h : Abandoned P log w ev)
    (f : Fault) :
    ∃ new, Opening sort new (.fault f) ∧ P (log ++ new) w ev := by
  rcases h with h | ⟨raw, h⟩
  · exact ⟨[], .faulted f, no_traffic h⟩
  · exact ⟨_, .issued (.abandoned f), h⟩

omit [Library ω η τ] [Host ω] in
theorem silent_ensures {ε α : Type} {x : Call (Interceptor ω τ) ε α}
    {answers : Answer η → Prop} {answer : α → Answer η}
    {refusal : ε → InterceptError}
    (hanswer : ∀ a, answers (answer a)) (hx : x.Keeps fun j => P log j.world)
    (h : P log i.world ev) :
    x.Ensures i ev
      (fun a j ev' => ∃ new, Silent answers new (.value (answer a)) ∧
        P (log ++ new) j.world ev')
      (fun e j ev' => ∃ new, Silent answers new (.error (.failed (refusal e))) ∧
        P (log ++ new) j.world ev')
      (fun f j ev' => ∃ new, Silent answers new (.fault f) ∧
        P (log ++ new) j.world ev') := by
  refine (hx i ev h).mono ?_ ?_ ?_
  · exact fun a _ _ hj => ⟨[], .answered (hanswer a), no_traffic hj⟩
  · exact fun e _ _ hj => ⟨[], .refused (refusal e), no_traffic hj⟩
  · exact fun f _ _ hj => ⟨[], .faulted f, no_traffic hj⟩

/-- Whatever follows the traffic of handles sees the operation make its own. -/
theorem Op.run_traffic (hP : Follows P) (memory : Memory) (op : Op η)
    (h : P log i.world ev) :
    (op.run memory).Ensures i ev
      (fun a j ev' => ∃ new, op.Makes new (.value a) ∧ P (log ++ new) j.world ev')
      (fun e j ev' => ∃ new, op.Makes new (.error e) ∧ P (log ++ new) j.world ev')
      (fun f j ev' =>
        ∃ new, op.Makes new (.fault f) ∧ P (log ++ new) j.world ev') := by
  cases op with
  | openFile access name =>
      rw [run, Call.ensures_map, Call.ensures_mapError]
      refine (openFile_traffic hP memory access name h).mono ?_ ?_ ?_
      · exact fun p j _ hj => ⟨_, .issued (.returned p rfl), hj⟩
      · exact fun e j _ hj => hj.opening e
      · exact fun f j _ hj => hj.opening f
  | closeFile proxy =>
      rw [run, Call.ensures_map, Call.ensures_mapError]
      refine (closeFile_traffic hP memory proxy h).mono ?_ ?_ ?_
      · rintro n j _ ⟨⟨id, htarget⟩, hj⟩
        refine ⟨_, ?_, hj⟩
        rw [Makes, htarget]
        exact .closed n
      · rintro ⟨p, e⟩ j _ ⟨rfl, hj⟩
        -- the library refused, or it was not even asked
        cases htarget : p.target with
        | container id =>
            rw [htarget] at hj
            refine ⟨_, ?_, hj⟩
            rw [Makes, htarget]
            exact .refused e
        | object node =>
            rw [htarget] at hj
            refine ⟨_, ?_, no_traffic hj⟩
            rw [Makes, htarget]
            exact .refused e
      · rintro f j _ ⟨⟨id, htarget⟩, hj⟩
        refine ⟨_, ?_, hj⟩
        rw [Makes, htarget]
        exact .faulted f
  | openObject access parent kind name =>
      rw [run, Call.ensures_map, Call.ensures_mapError]
      refine (openObject_traffic hP memory access parent kind name h).mono
        ?_ ?_ ?_
      · exact fun p j _ hj => ⟨_, .issued (.returned p rfl), hj⟩
      · exact fun e j _ hj => hj.opening e
      · exact fun f j _ hj => hj.opening f
  | closeObject proxy =>
      rw [run, Call.ensures_map, Call.ensures_mapError]
      refine (closeObject_traffic hP memory proxy h).mono ?_ ?_ ?_
      · rintro n j _ ⟨node, htarget, hj⟩
        refine ⟨_, ?_, hj⟩
        rw [Makes, htarget]
        exact .closed n
      · rintro ⟨p, e⟩ j _ ⟨rfl, hj⟩
        cases htarget : p.target with
        | container id =>
            rw [htarget] at hj
            refine ⟨_, ?_, no_traffic hj⟩
            rw [Makes, htarget]
            exact .refused e
        | object node =>
            rw [htarget] at hj
            refine ⟨_, ?_, hj⟩
            rw [Makes, htarget]
            exact .refused e
      · rintro f j _ ⟨node, htarget, hj⟩
        refine ⟨_, ?_, hj⟩
        rw [Makes, htarget]
        exact .faulted f
  | wrapObject raw kind context =>
      rw [run, Call.ensures_map, Call.ensures_mapError]
      refine (wrapUnder_traffic hP memory .wrap context raw kind none h).mono
        ?_ ?_ ?_
      · exact fun p j _ ⟨hp, hj⟩ => ⟨[], .returned p hp, no_traffic hj⟩
      · exact fun e j _ ⟨accepted, hj⟩ => ⟨_, .discarded accepted e, hj⟩
      · exact fun f j _ hj => ⟨[], .abandoned f, no_traffic hj⟩
  | completeRequest parent raw kind name =>
      rw [run, Call.ensures_map, Call.ensures_mapError]
      refine (wrapUnder_traffic hP memory .complete _ raw kind name h).mono
        ?_ ?_ ?_
      · exact fun p j _ ⟨hp, hj⟩ => ⟨[], .returned p hp, no_traffic hj⟩
      · exact fun e j _ ⟨accepted, hj⟩ => ⟨_, .discarded accepted e, hj⟩
      · exact fun f j _ hj => ⟨[], .abandoned f, no_traffic hj⟩
  | readDataset proxy selected =>
      rw [run, Call.ensures_map, Call.ensures_mapError]
      exact silent_ensures (fun n => ⟨n, rfl⟩) (transfer_keeps hP memory _ proxy
        (hP.readDataset proxy.handle selected) fun w node _ =>
          Registry.onDataset_keeps (hP.unmoved log w) node _) h
  | writeDataset proxy selected =>
      rw [run, Call.ensures_map, Call.ensures_mapError]
      exact silent_ensures (fun n => ⟨n, rfl⟩) (transfer_keeps hP memory _ proxy
        (hP.writeDataset proxy.handle selected) fun w node _ =>
          Registry.onDataset_keeps (hP.unmoved log w) node _) h
  | pin proxy =>
      rw [run, Call.ensures_map, Call.ensures_mapError]
      exact silent_ensures (fun context => ⟨context, rfl⟩)
        (pin_keeps hP memory proxy) h
  | unpin context =>
      rw [run, Call.ensures_map]
      refine (unpin_traffic hP memory context h).mono ?_ (fun _ _ _ h => h.elim)
        ?_
      · exact fun n j _ hj => ⟨[], .answered ⟨n, rfl⟩, no_traffic hj⟩
      · exact fun f j _ hj => ⟨[], .faulted f, no_traffic hj⟩
  | unwrapObject proxy =>
      rw [run, Call.ensures_map, Call.ensures_mapError]
      refine (unwrapObject_traffic hP memory proxy h).mono ?_ ?_ ?_
      · rintro _ j _ ⟨rfl, hj⟩
        exact ⟨[], .answered rfl, no_traffic hj⟩
      · exact fun e j _ hj => ⟨[], .refused e, no_traffic hj⟩
      · exact fun f j _ hj => ⟨[], .faulted f, no_traffic hj⟩

/-- The traffic of an operation, from its start. -/
theorem Op.run_makes (hP : Follows P) (memory : Memory) (op : Op η)
    (h : P [] i.world []) :
    ∃ new, op.Makes new (op.run memory i).outcome ∧
      P new (op.run memory i).state.world (op.run memory i).events := by
  have htraffic := Op.run_traffic hP memory op h
  simp only [List.nil_append] at htraffic
  rcases ho : (op.run memory i).outcome with a | e | f
  · exact htraffic.value ho
  · exact htraffic.error ho
  · exact htraffic.fault ho

end

/-! ## What becomes of each handle -/

namespace Op

/-- The raw handle that an operation is handed to wrap. -/
def given : Op η → List η
  | wrapObject raw _ _ => [raw]
  | completeRequest _ raw _ _ => [raw]
  | _ => []

/-- What a handle is closed as if no proxy is made for it. -/
def sort : Op η → Option Kind
  | openObject _ _ kind _ => some kind
  | wrapObject _ kind _ => some kind
  | completeRequest _ _ kind _ => some kind
  | _ => none

/-- The proxy that an operation is to close. -/
def toClose : Op η → Option (Proxy η)
  | closeFile proxy => some proxy
  | closeObject proxy => some proxy
  | _ => none

/-- The handle that an operation is to close: that of its proxy, if the proxy
    is one that it can close. -/
def closing : Op η → List (Option Kind × η)
  | closeFile proxy =>
      match proxy.target with
      | .container _ => [(none, proxy.handle)]
      | .object _ => []
  | closeObject proxy =>
      match proxy.target with
      | .container _ => []
      | .object node => [(some node.kind, proxy.handle)]
  | _ => []

/-- What an operation owes each handle that was issued in it, that it was
    handed to wrap or that it was to close: the handle is in the proxy that the
    operation returns and was not closed, or it was closed once.  No other
    handle was closed, and a close that failed hands its proxy back. -/
def Settles (op : Op η) (issued : List η) (closed : List (Option Kind × η)) :
    Outcome (Refusal η) (Answer η) → Prop
  | .value (.proxy p) => op.given ++ issued = [p.handle] ∧ closed = []
  | .value _ => op.given ++ issued = [] ∧ closed = op.closing
  | .error e =>
      closed = op.closing ++ (op.given ++ issued).map (fun raw => (op.sort, raw))
        ∧ e.proxy? = op.toClose
  | .fault _ => closed = op.closing

end Op

section

variable {sort : Option Kind} {raw : η} {proxy : Proxy η}
  {new : List (Traffic η)} {o : Outcome (Refusal η) (Answer η)} {op : Op η}

theorem issues_discarded (sort : Option Kind) (raw : η) (accepted : Bool) :
    Traffic.issues (Traffic.discarded sort raw accepted) = [] := by
  cases accepted with
  | true => rfl
  | false => rfl

theorem closes_discarded (sort : Option Kind) (raw : η) (accepted : Bool) :
    Traffic.closes (Traffic.discarded sort raw accepted) = [(sort, raw)] := by
  cases accepted with
  | true => rfl
  | false => rfl

theorem Custody.settles (came : List (Traffic η))
    (h : Custody op.sort raw new o)
    (hraw : op.given ++ Traffic.issues came = [raw])
    (hcame : Traffic.closes came = []) (hclosing : op.closing = [])
    (hclose : op.toClose = none) :
    op.Settles (Traffic.issues (came ++ new)) (Traffic.closes (came ++ new)) o := by
  rw [Traffic.issues_append, Traffic.closes_append, hcame, List.nil_append]
  cases h with
  | returned p hp =>
      -- the one handle is in the proxy, and nothing was closed
      constructor
      · rw [show Traffic.issues ([] : List (Traffic η)) = [] from rfl,
          List.append_nil, hraw, hp]
      · rfl
  | discarded accepted e =>
      -- the one handle was closed, whether or not the library accepted that
      constructor
      · rw [issues_discarded, closes_discarded, List.append_nil, hraw, hclosing]
        rfl
      · exact hclose.symm
  | abandoned f => exact hclosing.symm

theorem Opening.settles (h : Opening op.sort new o) (hgiven : op.given = [])
    (hclosing : op.closing = []) (hclose : op.toClose = none) :
    op.Settles (Traffic.issues new) (Traffic.closes new) o := by
  cases h with
  | failed e =>
      refine ⟨?_, hclose.symm⟩
      rw [hclosing, hgiven]
      rfl
  | faulted f => exact hclosing.symm
  | @issued raw new o h =>
      refine h.settles [.issued raw] ?_ rfl hclosing hclose
      rw [hgiven]
      rfl

theorem Closing.settles (h : Closing sort proxy new o) (hgiven : op.given = [])
    (hclosing : op.closing = [(sort, proxy.handle)])
    (hclose : op.toClose = some proxy) :
    op.Settles (Traffic.issues new) (Traffic.closes new) o := by
  cases h with
  | closed n => exact ⟨by rw [hgiven]; rfl, hclosing.symm⟩
  | refused e =>
      refine ⟨?_, hclose.symm⟩
      rw [hclosing, hgiven]
      rfl
  | faulted f => exact hclosing.symm

theorem Mistaken.settles (h : Mistaken proxy new o) (hgiven : op.given = [])
    (hclosing : op.closing = []) (hclose : op.toClose = some proxy) :
    op.Settles (Traffic.issues new) (Traffic.closes new) o := by
  cases h with
  | refused e =>
      refine ⟨?_, hclose.symm⟩
      rw [hclosing, hgiven]
      rfl

theorem Silent.settles {answers : Answer η → Prop} (h : Silent answers new o)
    (hanswers : ∀ p, ¬ answers (.proxy p)) (hgiven : op.given = [])
    (hclosing : op.closing = []) (hclose : op.toClose = none) :
    op.Settles (Traffic.issues new) (Traffic.closes new) o := by
  cases h with
  | @answered a ha =>
      have hnone : op.given ++ Traffic.issues [] = [] := by
        rw [hgiven]
        rfl
      cases a with
      | proxy p => exact absurd ha (hanswers p)
      | remaining n => exact ⟨hnone, hclosing.symm⟩
      | bytes n => exact ⟨hnone, hclosing.symm⟩
      | context c => exact ⟨hnone, hclosing.symm⟩
      | raw r => exact ⟨hnone, hclosing.symm⟩
  | refused e =>
      refine ⟨?_, hclose.symm⟩
      rw [hclosing, hgiven]
      rfl
  | faulted f => exact hclosing.symm

/-- The traffic of an operation settles what it owes. -/
theorem Op.Makes.settles (h : op.Makes new o) :
    op.Settles (Traffic.issues new) (Traffic.closes new) o := by
  cases op with
  | openFile access name => exact Opening.settles h rfl rfl rfl
  | openObject access parent kind name => exact Opening.settles h rfl rfl rfl
  | wrapObject raw kind context =>
      exact Custody.settles [] h rfl rfl rfl rfl
  | completeRequest parent raw kind name =>
      exact Custody.settles [] h rfl rfl rfl rfl
  | closeFile proxy =>
      cases htarget : proxy.target with
      | container id =>
          rw [Makes, htarget] at h
          exact h.settles rfl (by rw [closing, htarget]) rfl
      | object node =>
          rw [Makes, htarget] at h
          exact h.settles rfl (by rw [closing, htarget]) rfl
  | closeObject proxy =>
      cases htarget : proxy.target with
      | container id =>
          rw [Makes, htarget] at h
          exact h.settles rfl (by rw [closing, htarget]) rfl
      | object node =>
          rw [Makes, htarget] at h
          exact h.settles rfl (by rw [closing, htarget]) rfl
  | readDataset proxy selected =>
      exact Silent.settles h (fun p hp => nomatch hp) rfl rfl rfl
  | writeDataset proxy selected =>
      exact Silent.settles h (fun p hp => nomatch hp) rfl rfl rfl
  | pin proxy => exact Silent.settles h (fun p hp => nomatch hp) rfl rfl rfl
  | unpin context => exact Silent.settles h (fun p hp => nomatch hp) rfl rfl rfl
  | unwrapObject proxy =>
      exact Silent.settles h (fun p hp => nomatch hp) rfl rfl rfl

end

/-! ## Over any library -/

/-- The same interceptor, whose library is watched from now on. -/
def watched (i : Interceptor ω τ) : Interceptor (Watched ω η) τ :=
  ⟨.start i.world, i.registry, i.stats, i.overhead, i.config⟩

/-- Whatever the state of an interceptor, an operation settles what it owes, as
    a watched library sees it; and it ends as it does when nobody watches. -/
theorem Op.run_settles [Library ω η τ] [Host ω] (memory : Memory) (op : Op η)
    (i : Interceptor ω τ) {r : Ending (Interceptor (Watched ω η) τ) _ _}
    (hr : op.run memory i.watched = r) :
    op.Settles r.state.world.issued r.state.world.closed r.outcome ∧
      op.run memory i
        = ⟨r.outcome, along Watched.world r.state, r.events⟩ := by
  subst hr
  constructor
  · obtain ⟨new, hnew, hissued, hclosed⟩ := Op.run_makes Watched.follows memory op
      (i := i.watched) (Watched.Records.start i.world [])
    rw [hissued, hclosed]
    exact hnew.settles
  · exact Op.run_mirrors Watched.projects memory op i.watched

end Provenance.Interceptor
