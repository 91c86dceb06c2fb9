import Estuary.Provider

/-!
# The ledger records only what was published

The ledger is the loop's memory of what the indexer has been told, so it must never
claim more: a row may only be written right after a successful `NotifyPut` of exactly
that batch, and a batch is only retracted while the ledger holds a row for it.

The proof is by an invariant of the state the loop changes (`Provenance`): the ledger is
what the successful writes of the log made it (`replayRows`), and every call of the log
is allowed by the calls before it (`LogAllowed`). Each branch of the loop body keeps it,
whatever the oracle answers, so every run keeps it, including every state inside a tick.

## Main definitions

* `Event.writes`, `replayRows` — the ledger as a function of the log
* `Event.Allowed`, `LogAllowed` — what a call must satisfy given the calls before it
* `Provenance` — the invariant

## Main results

* `Provenance.advertiseBatch` — the loop body keeps the invariant, for every oracle
* `Provenance.run` — so does every run from the empty ledger
* `run_ledger_provenance` — what the invariant says about the rows, the writes, a failed
  `NotifyPut` and the retractions of a run
-/

namespace Estuary

/-- `pre ++ e :: post` ends in `x` exactly when `e` is that `x`, or `e` comes earlier. -/
theorem append_cons_eq_snoc {α : Type} {pre post log : List α} {e x : α} :
    pre ++ e :: post = log ++ [x] ↔
      (pre = log ∧ e = x ∧ post = []) ∨ ∃ post', post = post' ++ [x] ∧ log = pre ++ e :: post' := by
  rw [List.append_eq_append_iff]
  constructor
  · rintro (⟨a', rfl, h⟩ | ⟨c', rfl, h⟩)
    · rcases a' with _ | ⟨y, a'⟩
      · simp only [List.nil_append, List.cons.injEq] at h
        exact .inl ⟨by simp, h.1, h.2⟩
      · simp only [List.cons_append, List.cons.injEq] at h
        obtain ⟨rfl, rfl⟩ := h
        exact .inr ⟨a', rfl, rfl⟩
    · rcases c' with _ | ⟨y, c'⟩
      · simp only [List.nil_append, List.cons.injEq] at h
        exact .inl ⟨by simp, h.1.symm, by cases h.2; rfl⟩
      · simp at h
  · rintro (⟨rfl, rfl, rfl⟩ | ⟨post', rfl, rfl⟩)
    · exact .inl ⟨[], by simp, by simp⟩
    · exact .inl ⟨e :: post', by simp, by simp⟩

variable {PeerID : Type}

/-! ## The ledger as a function of the log -/

/-- The row a successful create or save writes. -/
def Event.writes : Event PeerID → Option PublishedBatch
  | ⟨.create b, true⟩ => some b
  | ⟨.save b, true⟩ => some b
  | _ => none

/-- The rows after one call: a successful create appends its row, a successful save
writes its row over the one with the same ID, any other call changes nothing. -/
def applyWrite (rows : List PublishedBatch) : Event PeerID → List PublishedBatch
  | ⟨.create b, true⟩ => rows ++ [b]
  | ⟨.save b, true⟩ => rows.map fun r => if r.id = b.id then b else r
  | _ => rows

/-- The rows the successful writes of a log leave, from the empty table. -/
def replayRows (log : List (Event PeerID)) : List PublishedBatch := log.foldl applyWrite []

theorem replayRows_snoc (log : List (Event PeerID)) (e : Event PeerID) :
    replayRows (log ++ [e]) = applyWrite (replayRows log) e :=
  List.foldl_append _ _ _ _

theorem applyWrite_of_writes_eq_none {rows : List PublishedBatch} {e : Event PeerID}
    (h : e.writes = none) : applyWrite rows e = rows := by
  rcases e with ⟨_ | _ | _ | _ | _, _ | _⟩ <;> first | rfl | cases h

theorem mem_applyWrite {rows : List PublishedBatch} {e : Event PeerID} {r : PublishedBatch}
    (h : r ∈ applyWrite rows e) : r ∈ rows ∨ e.writes = some r := by
  rcases e with ⟨_ | _ | _ | b | b, _ | _⟩ <;> simp only [applyWrite] at h <;>
    try exact .inl h
  · rcases List.mem_append.mp h with h | h
    · exact .inl h
    · exact .inr (by simpa [Event.writes] using (List.mem_singleton.mp h).symm)
  · obtain ⟨r', hr', rfl⟩ := List.mem_map.mp h
    by_cases hid : r'.id = b.id
    · exact .inr (by simp [Event.writes, hid])
    · exact .inl (by simpa [hid] using hr')

/-- Every row of the replayed ledger was written by some call of the log. -/
theorem exists_writes_of_mem_replayRows {r : PublishedBatch} :
    ∀ {log : List (Event PeerID)}, r ∈ replayRows log →
      ∃ pre e post, log = pre ++ e :: post ∧ e.writes = some r := by
  intro log
  induction log using List.reverseRecOn with
  | nil => simp [replayRows]
  | append_singleton log x ih =>
    intro h
    rw [replayRows_snoc] at h
    rcases mem_applyWrite h with h | h
    · obtain ⟨pre, e, post, rfl, he⟩ := ih h
      exact ⟨pre, e, post ++ [x], by simp, he⟩
    · exact ⟨log, x, [], rfl, h⟩

/-! ## Allowed calls, and the invariant -/

section Allowed

variable (lib : PeerLib PeerID) (batchSize : Nat)

/-- The call is a successful `NotifyPut` of the batch at `first` with `count` for
`handle`, under the context ID `makeContextID` gives that batch for the peer announced,
with the batch size. -/
def Event.IsPutOf (e : Event PeerID) (handle : String) (first count : Nat) : Prop :=
  ∃ addrInfo contextID, e = ⟨.notifyPut handle first count addrInfo contextID, true⟩ ∧
    makeContextID lib ⟨addrInfo.id, first, batchSize⟩ = .ok contextID

/-- What a call must satisfy given the calls before it: a successful write comes right
after a successful `NotifyPut` of its row, and a `NotifyRemove` is only made while the
ledger holds a row for its handle and first content ID. -/
structure Event.Allowed (pre : List (Event PeerID)) (e : Event PeerID) : Prop where
  write : ∀ b, e.writes = some b →
    ∃ put ∈ pre.getLast?,
      put.IsPutOf lib batchSize b.autoretrieveHandle b.firstContentID b.count
  remove : ∀ handle first count provider contextID,
    e.call = .notifyRemove handle first count provider contextID →
      ∃ r ∈ replayRows pre, r.autoretrieveHandle = handle ∧ r.firstContentID = first

/-- Every call of the log is allowed by the calls before it. -/
def LogAllowed (log : List (Event PeerID)) : Prop :=
  ∀ pre e post, log = pre ++ e :: post → e.Allowed lib batchSize pre

/-- The invariant of the loop: the ledger is what the log's writes made it, and every
call of the log is allowed. -/
structure Provenance (w : World PeerID) : Prop where
  rows_eq : w.ledger.rows = replayRows w.log
  allowed : LogAllowed lib batchSize w.log

end Allowed

variable {lib : PeerLib PeerID} {batchSize : Nat}

/-- A call that writes nothing and retracts nothing is always allowed. -/
theorem Event.Allowed.quiet {pre : List (Event PeerID)} {e : Event PeerID}
    (hw : e.writes = none)
    (hr : ∀ handle first count provider contextID,
      e.call ≠ .notifyRemove handle first count provider contextID) :
    e.Allowed lib batchSize pre :=
  ⟨fun _ h => by simp [hw] at h, fun _ _ _ _ _ h => absurd h (hr _ _ _ _ _)⟩

theorem logAllowed_snoc {log : List (Event PeerID)} {e : Event PeerID} :
    LogAllowed lib batchSize (log ++ [e]) ↔
      LogAllowed lib batchSize log ∧ e.Allowed lib batchSize log := by
  refine ⟨fun h => ⟨fun pre x post hl => h pre x (post ++ [e]) (by simp [hl]),
    h log e [] rfl⟩, fun ⟨h, he⟩ pre x post hl => ?_⟩
  rcases append_cons_eq_snoc.mp hl.symm with ⟨rfl, rfl, rfl⟩ | ⟨post', rfl, hl'⟩
  · exact he
  · exact h pre x post' hl'

theorem LogAllowed.of_append {log log' : List (Event PeerID)}
    (h : LogAllowed lib batchSize (log ++ log')) : LogAllowed lib batchSize log :=
  fun pre e post hl => h pre e (post ++ log') (by simp [hl])

/-- In an allowed log, every row of the replayed ledger was written by a call that came
right after a successful `NotifyPut` of exactly that row's batch. -/
theorem LogAllowed.exists_put_of_mem {log : List (Event PeerID)}
    (h : LogAllowed lib batchSize log) {r : PublishedBatch} (hr : r ∈ replayRows log) :
    ∃ pre put e post, log = pre ++ put :: e :: post ∧
      put.IsPutOf lib batchSize r.autoretrieveHandle r.firstContentID r.count ∧
        e.writes = some r := by
  obtain ⟨pre, e, post, rfl, he⟩ := exists_writes_of_mem_replayRows hr
  obtain ⟨put, hput, hisput⟩ := (h pre e post rfl).write r he
  refine ⟨pre.dropLast, put, e, post, ?_, hisput, he⟩
  rw [← List.dropLast_append_getLast? put hput]
  simp

/-! ## Calls that keep the invariant -/

theorem provenance_empty : Provenance lib batchSize (World.empty : World PeerID) :=
  ⟨rfl, fun pre e post h => by simp [World.empty] at h⟩

theorem Provenance.record {w : World PeerID} (hp : Provenance lib batchSize w)
    (call : Call PeerID) (ok : Bool) (hw : Event.writes ⟨call, ok⟩ = none)
    (ha : Event.Allowed lib batchSize w.log ⟨call, ok⟩) :
    Provenance lib batchSize (w.record call ok) :=
  ⟨by rw [World.record_ledger, World.record_log, replayRows_snoc,
      applyWrite_of_writes_eq_none hw, hp.rows_eq],
    logAllowed_snoc.mpr ⟨hp.allowed, ha⟩⟩

/-- A call that writes nothing and retracts nothing keeps the invariant. -/
theorem Provenance.record_quiet {w : World PeerID} (hp : Provenance lib batchSize w)
    (call : Call PeerID) (ok : Bool) (hw : Event.writes ⟨call, ok⟩ = none)
    (hr : ∀ handle first count provider contextID,
      call ≠ .notifyRemove handle first count provider contextID) :
    Provenance lib batchSize (w.record call ok) :=
  hp.record call ok hw (.quiet hw hr)

theorem Provenance.write {w : World PeerID} (hp : Provenance lib batchSize w)
    {call : Call PeerID} {ledger : Ledger} (ha : Event.Allowed lib batchSize w.log ⟨call, true⟩)
    (hrows : ledger.rows = applyWrite w.ledger.rows ⟨call, true⟩) :
    Provenance lib batchSize { w.record call true with ledger } :=
  ⟨by rw [World.record_log, replayRows_snoc, hrows, hp.rows_eq],
    logAllowed_snoc.mpr ⟨hp.allowed, ha⟩⟩

/-! ## Every branch of the loop keeps the invariant -/

section Step

variable {oracle : Oracle PeerID} {a : Autoretrieve}
  {addrInfo : AddrInfo PeerID} {w : World PeerID} {win : Window} {contextID : Bytes}

/-- A create comes right after the successful `NotifyPut` of its batch. -/
theorem Provenance.publishBatch (hp : Provenance lib batchSize w)
    (hctx : makeContextID lib ⟨addrInfo.id, win.first, batchSize⟩ = .ok contextID) :
    Provenance lib batchSize (publishBatch oracle a addrInfo w win contextID) := by
  unfold Estuary.publishBatch
  dsimp only
  split
  · have hput := hp.record_quiet
      (.notifyPut a.handle win.first win.count addrInfo contextID) true rfl
      fun _ _ _ _ _ h => by cases h
    split
    · next ledger hcreate =>
      obtain ⟨-, rfl⟩ := Ledger.create_eq_some hcreate
      refine hput.write ⟨fun b hb => ?_, fun _ _ _ _ _ h => by cases h⟩ rfl
      cases hb
      exact ⟨⟨.notifyPut a.handle win.first win.count addrInfo contextID, true⟩, by simp,
        addrInfo, contextID, rfl, hctx⟩
    · exact hput.record_quiet _ _ (by rfl) fun _ _ _ _ _ h => by cases h
  · exact hp.record_quiet _ _ (by rfl) fun _ _ _ _ _ h => by cases h

/-- A retraction is made while the ledger holds the batch's row, and the save comes right
after the successful `NotifyPut` of the batch. -/
theorem Provenance.republishBatch (hp : Provenance lib batchSize w)
    (hctx : makeContextID lib ⟨addrInfo.id, win.first, batchSize⟩ = .ok contextID)
    {publishedBatch : PublishedBatch} (hmem : publishedBatch ∈ w.ledger.rows)
    (hhandle : publishedBatch.autoretrieveHandle = a.handle)
    (hfirst : publishedBatch.firstContentID = win.first) :
    Provenance lib batchSize (republishBatch oracle a addrInfo w win contextID publishedBatch) := by
  unfold Estuary.republishBatch
  dsimp only
  generalize oracle w.log (.notifyRemove a.handle win.first win.count addrInfo.id contextID) = ok
  have hheld : ∃ r ∈ replayRows w.log, r.autoretrieveHandle = a.handle ∧
      r.firstContentID = win.first := ⟨publishedBatch, hp.rows_eq ▸ hmem, hhandle, hfirst⟩
  have hremove := hp.record (.notifyRemove a.handle win.first win.count addrInfo.id contextID)
    ok (by cases ok <;> rfl)
    ⟨fun _ h => (by cases ok <;> cases h), fun _ _ _ _ _ h => (by cases h; exact hheld)⟩
  split
  · have hput := hremove.record_quiet
      (.notifyPut a.handle win.first win.count addrInfo contextID) true rfl
      fun _ _ _ _ _ h => by cases h
    split
    · refine hput.write ⟨fun b hb => ?_, fun _ _ _ _ _ h => by cases h⟩ rfl
      cases hb
      exact ⟨⟨.notifyPut a.handle win.first win.count addrInfo contextID, true⟩, by simp,
        addrInfo, contextID, by simp [hhandle, hfirst], by rwa [hfirst]⟩
    · exact hput.record_quiet _ _ (by rfl) fun _ _ _ _ _ h => by cases h
  · exact hremove.record_quiet _ _ (by rfl) fun _ _ _ _ _ h => by cases h

/-- The loop body keeps the invariant, whatever the oracle answers. -/
theorem Provenance.advertiseBatch (p : Provider) (hp : Provenance lib p.batchSize w) :
    Provenance lib p.batchSize (p.advertiseBatch lib oracle a addrInfo w win) := by
  unfold Provider.advertiseBatch
  dsimp only
  split
  · have hfind := hp.record_quiet (.find a.handle win.first) true rfl
      fun _ _ _ _ _ h => by cases h
    split
    · exact hfind
    split
    · exact hfind
    next contextID hctx =>
    split
    · exact hfind.publishBatch hctx
    · next publishedBatch rest hbatches =>
      have hmem : publishedBatch ∈ w.ledger.find a.handle win.first := by
        rw [← World.record_ledger w (.find a.handle win.first) true, hbatches]
        exact List.mem_cons_self _ _
      obtain ⟨hrow, hhandle, hfirst⟩ := Ledger.mem_find.mp hmem
      split
      · exact hfind.republishBatch hctx hrow hhandle hfirst
      · exact hfind
  · exact hp.record_quiet _ _ (by rfl) fun _ _ _ _ _ h => by cases h

end Step

/-- Every run from the empty ledger keeps the invariant. -/
theorem Provenance.run {p : Provider} {ticks : List (Tick PeerID)}
    {w : World PeerID} (h : p.run lib ticks World.empty = some w) : Provenance lib p.batchSize w :=
  Provider.run_induction (fun _ _ _ _ _ hp => hp.advertiseBatch p) provenance_empty h

/-! ## What the invariant says -/

theorem writes_of_ok_false {call : Call PeerID} : Event.writes ⟨call, false⟩ = none := by
  cases call <;> rfl

/-- A successful write comes right after a successful `NotifyPut` of its row's batch. -/
theorem LogAllowed.put_before_write {log : List (Event PeerID)}
    (hl : LogAllowed lib batchSize log) {pre post : List (Event PeerID)} {e : Event PeerID}
    {b : PublishedBatch} (hlog : log = pre ++ e :: post) (hb : e.writes = some b) :
    ∃ pre' put, pre = pre' ++ [put] ∧
      put.IsPutOf lib batchSize b.autoretrieveHandle b.firstContentID b.count := by
  obtain ⟨put, hput, hisput⟩ := (hl pre e post hlog).write b hb
  obtain ⟨pre', rfl⟩ := List.getLast?_eq_some_iff.mp hput
  exact ⟨pre', put, rfl, hisput⟩

/-- After a failed call, the ledger stays as it was until the next successful
`NotifyPut`. -/
theorem LogAllowed.replayRows_after_failed {log : List (Event PeerID)}
    (hl : LogAllowed lib batchSize log) {pre : List (Event PeerID)} {e : Event PeerID}
    (he : e.ok = false) :
    ∀ {mid post : List (Event PeerID)}, log = pre ++ e :: (mid ++ post) →
      (∀ x ∈ mid, ∀ handle first count, ¬ x.IsPutOf lib batchSize handle first count) →
      replayRows (pre ++ e :: mid) = replayRows pre := by
  intro mid
  induction mid using List.reverseRecOn with
  | nil =>
    intro _ _ _
    rcases e with ⟨call, _ | _⟩
    · rw [← List.singleton_append, ← List.append_assoc, List.append_nil, replayRows_snoc,
        applyWrite_of_writes_eq_none writes_of_ok_false]
    · cases he
  | append_singleton mid x ih =>
    intro post hlog hmid
    have hnone : x.writes = none := by
      cases hx : x.writes with
      | none => rfl
      | some b =>
        obtain ⟨put, hput, hisput⟩ :=
          (hl (pre ++ e :: mid) x post (by simp [hlog])).write b hx
        rw [List.getLast?_append_of_ne_nil _ (List.cons_ne_nil e mid)] at hput
        rcases List.mem_cons.mp (List.mem_of_getLast?_eq_some hput) with rfl | hmem
        · obtain ⟨_, _, rfl, -⟩ := hisput
          cases he
        · exact absurd hisput (hmid put (List.mem_append_left _ hmem) _ _ _)
    rw [← List.cons_append, ← List.append_assoc, replayRows_snoc,
      applyWrite_of_writes_eq_none hnone]
    exact @ih (x :: post) (by simp [hlog]) fun y hy => hmid y (List.mem_append_left _ hy)

/-- A `NotifyRemove` is made while the ledger holds a row for its handle and first
content ID, hence after a successful `NotifyPut` for them. -/
theorem LogAllowed.put_before_remove {log : List (Event PeerID)}
    (hl : LogAllowed lib batchSize log) {pre post : List (Event PeerID)} {e : Event PeerID}
    {handle : String}
    {first count : Nat} {provider : PeerID} {contextID : Bytes}
    (hlog : log = pre ++ e :: post)
    (he : e.call = .notifyRemove handle first count provider contextID) :
    (∃ r ∈ replayRows pre, r.autoretrieveHandle = handle ∧ r.firstContentID = first) ∧
      ∃ pre' put mid count', pre = pre' ++ put :: mid ∧
        put.IsPutOf lib batchSize handle first count' := by
  obtain ⟨r, hr, hh, hf⟩ := (hl pre e post hlog).remove _ _ _ _ _ he
  subst hlog
  obtain ⟨pre', put, e', post', hpre, hisput, -⟩ := hl.of_append.exists_put_of_mem hr
  exact ⟨⟨r, hr, hh, hf⟩, pre', put, e' :: post', r.count, hpre, hh ▸ hf ▸ hisput⟩

/-- The ledger never claims an unpublished batch. In every run from the empty ledger,
whatever the catalog does and whichever calls fail: every row was written right after a
successful `NotifyPut` of exactly its batch, under the context ID `makeContextID` gives
that batch; every successful write comes right after a successful `NotifyPut` of its
row's batch; after a failed `NotifyPut` the ledger stays
as it was until the next successful `NotifyPut`; and every `NotifyRemove` is made while
the ledger holds a row for its handle and first content ID, after a successful
`NotifyPut` for them. -/
theorem run_ledger_provenance (lib : PeerLib PeerID) (p : Provider)
    (ticks : List (Tick PeerID)) {w : World PeerID} (h : p.run lib ticks World.empty = some w) :
    (∀ r ∈ w.ledger.rows, ∃ pre put e post, w.log = pre ++ put :: e :: post ∧
        put.IsPutOf lib p.batchSize r.autoretrieveHandle r.firstContentID r.count ∧
          e.writes = some r) ∧
    (∀ pre e post b, w.log = pre ++ e :: post → e.writes = some b →
        ∃ pre' put, pre = pre' ++ [put] ∧
          put.IsPutOf lib p.batchSize b.autoretrieveHandle b.firstContentID b.count) ∧
    (∀ pre handle first count addrInfo contextID mid post,
        w.log = pre ++ ⟨.notifyPut handle first count addrInfo contextID, false⟩ :: (mid ++ post) →
        (∀ x ∈ mid, ∀ handle first count, ¬ x.IsPutOf lib p.batchSize handle first count) →
        replayRows (pre ++ ⟨.notifyPut handle first count addrInfo contextID, false⟩ :: mid) =
          replayRows pre) ∧
    (∀ pre e post handle first count provider contextID, w.log = pre ++ e :: post →
        e.call = .notifyRemove handle first count provider contextID →
        (∃ r ∈ replayRows pre, r.autoretrieveHandle = handle ∧ r.firstContentID = first) ∧
          ∃ pre' put mid count', pre = pre' ++ put :: mid ∧
            put.IsPutOf lib p.batchSize handle first count') := by
  have hp := Provenance.run h
  refine ⟨fun r hr => hp.allowed.exists_put_of_mem (hp.rows_eq ▸ hr),
    fun _ _ _ _ hlog hb => hp.allowed.put_before_write hlog hb,
    fun _ _ _ _ _ _ _ _ hlog hmid => hp.allowed.replayRows_after_failed rfl hlog hmid,
    fun _ _ _ _ _ _ _ _ hlog he => hp.allowed.put_before_remove hlog he⟩

theorem run_ledger_provenance_oneTick :
    ∃ w, (newProvider 1).run rawPeerLib [.reliable 60000 [⟨"a", 0, "x"⟩]] World.empty = some w ∧
      ∀ r ∈ w.ledger.rows, ∃ pre put e post, w.log = pre ++ put :: e :: post ∧
        put.IsPutOf rawPeerLib 25000 r.autoretrieveHandle r.firstContentID r.count ∧
          e.writes = some r :=
  ⟨_, rfl, (run_ledger_provenance rawPeerLib (newProvider 1) [.reliable 60000 [⟨"a", 0, "x"⟩]]
    rfl).1⟩

end Estuary
