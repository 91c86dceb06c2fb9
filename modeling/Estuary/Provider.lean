import Estuary.ContextID
import Estuary.Planner
import Estuary.Ledger

/-!
# The advertisement loop

On every tick `Provider.Run` reads the highest content ID and the registered
autoretrieves, and for every autoretrieve that is online and has a parseable address it
walks the batch windows (`plan`). For each batch it looks up the ledger row and either
skips the batch, publishes it and inserts its row, or retracts it, publishes it again
and saves the row with the new count. Every failure is logged and skips only what it
concerns: a failed lookup, context ID or `NotifyPut` skips the batch, a failed
`NotifyRemove` is ignored, a failed ledger write is only logged.

The engine and the database are the environment. Each call the loop makes is recorded
in a log, and an `Oracle` decides whether it gets through, seeing every call before it,
so that every pattern of failures is one oracle.

## Main definitions

* `Autoretrieve`, `Provider` — the columns and fields the loop reads
* `Call`, `Event`, `Oracle`, `World` — the calls, their outcomes, and the state the loop
  changes: the ledger and the log
* `Provider.advertiseBatch` — the body of the window loop
* `Provider.advertiseTo`, `Provider.tick`, `Provider.run` — the loops around it

## Main results

* `Provider.run_induction` — what the loop body keeps, every run keeps
* `advertiseBatch_ledger` — the body inserts the batch's row, saves the row it found with
  the new count, or leaves the ledger as it was
* `advertiseBatch_of_current`, `advertiseBatch_of_stale`, `advertiseBatch_of_free` — the
  body on a batch whose row has its count, has another count, or is missing
-/

namespace Estuary

/-- A registered autoretrieve (`Autoretrieve`), with the columns the loop reads. -/
structure Autoretrieve where
  handle : String
  /-- `LastConnection`, in nanoseconds. -/
  lastConnection : Int
  /-- `Addresses`: multiaddresses separated by commas. -/
  addresses : String
  deriving DecidableEq, Repr

/-- `Provider`, with the fields `Run` reads. -/
structure Provider where
  /-- `advertisementInterval`, in nanoseconds. -/
  advertisementInterval : Int
  batchSize : Nat
  deriving DecidableEq, Repr

/-- `NewProvider` fixes the batch size at 25000. -/
def newProvider (advertisementInterval : Int) : Provider := ⟨advertisementInterval, 25000⟩

/-- A call of the loop to the ledger or to the engine. Engine calls carry the handle,
first content ID and count the loop's logger is scoped with. -/
inductive Call (PeerID : Type)
  /-- The ledger lookup of a batch. -/
  | find (handle : String) (firstContentID : Nat)
  /-- `engine.NotifyPut(ctx, addrInfo, contextID, metadata)`. -/
  | notifyPut (handle : String) (firstContentID count : Nat) (addrInfo : AddrInfo PeerID)
      (contextID : Bytes)
  /-- `engine.NotifyRemove(ctx, addrInfo.ID, contextID)`. -/
  | notifyRemove (handle : String) (firstContentID count : Nat) (provider : PeerID)
      (contextID : Bytes)
  /-- `db.Create` of a row. -/
  | create (batch : PublishedBatch)
  /-- `db.Save` of a row. -/
  | save (batch : PublishedBatch)
  deriving DecidableEq, Repr

/-- A call and whether it succeeded. -/
structure Event (PeerID : Type) where
  call : Call PeerID
  ok : Bool
  deriving DecidableEq, Repr

/-- Whether a call gets through the network and the database, given every call before
it. A create that gets through can still be rejected by the unique index. -/
def Oracle (PeerID : Type) := List (Event PeerID) → Call PeerID → Bool

/-- The ledger and the log of every call so far, oldest first. -/
structure World (PeerID : Type) where
  ledger : Ledger
  log : List (Event PeerID)
  deriving DecidableEq, Repr

/-- The empty ledger, before any call. -/
def World.empty {PeerID : Type} : World PeerID := ⟨Ledger.empty, []⟩

/-- Append a call and its outcome to the log. -/
def World.record {PeerID : Type} (w : World PeerID) (call : Call PeerID) (ok : Bool) :
    World PeerID :=
  { w with log := w.log ++ [⟨call, ok⟩] }

@[simp] theorem World.record_ledger {PeerID : Type} (w : World PeerID) (call : Call PeerID)
    (ok : Bool) : (w.record call ok).ledger = w.ledger := rfl

@[simp] theorem World.record_log {PeerID : Type} (w : World PeerID) (call : Call PeerID)
    (ok : Bool) : (w.record call ok).log = w.log ++ [⟨call, ok⟩] := rfl

/-- `len(publishedBatches) != 0 && publishedBatches[0].Count == count`. -/
def alreadyAdvertised (publishedBatches : List PublishedBatch) (count : Nat) : Bool :=
  match publishedBatches with
  | b :: _ => decide (b.count = count)
  | [] => false

variable {PeerID : Type} (lib : PeerLib PeerID)

/-- `Autoretrieve.AddrInfo`: the first of the comma-separated addresses, parsed.
`strings.Split(autoretrieve.Addresses, ",")[0]` is everything before the first comma. -/
def Autoretrieve.addrInfo (a : Autoretrieve) : Except String (AddrInfo PeerID) :=
  lib.addrInfoFromString (String.mk (a.addresses.toList.takeWhile (· ≠ ',')))

section Batch

variable (oracle : Oracle PeerID) (a : Autoretrieve) (addrInfo : AddrInfo PeerID)

/-- A batch without a row: `NotifyPut`, then `db.Create` of its row. -/
def publishBatch (w : World PeerID) (win : Window) (contextID : Bytes) : World PeerID :=
  let put := Call.notifyPut a.handle win.first win.count addrInfo contextID
  if oracle w.log put then
    let w := w.record put true
    let create := Call.create ⟨w.ledger.nextID, win.first, win.count, a.handle⟩
    match oracle w.log create, w.ledger.create win.first win.count a.handle with
    | true, some ledger => { w.record create true with ledger }
    | _, _ => w.record create false
  else w.record put false

/-- A batch whose row has another count: `NotifyRemove`, whose failure is only logged,
then `NotifyPut`, then `db.Save` of the row with the new count. -/
def republishBatch (w : World PeerID) (win : Window) (contextID : Bytes)
    (publishedBatch : PublishedBatch) : World PeerID :=
  let remove := Call.notifyRemove a.handle win.first win.count addrInfo.id contextID
  let w := w.record remove (oracle w.log remove)
  let put := Call.notifyPut a.handle win.first win.count addrInfo contextID
  if oracle w.log put then
    let w := w.record put true
    let batch := { publishedBatch with count := win.count }
    let save := Call.save batch
    if oracle w.log save then { w.record save true with ledger := w.ledger.save batch }
    else w.record save false
  else w.record put false

/-- The body of the window loop of `Provider.Run`, from the ledger lookup on. -/
def Provider.advertiseBatch (p : Provider) (w : World PeerID) (win : Window) :
    World PeerID :=
  let lookup := Call.find a.handle win.first
  if oracle w.log lookup then
    let w := w.record lookup true
    let publishedBatches := w.ledger.find a.handle win.first
    if alreadyAdvertised publishedBatches win.count then w
    else
      match makeContextID lib ⟨addrInfo.id, win.first, p.batchSize⟩ with
      | .error _ => w
      | .ok contextID =>
        match publishedBatches with
        | [] => publishBatch oracle a addrInfo w win contextID
        | publishedBatch :: _ =>
          if publishedBatch.count ≠ win.count then
            republishBatch oracle a addrInfo w win contextID publishedBatch
          else w
  else w.record lookup false

end Batch

/-- The loop for one autoretrieve: skipped when it is offline or its address does not
parse, otherwise the body for every batch of the plan in order; `none` when the window
loop never exits. -/
def Provider.advertiseTo (p : Provider) (oracle : Oracle PeerID) (now : Int) (lastID : Nat)
    (w : World PeerID) (a : Autoretrieve) : Option (World PeerID) :=
  if p.advertisementInterval < now - a.lastConnection then some w
  else
    match a.addrInfo lib with
    | .error _ => some w
    | .ok addrInfo =>
      (plan p.batchSize lastID).map fun windows =>
        windows.foldl (p.advertiseBatch lib oracle a addrInfo) w

/-- What one tick sees: the highest content ID and the registered autoretrieves as the
database returns them, the time, and which calls get through. -/
structure Tick (PeerID : Type) where
  /-- `db.Last(&lastContent)`: the highest content ID, or the error. -/
  lastContent : Except String Nat
  /-- `db.Find(&autoretrieves)`. -/
  autoretrieves : Except String (List Autoretrieve)
  /-- The time of the tick, in nanoseconds. -/
  now : Int
  oracle : Oracle PeerID

/-- One tick of `Provider.Run`, skipped when either read fails; `none` when it never
ends. -/
def Provider.tick (p : Provider) (t : Tick PeerID) (w : World PeerID) :
    Option (World PeerID) :=
  match t.lastContent, t.autoretrieves with
  | .ok lastID, .ok autoretrieves =>
    autoretrieves.foldlM (p.advertiseTo lib t.oracle t.now lastID) w
  | _, _ => some w

/-- A tick at `lastID` at time 0 in which every call gets through. -/
def Tick.reliable (lastID : Nat) (autoretrieves : List Autoretrieve) : Tick PeerID :=
  ⟨.ok lastID, .ok autoretrieves, 0, fun _ _ => true⟩

/-- A call to the engine: `NotifyPut` or `NotifyRemove`. -/
def Call.isNotify : Call PeerID → Bool
  | .notifyPut .. | .notifyRemove .. => true
  | _ => false

/-- The autoretrieve and the first content ID a call is made for. -/
def Call.batchKey : Call PeerID → String × Nat
  | .find handle first | .notifyPut handle first .. | .notifyRemove handle first .. =>
    (handle, first)
  | .create b | .save b => (b.autoretrieveHandle, b.firstContentID)

/-- Every call made for the batch at `first` of `handle` gets through. -/
def Oracle.Delivers (oracle : Oracle PeerID) (handle : String) (first : Nat) : Prop :=
  ∀ log call, Call.batchKey call = (handle, first) → oracle log call = true

/-- `Provider.Run`: the ticks before the context is cancelled, in order. -/
def Provider.run (p : Provider) (ticks : List (Tick PeerID)) (w : World PeerID) :
    Option (World PeerID) :=
  ticks.foldlM (fun w t => p.tick lib t w) w

/-! ## Invariants of whole runs

A property of the world that the loop body keeps, whatever the oracle, the autoretrieve
and the batch, is kept by every tick and every run: the loops around the body only skip,
or fold the body over the plan. -/

/-- A predicate that every step keeps holds after a fold of steps that may fail. -/
theorem foldlM_option_induction {α β : Type} {P : α → Prop} {f : α → β → Option α}
    (hf : ∀ x y x', P x → f x y = some x' → P x') :
    ∀ (l : List β) {x x' : α}, P x → l.foldlM f x = some x' → P x'
  | [], _, _, hx, h => Option.some.inj h ▸ hx
  | y :: l, _, _, hx, h => by
    obtain ⟨x₁, h₁, h⟩ := Option.bind_eq_some.mp h
    exact foldlM_option_induction hf l (hf _ y _ hx h₁) h

section Runs

variable {lib} {p : Provider} {P : World PeerID → Prop}

theorem Provider.advertiseTo_induction
    (hstep : ∀ oracle a addrInfo w win, P w → P (p.advertiseBatch lib oracle a addrInfo w win))
    {oracle : Oracle PeerID} {now : Int} {lastID : Nat} {a : Autoretrieve}
    {w w' : World PeerID} (hw : P w) (h : p.advertiseTo lib oracle now lastID w a = some w') :
    P w' := by
  unfold Provider.advertiseTo at h
  split at h
  · exact Option.some.inj h ▸ hw
  split at h
  · exact Option.some.inj h ▸ hw
  obtain ⟨windows, -, rfl⟩ := Option.map_eq_some'.mp h
  clear h
  induction windows generalizing w with
  | nil => exact hw
  | cons win windows ih => exact ih (hstep _ _ _ _ _ hw)

/-- What the loop body keeps, every run keeps. -/
theorem Provider.run_induction
    (hstep : ∀ oracle a addrInfo w win, P w → P (p.advertiseBatch lib oracle a addrInfo w win))
    {ticks : List (Tick PeerID)} {w w' : World PeerID} (hw : P w)
    (h : p.run lib ticks w = some w') : P w' := by
  refine foldlM_option_induction (fun w t w' hw h => ?_) ticks hw h
  unfold Provider.tick at h
  split at h
  · exact foldlM_option_induction (fun _ _ _ hx h => Provider.advertiseTo_induction hstep hx h)
      _ hw h
  · exact Option.some.inj h ▸ hw

end Runs

/-! ## The loop body, case by case -/

section Spec

variable {lib} {oracle : Oracle PeerID} {a : Autoretrieve} {addrInfo : AddrInfo PeerID}
  {p : Provider} {w : World PeerID} {win : Window}

/-- What the body can do to the ledger: nothing, insert the batch's row, or save the row
found for the batch with the new count. -/
theorem advertiseBatch_ledger :
    (p.advertiseBatch lib oracle a addrInfo w win).ledger = w.ledger ∨
      w.ledger.create win.first win.count a.handle =
        some (p.advertiseBatch lib oracle a addrInfo w win).ledger ∨
      ∃ r ∈ w.ledger.find a.handle win.first,
        (p.advertiseBatch lib oracle a addrInfo w win).ledger =
          w.ledger.save { r with count := win.count } := by
  unfold Provider.advertiseBatch publishBatch republishBatch
  dsimp only
  split
  · split
    · exact .inl rfl
    split
    · exact .inl rfl
    split
    · split
      · split
        · next ledger hcreate => exact .inr (.inl hcreate)
        · exact .inl rfl
      · exact .inl rfl
    · next r rest hfind =>
      split
      · split
        · split
          · refine .inr (.inr ⟨r, ?_, rfl⟩)
            rw [← World.record_ledger w (.find a.handle win.first) true, hfind]
            exact List.mem_cons_self _ _
          · exact .inl rfl
        · exact .inl rfl
      · exact .inl rfl
  · exact .inl rfl

/-- A batch whose row already has its count: only the lookup is made, whatever the
oracle answers. -/
theorem advertiseBatch_of_current (hwf : w.ledger.WellFormed) {r : PublishedBatch}
    (hr : r ∈ w.ledger.rows) (hh : r.autoretrieveHandle = a.handle)
    (hf : r.firstContentID = win.first) (hc : r.count = win.count) :
    p.advertiseBatch lib oracle a addrInfo w win =
      w.record (.find a.handle win.first) (oracle w.log (.find a.handle win.first)) := by
  unfold Provider.advertiseBatch
  dsimp only
  split
  · next hfind =>
    rw [hfind, if_pos]
    rw [World.record_ledger, ← hh, ← hf, Ledger.find_eq_singleton hwf hr]
    simp [alreadyAdvertised, hc]
  · next hfind => rw [Bool.eq_false_iff.mpr hfind]

/-- A batch whose row has another count, every call for it delivered: retract, publish
again, and save the row with the new count. -/
theorem advertiseBatch_of_stale (hwf : w.ledger.WellFormed) {r : PublishedBatch}
    (hr : r ∈ w.ledger.rows) (hh : r.autoretrieveHandle = a.handle)
    (hf : r.firstContentID = win.first) (hc : r.count ≠ win.count)
    (hdel : oracle.Delivers a.handle win.first) {contextID : Bytes}
    (hctx : makeContextID lib ⟨addrInfo.id, win.first, p.batchSize⟩ = .ok contextID) :
    p.advertiseBatch lib oracle a addrInfo w win =
      { ((((w.record (.find a.handle win.first) true).record
          (.notifyRemove a.handle win.first win.count addrInfo.id contextID) true).record
          (.notifyPut a.handle win.first win.count addrInfo contextID) true).record
          (.save { r with count := win.count }) true) with
        ledger := w.ledger.save { r with count := win.count } } := by
  have hfind : w.ledger.find a.handle win.first = [r] :=
    hh ▸ hf ▸ Ledger.find_eq_singleton hwf hr
  have hsave : ∀ log, oracle log (.save { r with count := win.count }) = true :=
    fun log => hdel log _ (by simp [Call.batchKey, hh, hf])
  simp [Provider.advertiseBatch, republishBatch, fun log => hdel log (.find _ _) rfl,
    fun log c pr ctx => hdel log (.notifyRemove _ _ c pr ctx) rfl,
    fun log c ai ctx => hdel log (.notifyPut _ _ c ai ctx) rfl, hsave, hfind, alreadyAdvertised, hc, hctx]

/-- A batch no row holds, every call for it delivered: publish, then insert its row. -/
theorem advertiseBatch_of_free (hfree : ∀ r ∈ w.ledger.rows, r.firstContentID ≠ win.first)
    (hdel : oracle.Delivers a.handle win.first) {contextID : Bytes}
    (hctx : makeContextID lib ⟨addrInfo.id, win.first, p.batchSize⟩ = .ok contextID) :
    p.advertiseBatch lib oracle a addrInfo w win =
      { (((w.record (.find a.handle win.first) true).record
          (.notifyPut a.handle win.first win.count addrInfo contextID) true).record
          (.create ⟨w.ledger.nextID, win.first, win.count, a.handle⟩) true) with
        ledger := ⟨w.ledger.rows ++ [⟨w.ledger.nextID, win.first, win.count, a.handle⟩],
          w.ledger.nextID + 1⟩ } := by
  have hfind : w.ledger.find a.handle win.first = [] :=
    Ledger.find_eq_nil fun r hr _ => hfree r hr
  have hcreate : ∀ log, oracle log (.create ⟨w.ledger.nextID, win.first, win.count, a.handle⟩) =
      true := fun log => hdel log _ rfl
  simp [Provider.advertiseBatch, publishBatch, fun log => hdel log (.find _ _) rfl,
    fun log c ai ctx => hdel log (.notifyPut _ _ c ai ctx) rfl, hcreate, hfind, alreadyAdvertised, hctx,
    Ledger.create_of_free hfree]

end Spec

end Estuary
