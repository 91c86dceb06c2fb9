import Estuary.Provider

/-!
# Convergence of the ledger

A tick in which every call gets through should leave, for every online autoretrieve,
one ledger row per planned batch with its planned count, so that the next tick has
nothing to do, and when the catalog grows only the batches that change should reach the
engine. For one autoretrieve this holds. The unique index sits on `FirstContentID` alone,
though, while the rows are meant per autoretrieve: once one autoretrieve holds the row of
a batch, the row of every other autoretrieve for the same batch is rejected, and each
tick publishes that batch for them again.

## Main definitions

* `engineCalls` — the `NotifyPut` and `NotifyRemove` calls of a log

## Main results

* `advertiseBatch_delivered` — a batch whose calls get through ends with its row, and the
  engine sees a publication, after a retraction when the row had another count
* `holds_foldl_advertiseBatch`, `engineCalls_foldl_advertiseBatch`,
  `foldl_advertiseBatch_of_held` — the same over the window loop
* `tick_records_delivered_batches` — one autoretrieve ends with the row of every batch
  whose calls got through
* `tick_idle_of_held` — once it holds its plan, a tick only looks the batches up
* `tick_growth_minimal_diff` — when the catalog grows, the engine sees the last old batch
  retracted and republished, and the new batches published, and nothing else
* `run_reliable_tracks_plan` — over a run in which the catalog only grows, the ledger
  holds exactly the current plan after every tick
* `tick_not_idempotent_two_autoretrieves` — two autoretrieves, one batch: the second
  never gets its row, and every tick publishes its batch again
* `tick_growth_loses_new_batch` — when the catalog grows, an autoretrieve whose rows
  were the old plan loses the new batch to an earlier autoretrieve
* `run_not_two_plans` — every ledger a run reaches has one row per first content ID, so
  none holds the plans of two autoretrieves
-/

namespace Estuary

/-- The calls a log shows the engine, `NotifyPut` and `NotifyRemove`, in order. -/
def engineCalls {PeerID : Type} (log : List (Event PeerID)) : List (Call PeerID) :=
  (log.map Event.call).filter Call.isNotify

@[simp] theorem engineCalls_append {PeerID : Type} (log log' : List (Event PeerID)) :
    engineCalls (log ++ log') = engineCalls log ++ engineCalls log' := by
  simp [engineCalls]

variable {PeerID : Type} {lib : PeerLib PeerID} {oracle : Oracle PeerID} {a : Autoretrieve}
  {addrInfo : AddrInfo PeerID} {p : Provider} {w : World PeerID}

/-! ## One batch -/

theorem Ledger.WellFormed.advertiseBatch (hwf : w.ledger.WellFormed) (win : Window) :
    (p.advertiseBatch lib oracle a addrInfo w win).ledger.WellFormed := by
  rcases @advertiseBatch_ledger _ lib oracle a addrInfo p w win with h | h | ⟨r, hr, h⟩
  · exact h ▸ hwf
  · exact hwf.create h
  · rw [h]
    exact hwf.save (List.mem_of_mem_filter hr) _

/-- The body leaves the rows at every other first content ID as they were. -/
theorem mem_advertiseBatch_of_ne (hwf : w.ledger.WellFormed) {win : Window}
    {x : PublishedBatch} (hx : x.firstContentID ≠ win.first) :
    x ∈ (p.advertiseBatch lib oracle a addrInfo w win).ledger.rows ↔ x ∈ w.ledger.rows := by
  rcases @advertiseBatch_ledger _ lib oracle a addrInfo p w win with h | h | ⟨r, hr, h⟩
  · rw [h]
  · rw [(Ledger.create_eq_some h).2, List.mem_append, List.mem_singleton, or_iff_left_iff_imp]
    rintro rfl
    exact absurd rfl hx
  · obtain ⟨hr', -, hrf⟩ := Ledger.mem_find.mp hr
    rw [h, @Ledger.mem_save _ { r with count := win.count } _ ⟨r, hr', rfl⟩]
    refine ⟨?_, fun hx' => .inr ⟨hx', fun hid => hx ?_⟩⟩
    · rintro (rfl | ⟨hx', -⟩)
      · exact absurd hrf hx
      · exact hx'
    · rw [List.inj_on_of_nodup_map hwf.ids_nodup hx' hr' hid, hrf]

/-- A batch whose calls all get through, when no other autoretrieve holds a row at its
first content ID: the autoretrieve ends with the batch's row, and the engine sees
nothing when the row already had the batch's count, and otherwise a publication,
preceded by a retraction when there was a row. -/
theorem advertiseBatch_delivered (hwf : w.ledger.WellFormed) {win : Window}
    (hown : ∀ r ∈ w.ledger.rows, r.firstContentID = win.first →
      r.autoretrieveHandle = a.handle)
    (hdel : oracle.Delivers a.handle win.first) {contextID : Bytes}
    (hctx : makeContextID lib ⟨addrInfo.id, win.first, p.batchSize⟩ = .ok contextID) :
    (p.advertiseBatch lib oracle a addrInfo w win).ledger.Holds a.handle win.first win.count ∧
      engineCalls (p.advertiseBatch lib oracle a addrInfo w win).log = engineCalls w.log ++
        if w.ledger.Holds a.handle win.first win.count then [] else
          (if w.ledger.find a.handle win.first = [] then [] else
            [.notifyRemove a.handle win.first win.count addrInfo.id contextID]) ++
          [.notifyPut a.handle win.first win.count addrInfo contextID] := by
  by_cases hex : ∃ r ∈ w.ledger.rows, r.firstContentID = win.first
  · obtain ⟨r, hr, hf⟩ := hex
    have hh := hown r hr hf
    by_cases hc : r.count = win.count
    · have hheld : w.ledger.Holds a.handle win.first win.count := ⟨r, hr, hh, hf, hc⟩
      rw [advertiseBatch_of_current hwf hr hh hf hc, if_pos hheld]
      exact ⟨hheld, by simp [engineCalls, Call.isNotify]⟩
    · have hstale : ¬ w.ledger.Holds a.handle win.first win.count := fun hheld =>
        hc (hwf.holds_unique ⟨r, hr, hh, hf, rfl⟩ hheld).2
      have hfind : w.ledger.find a.handle win.first = [r] :=
        hh ▸ hf ▸ Ledger.find_eq_singleton hwf hr
      rw [advertiseBatch_of_stale hwf hr hh hf hc hdel hctx, if_neg hstale, hfind,
        if_neg (List.cons_ne_nil _ _)]
      exact ⟨⟨_, (@Ledger.mem_save _ { r with count := win.count } _ ⟨r, hr, rfl⟩).mpr (.inl rfl),
        hh, hf, rfl⟩,
        by simp [engineCalls, Call.isNotify]⟩
  · have hfree : ∀ r ∈ w.ledger.rows, r.firstContentID ≠ win.first :=
      fun r hr hf => hex ⟨r, hr, hf⟩
    rw [advertiseBatch_of_free hfree hdel hctx, if_neg fun ⟨r, hr, _, hf, _⟩ => hex ⟨r, hr, hf⟩,
      Ledger.find_eq_nil fun r hr _ => hfree r hr, if_pos rfl]
    exact ⟨⟨_, List.mem_append_right _ (List.mem_singleton_self _), rfl, rfl, rfl⟩,
      by simp [engineCalls, Call.isNotify]⟩

/-! ## The window loop

The batches of a plan start at distinct content IDs, so each batch of the loop sees the
rows at its own first content ID as they were before the loop. -/

section Loop

variable {ctx : Nat → Bytes}

theorem Ledger.WellFormed.foldl_advertiseBatch (hwf : w.ledger.WellFormed) (ws : List Window) :
    (ws.foldl (p.advertiseBatch lib oracle a addrInfo) w).ledger.WellFormed := by
  induction ws generalizing w with
  | nil => exact hwf
  | cons win ws ih => exact ih (hwf.advertiseBatch win)

/-- The loop leaves the rows at every first content ID it does not visit as they were. -/
theorem mem_foldl_advertiseBatch_of_not_mem (hwf : w.ledger.WellFormed) {ws : List Window}
    {x : PublishedBatch} (hx : x.firstContentID ∉ ws.map (·.first)) :
    x ∈ (ws.foldl (p.advertiseBatch lib oracle a addrInfo) w).ledger.rows ↔
      x ∈ w.ledger.rows := by
  induction ws generalizing w with
  | nil => exact Iff.rfl
  | cons win ws ih =>
    rw [List.map_cons, List.mem_cons, not_or] at hx
    exact (ih (hwf.advertiseBatch win) hx.2).trans (mem_advertiseBatch_of_ne hwf hx.1)

/-- No other autoretrieve gains a row at the first content IDs of the batches still to
come. -/
theorem owned_advertiseBatch (hwf : w.ledger.WellFormed) {win : Window} {ws : List Window}
    (hwin : win.first ∉ ws.map (·.first))
    (hown : ∀ r ∈ w.ledger.rows, r.firstContentID ∈ (win :: ws).map (·.first) →
      r.autoretrieveHandle = a.handle) :
    ∀ r ∈ (p.advertiseBatch lib oracle a addrInfo w win).ledger.rows,
      r.firstContentID ∈ ws.map (·.first) → r.autoretrieveHandle = a.handle :=
  fun r hr hf => hown r ((mem_advertiseBatch_of_ne hwf fun h => hwin (h ▸ hf)).mp hr)
    (List.mem_cons_of_mem _ hf)

/-- Every batch of the loop whose calls all get through ends with the autoretrieve's row
at its count, whatever happens to the other batches. -/
theorem holds_foldl_advertiseBatch (hwf : w.ledger.WellFormed) {ws : List Window}
    (hnd : (ws.map (·.first)).Nodup)
    (hown : ∀ r ∈ w.ledger.rows, r.firstContentID ∈ ws.map (·.first) →
      r.autoretrieveHandle = a.handle)
    (hctx : ∀ f, makeContextID lib ⟨addrInfo.id, f, p.batchSize⟩ = .ok (ctx f))
    {win : Window} (hwin : win ∈ ws) (hdel : oracle.Delivers a.handle win.first) :
    (ws.foldl (p.advertiseBatch lib oracle a addrInfo) w).ledger.Holds a.handle win.first
      win.count := by
  induction ws generalizing w with
  | nil => exact absurd hwin (List.not_mem_nil _)
  | cons v ws ih =>
    rw [List.map_cons, List.nodup_cons] at hnd
    rcases List.mem_cons.mp hwin with rfl | hwin
    · obtain ⟨x, hx, hxh, hxf, hxc⟩ := (advertiseBatch_delivered hwf
        (fun r hr hf => hown r hr (hf ▸ List.mem_cons_self _ _)) hdel (hctx win.first)).1
      exact ⟨x, (mem_foldl_advertiseBatch_of_not_mem (hwf.advertiseBatch win)
        (hxf ▸ hnd.1)).mpr hx, hxh, hxf, hxc⟩
    · exact ih (hwf.advertiseBatch v) hnd.2 (owned_advertiseBatch hwf hnd.1 hown) hwin

/-- When every call for the batches gets through, the engine sees, batch after batch,
what `advertiseBatch_delivered` says of the ledger before the loop. -/
theorem engineCalls_foldl_advertiseBatch (hwf : w.ledger.WellFormed) {ws : List Window}
    (hnd : (ws.map (·.first)).Nodup)
    (hown : ∀ r ∈ w.ledger.rows, r.firstContentID ∈ ws.map (·.first) →
      r.autoretrieveHandle = a.handle)
    (hctx : ∀ f, makeContextID lib ⟨addrInfo.id, f, p.batchSize⟩ = .ok (ctx f))
    (hdel : ∀ win ∈ ws, oracle.Delivers a.handle win.first) :
    engineCalls (ws.foldl (p.advertiseBatch lib oracle a addrInfo) w).log = engineCalls w.log ++
      ws.flatMap fun win => if w.ledger.Holds a.handle win.first win.count then [] else
        (if w.ledger.find a.handle win.first = [] then [] else
          [.notifyRemove a.handle win.first win.count addrInfo.id (ctx win.first)]) ++
        [.notifyPut a.handle win.first win.count addrInfo (ctx win.first)] := by
  induction ws generalizing w with
  | nil => simp
  | cons v ws ih =>
    rw [List.map_cons, List.nodup_cons] at hnd
    have hstep := advertiseBatch_delivered hwf
      (fun r hr hf => hown r hr (hf ▸ List.mem_cons_self _ _)) (hdel v (List.mem_cons_self _ _))
      (hctx v.first)
    rw [List.foldl_cons, ih (hwf.advertiseBatch v) hnd.2 (owned_advertiseBatch hwf hnd.1 hown)
      (fun win h => hdel win (List.mem_cons_of_mem _ h)), hstep.2, List.flatMap_cons,
      List.append_assoc]
    congr 2
    refine List.flatMap_congr fun u hu => ?_
    have hsame : ∀ x : PublishedBatch, x.firstContentID = u.first →
        (x ∈ (p.advertiseBatch lib oracle a addrInfo w v).ledger.rows ↔ x ∈ w.ledger.rows) :=
      fun x hx => mem_advertiseBatch_of_ne hwf fun h => hnd.1 (h ▸ hx ▸ List.mem_map_of_mem _ hu)
    simp only [Ledger.holds_congr hsame, Ledger.find_eq_nil_congr hsame]

/-- When every call for the batches gets through and the autoretrieve held no row outside
their first content IDs, its rows after the loop are exactly the batches. -/
theorem holds_foldl_iff (hwf : w.ledger.WellFormed) {ws : List Window}
    (hnd : (ws.map (·.first)).Nodup)
    (hown : ∀ r ∈ w.ledger.rows, r.firstContentID ∈ ws.map (·.first) →
      r.autoretrieveHandle = a.handle)
    (hctx : ∀ f, makeContextID lib ⟨addrInfo.id, f, p.batchSize⟩ = .ok (ctx f))
    (hdel : ∀ win ∈ ws, oracle.Delivers a.handle win.first)
    (hsub : ∀ f c, w.ledger.Holds a.handle f c → f ∈ ws.map (·.first)) (f c : Nat) :
    (ws.foldl (p.advertiseBatch lib oracle a addrInfo) w).ledger.Holds a.handle f c ↔
      ⟨f, c⟩ ∈ ws := by
  refine ⟨fun h => ?_, fun hv => holds_foldl_advertiseBatch hwf hnd hown hctx hv (hdel _ hv)⟩
  by_cases hf : f ∈ ws.map (·.first)
  · obtain ⟨v, hv, rfl⟩ := List.mem_map.mp hf
    rw [((hwf.foldl_advertiseBatch _).holds_unique h
      (holds_foldl_advertiseBatch hwf hnd hown hctx hv (hdel v hv))).2]
    exact hv
  · have hsame : ∀ x : PublishedBatch, x.firstContentID = f →
        (x ∈ (ws.foldl (p.advertiseBatch lib oracle a addrInfo) w).ledger.rows ↔
          x ∈ w.ledger.rows) :=
      fun x hx => mem_foldl_advertiseBatch_of_not_mem hwf (hx ▸ hf)
    exact absurd (hsub f c ((Ledger.holds_congr hsame).mp h)) hf

/-- The body writes only rows of its own autoretrieve. -/
theorem handle_advertiseBatch
    (hall : ∀ r ∈ w.ledger.rows, r.autoretrieveHandle = a.handle) (win : Window) :
    ∀ r ∈ (p.advertiseBatch lib oracle a addrInfo w win).ledger.rows,
      r.autoretrieveHandle = a.handle := by
  rcases @advertiseBatch_ledger _ lib oracle a addrInfo p w win with h | h | ⟨r, hr, h⟩
  · exact h ▸ hall
  · rw [(Ledger.create_eq_some h).2]
    intro x hx
    rcases List.mem_append.mp hx with hx | hx
    · exact hall x hx
    · rw [List.mem_singleton.mp hx]
  · obtain ⟨hr', hh, -⟩ := Ledger.mem_find.mp hr
    rw [h]
    intro x hx
    rcases (@Ledger.mem_save _ { r with count := win.count } _ ⟨r, hr', rfl⟩).mp hx with
      rfl | ⟨hx, -⟩
    · exact hh
    · exact hall x hx

theorem handle_foldl_advertiseBatch
    (hall : ∀ r ∈ w.ledger.rows, r.autoretrieveHandle = a.handle) (ws : List Window) :
    ∀ r ∈ (ws.foldl (p.advertiseBatch lib oracle a addrInfo) w).ledger.rows,
      r.autoretrieveHandle = a.handle := by
  induction ws generalizing w with
  | nil => exact hall
  | cons win ws ih => exact ih (handle_advertiseBatch hall win)

/-- When the autoretrieve already holds every batch at its count, the loop only looks the
batches up, whatever the oracle answers, and leaves the ledger as it was. -/
theorem foldl_advertiseBatch_of_held (hwf : w.ledger.WellFormed) {ws : List Window}
    (hheld : ∀ win ∈ ws, w.ledger.Holds a.handle win.first win.count) :
    (ws.foldl (p.advertiseBatch lib oracle a addrInfo) w).ledger = w.ledger ∧
      (ws.foldl (p.advertiseBatch lib oracle a addrInfo) w).log.map Event.call =
        w.log.map Event.call ++ ws.map fun win => .find a.handle win.first := by
  induction ws generalizing w with
  | nil => simp
  | cons v ws ih =>
    obtain ⟨r, hr, hh, hf, hc⟩ := hheld v (List.mem_cons_self _ _)
    have hwf' : (w.record (.find a.handle v.first)
        (oracle w.log (.find a.handle v.first))).ledger.WellFormed := hwf
    obtain ⟨hl, hlog⟩ := ih hwf' fun win h => hheld win (List.mem_cons_of_mem _ h)
    rw [List.foldl_cons, advertiseBatch_of_current hwf hr hh hf hc]
    exact ⟨hl, by simp [hlog]⟩

end Loop

/-! ## One autoretrieve -/

section Single

/-- A tick that reads `L` and the one autoretrieve `a`, online and with a parseable
address, runs the body over the plan for `L`. -/
theorem tick_of_single {t : Tick PeerID} {L : Nat} (hlast : t.lastContent = .ok L)
    (hA : t.autoretrieves = .ok [a])
    (hon : ¬ p.advertisementInterval < t.now - a.lastConnection)
    (haddr : a.addrInfo lib = .ok addrInfo) :
    p.tick lib t w =
      (plan p.batchSize L).map fun ws => ws.foldl (p.advertiseBatch lib t.oracle a addrInfo) w := by
  simp [Provider.tick, hlast, hA, Provider.advertiseTo, hon, haddr]

/-- One autoretrieve, online, with a parseable address whose peer ID marshals, from a
well-formed ledger in which no other autoretrieve holds a row at a first content ID of
its plan: after one tick it holds, for every planned batch whose own calls all got
through, the row of that batch with its count, whatever failed in the rest of the tick.
The plan is the tiling (`plan_eq_tiling`). -/
theorem tick_records_delivered_batches {t : Tick PeerID} {L : Nat} {peerIDBytes : Bytes}
    (hwf : w.ledger.WellFormed) (hlast : t.lastContent = .ok L) (hA : t.autoretrieves = .ok [a])
    (hon : ¬ p.advertisementInterval < t.now - a.lastConnection)
    (haddr : a.addrInfo lib = .ok addrInfo) (hm : lib.marshalBinary addrInfo.id = .ok peerIDBytes)
    (hW : 0 < p.batchSize) (hL : (L / p.batchSize + 1) * p.batchSize < 2 ^ 64)
    (hown : ∀ r ∈ w.ledger.rows, r.firstContentID ∈ (tiling p.batchSize L).map (·.first) →
      r.autoretrieveHandle = a.handle) :
    ∃ w', p.tick lib t w = some w' ∧ w'.ledger.WellFormed ∧
      ∀ win ∈ tiling p.batchSize L, t.oracle.Delivers a.handle win.first →
        w'.ledger.Holds a.handle win.first win.count := by
  rw [tick_of_single hlast hA hon haddr, plan_eq_tiling hW hL]
  exact ⟨_, rfl, hwf.foldl_advertiseBatch _, fun win hwin hdel =>
    holds_foldl_advertiseBatch hwf (nodup_firsts_tiling hW L) hown
      (fun _ => makeContextID_of_marshal lib hm) hwin hdel⟩

/-- The autoretrieve `a` of the samples: online at time 0, one address. -/
def soleAutoretrieve : Autoretrieve := ⟨"a", 0, "x"⟩

theorem tick_records_delivered_batches_empty :
    ∃ w', (newProvider 1).tick rawPeerLib (.reliable 60000 [soleAutoretrieve]) World.empty =
        some w' ∧ w'.ledger.WellFormed ∧
      ∀ win ∈ tiling 25000 60000,
        (Tick.reliable 60000 [soleAutoretrieve] : Tick Bytes).oracle.Delivers
          soleAutoretrieve.handle win.first →
          w'.ledger.Holds soleAutoretrieve.handle win.first win.count := by
  refine tick_records_delivered_batches ?_ ?_ ?_ ?_ (rfl : soleAutoretrieve.addrInfo rawPeerLib = .ok _)
    rfl ?_ ?_ ?_
  exacts [Ledger.wellFormed_empty, rfl, rfl, by decide, by decide, by decide, by decide]

/-- One autoretrieve, online and with a parseable address, that holds the row of every
batch of its plan at the batch's count: a tick, whatever fails in it, looks every batch up
in the ledger, in order, makes no other call, and leaves the ledger as it was. -/
theorem tick_idle_of_held {t : Tick PeerID} {L : Nat} (hwf : w.ledger.WellFormed)
    (hlast : t.lastContent = .ok L) (hA : t.autoretrieves = .ok [a])
    (hon : ¬ p.advertisementInterval < t.now - a.lastConnection)
    (haddr : a.addrInfo lib = .ok addrInfo)
    (hW : 0 < p.batchSize) (hL : (L / p.batchSize + 1) * p.batchSize < 2 ^ 64)
    (hheld : ∀ win ∈ tiling p.batchSize L, w.ledger.Holds a.handle win.first win.count) :
    ∃ w', p.tick lib t w = some w' ∧ w'.ledger = w.ledger ∧
      w'.log.map Event.call = w.log.map Event.call ++
        (tiling p.batchSize L).map fun win => .find a.handle win.first := by
  rw [tick_of_single hlast hA hon haddr, plan_eq_tiling hW hL]
  exact ⟨_, rfl, foldl_advertiseBatch_of_held hwf hheld⟩

/-- `a`'s rows are the plan for 60000. -/
def plannedWorld : World Bytes :=
  ⟨⟨[⟨1, 0, 25000, "a"⟩, ⟨2, 25000, 25000, "a"⟩, ⟨3, 50000, 10000, "a"⟩], 4⟩, []⟩

theorem plannedWorld_wellFormed : plannedWorld.ledger.WellFormed :=
  ⟨by decide, by decide, by decide⟩

theorem tick_idle_of_held_failing :
    ∃ w', (newProvider 1).tick rawPeerLib ⟨.ok 60000, .ok [soleAutoretrieve], 0, fun _ _ => false⟩
        plannedWorld = some w' ∧ w'.ledger = plannedWorld.ledger ∧
      w'.log.map Event.call = plannedWorld.log.map Event.call ++
        (tiling 25000 60000).map fun win => .find soleAutoretrieve.handle win.first := by
  refine tick_idle_of_held plannedWorld_wellFormed ?_ ?_ ?_
    (rfl : soleAutoretrieve.addrInfo rawPeerLib = .ok _) ?_ ?_ ?_
  exacts [rfl, rfl, by decide, by decide, by decide, by decide]

/-- The engine calls of the loop over the plan for `L'`, when the rows of `handle` are the
plan for `L ≤ L'`: the full windows are held, the window at `L / W * W` is held with
another count unless `L = L'`, and the windows after it are free. -/
private theorem growth_calls {W L L' : Nat} (hW : 0 < W) (hLL : L ≤ L') {l : Ledger}
    {handle : String} (hrows : ∀ f c, l.Holds handle f c ↔ ⟨f, c⟩ ∈ tiling W L)
    (remove put : Window → Call PeerID) :
    ((tiling W L').flatMap fun win => if l.Holds handle win.first win.count then [] else
        (if l.find handle win.first = [] then [] else [remove win]) ++ [put win]) =
      if L = L' then [] else
        remove ⟨L / W * W, min W (L' - L / W * W)⟩ :: ((tiling W L').drop (L / W)).map put := by
  rcases Nat.eq_or_lt_of_le hLL with rfl | hlt
  · rw [if_pos rfl, List.flatMap_eq_nil_iff]
    exact fun v hv => if_pos ((hrows _ _).mpr hv)
  have hfull : ((List.range (L / W)).map fun i => (⟨i * W, min W (L' - i * W)⟩ : Window)).flatMap
      (fun win => if l.Holds handle win.first win.count then [] else
        (if l.find handle win.first = [] then [] else [remove win]) ++ [put win]) = [] := by
    refine List.flatMap_eq_nil_iff.mpr fun v hv => ?_
    obtain ⟨i, hi, rfl⟩ := List.mem_map.mp hv
    exact if_pos ((hrows _ _).mpr (window_mem_tiling_of_lt hLL (List.mem_range.mp hi)))
  have hrow : l.Holds handle (L / W * W) (min W (L - L / W * W)) :=
    (hrows _ _).mpr (mem_tiling.mpr ⟨L / W, le_rfl, rfl⟩)
  rw [if_neg hlt.ne, tiling_split (Nat.div_le_div_right hLL), List.drop_left' (by simp),
    List.flatMap_append, List.flatMap_cons, List.map_cons, hfull,
    if_neg fun h => window_not_mem_tiling hW hlt ((hrows _ _).mp h),
    if_neg fun h => Ledger.find_eq_nil_iff.mp h _ hrow, List.nil_append, List.append_assoc,
    List.singleton_append, List.singleton_append, List.map_eq_flatMap put]
  refine congrArg (remove _ :: put _ :: ·) (List.flatMap_congr fun v hv => ?_)
  obtain ⟨i, hi, rfl⟩ := List.mem_map.mp hv
  have hlt' : L / W < i := by have := (List.mem_range'_1.mp hi).1; omega
  rw [if_neg fun h => window_not_mem_tiling_of_lt hW hlt' _ ((hrows _ _).mp h),
    if_pos (Ledger.find_eq_nil_iff.mpr fun c h =>
      window_not_mem_tiling_of_lt hW hlt' c ((hrows _ _).mp h))]
  rfl

/-- Growth from `L` to `L' ≥ L` for one autoretrieve, online and with a parseable address,
whose rows are exactly the plan for `L`, when every call for its batches gets through and
no other autoretrieve holds a row at a first content ID of the plan for `L'`. The engine
sees nothing when `L' = L`; otherwise a retraction of the batch at `L / W * W`, the only
one whose count changes, then a publication of it and of every batch after it. Every call
carries the context ID `makeContextID` gives its batch, and the autoretrieve's rows end
exactly the plan for `L'`. -/
theorem tick_growth_minimal_diff {t : Tick PeerID} {L L' : Nat} {ctx : Nat → Bytes}
    (hwf : w.ledger.WellFormed) (hlast : t.lastContent = .ok L') (hA : t.autoretrieves = .ok [a])
    (hon : ¬ p.advertisementInterval < t.now - a.lastConnection)
    (haddr : a.addrInfo lib = .ok addrInfo)
    (hctx : ∀ f, makeContextID lib ⟨addrInfo.id, f, p.batchSize⟩ = .ok (ctx f))
    (hW : 0 < p.batchSize) (hL' : (L' / p.batchSize + 1) * p.batchSize < 2 ^ 64) (hLL : L ≤ L')
    (hrows : ∀ f c, w.ledger.Holds a.handle f c ↔ ⟨f, c⟩ ∈ tiling p.batchSize L)
    (hown : ∀ r ∈ w.ledger.rows, r.firstContentID ∈ (tiling p.batchSize L').map (·.first) →
      r.autoretrieveHandle = a.handle)
    (hdel : ∀ win ∈ tiling p.batchSize L', t.oracle.Delivers a.handle win.first) :
    ∃ w', p.tick lib t w = some w' ∧
      engineCalls w'.log = engineCalls w.log ++
        (if L = L' then [] else
          .notifyRemove a.handle (L / p.batchSize * p.batchSize)
              (min p.batchSize (L' - L / p.batchSize * p.batchSize)) addrInfo.id
              (ctx (L / p.batchSize * p.batchSize)) ::
            ((tiling p.batchSize L').drop (L / p.batchSize)).map fun win =>
              .notifyPut a.handle win.first win.count addrInfo (ctx win.first)) ∧
      ∀ f c, w'.ledger.Holds a.handle f c ↔ ⟨f, c⟩ ∈ tiling p.batchSize L' := by
  rw [tick_of_single hlast hA hon haddr, plan_eq_tiling hW hL']
  have hnd := nodup_firsts_tiling hW L'
  refine ⟨_, rfl, ?_, holds_foldl_iff hwf hnd hown hctx hdel fun f c h =>
    first_mem_tiling_of_le hLL ((hrows f c).mp h)⟩
  rw [engineCalls_foldl_advertiseBatch hwf hnd hown hctx hdel]
  exact congrArg _ (growth_calls hW hLL hrows _ _)

/-- The context ID `rawPeerLib` gives the batch at `f` of `soleAutoretrieve`. -/
def soleContextID (f : Nat) : Bytes :=
  putUint32 (toUint32 f) ++ putUint32 (toUint32 25000) ++ [toByte 1]

theorem tick_growth_minimal_diff_plannedWorld :
    ∃ w', (newProvider 1).tick rawPeerLib (.reliable 80000 [soleAutoretrieve]) plannedWorld =
        some w' ∧
      engineCalls w'.log = engineCalls plannedWorld.log ++
        (if 60000 = 80000 then [] else
          .notifyRemove soleAutoretrieve.handle (60000 / 25000 * 25000)
              (min 25000 (80000 - 60000 / 25000 * 25000)) [toByte 1]
              (soleContextID (60000 / 25000 * 25000)) ::
            ((tiling 25000 80000).drop (60000 / 25000)).map fun win =>
              .notifyPut soleAutoretrieve.handle win.first win.count ⟨[toByte 1], ["x"]⟩
                (soleContextID win.first)) ∧
      ∀ f c, w'.ledger.Holds soleAutoretrieve.handle f c ↔ ⟨f, c⟩ ∈ tiling 25000 80000 := by
  refine tick_growth_minimal_diff plannedWorld_wellFormed ?_ ?_ ?_
    (rfl : soleAutoretrieve.addrInfo rawPeerLib = .ok ⟨[toByte 1], ["x"]⟩)
    (fun _ => rfl : ∀ f, makeContextID rawPeerLib ⟨[toByte 1], f, 25000⟩ = .ok (soleContextID f))
    ?_ ?_ ?_ ?_ ?_ ?_
  exacts [rfl, rfl, by decide, by decide, by decide, by decide,
    fun f c => by
      show _ ↔ _ ∈ ([⟨0, 25000⟩, ⟨25000, 25000⟩, ⟨50000, 10000⟩] : List Window)
      simp [Ledger.Holds, plannedWorld, soleAutoretrieve]
      omega,
    by decide, fun _ _ _ _ _ => rfl]

/-- A reliable tick at `L'` for the one autoretrieve `a`, from a well-formed ledger whose
rows are all `a`'s and lie at the first content IDs of the plan for some `L ≤ L'`: the
rows end exactly the plan for `L'`. -/
theorem tick_reliable_holds_iff {L L' : Nat} {ctx : Nat → Bytes} (hwf : w.ledger.WellFormed)
    (hall : ∀ r ∈ w.ledger.rows, r.autoretrieveHandle = a.handle)
    (hsub : ∀ f c, w.ledger.Holds a.handle f c → f ∈ (tiling p.batchSize L).map (·.first))
    (hLL : L ≤ L') (hon : ¬ p.advertisementInterval < 0 - a.lastConnection)
    (haddr : a.addrInfo lib = .ok addrInfo)
    (hctx : ∀ f, makeContextID lib ⟨addrInfo.id, f, p.batchSize⟩ = .ok (ctx f))
    (hW : 0 < p.batchSize) (hL' : (L' / p.batchSize + 1) * p.batchSize < 2 ^ 64) :
    ∃ w', p.tick lib (.reliable L' [a]) w = some w' ∧ w'.ledger.WellFormed ∧
      (∀ r ∈ w'.ledger.rows, r.autoretrieveHandle = a.handle) ∧
      ∀ f c, w'.ledger.Holds a.handle f c ↔ ⟨f, c⟩ ∈ tiling p.batchSize L' := by
  rw [tick_of_single rfl rfl hon haddr, plan_eq_tiling hW hL']
  refine ⟨_, rfl, hwf.foldl_advertiseBatch _, handle_foldl_advertiseBatch hall _,
    holds_foldl_iff hwf (nodup_firsts_tiling hW L') (fun r hr _ => hall r hr) hctx
      (fun _ _ _ _ _ => rfl) fun f c h => ?_⟩
  obtain ⟨v, hv, rfl⟩ := List.mem_map.mp (hsub f c h)
  exact first_mem_tiling_of_le hLL hv

/-- Reliable ticks at highest content IDs that never decrease, each leaving exactly the plan
of its own highest content ID. -/
theorem run_reliable_holds_iff {ctx : Nat → Bytes}
    (hon : ¬ p.advertisementInterval < 0 - a.lastConnection)
    (haddr : a.addrInfo lib = .ok addrInfo)
    (hctx : ∀ f, makeContextID lib ⟨addrInfo.id, f, p.batchSize⟩ = .ok (ctx f))
    (hW : 0 < p.batchSize) {L : Nat} (hL : (L / p.batchSize + 1) * p.batchSize < 2 ^ 64) :
    ∀ (Ls : List Nat) (L₀ : Nat) (w : World PeerID), w.ledger.WellFormed →
      (∀ r ∈ w.ledger.rows, r.autoretrieveHandle = a.handle) →
      (∀ f c, w.ledger.Holds a.handle f c → f ∈ (tiling p.batchSize L₀).map (·.first)) →
      (L₀ :: Ls ++ [L]).Pairwise (· ≤ ·) →
      ∃ w', p.run lib ((Ls ++ [L]).map fun L => .reliable L [a]) w = some w' ∧
        ∀ f c, w'.ledger.Holds a.handle f c ↔ ⟨f, c⟩ ∈ tiling p.batchSize L
  | [], L₀, w, hwf, hall, hsub, hmono => by
    obtain ⟨w', hw', -, -, hrows⟩ := tick_reliable_holds_iff hwf hall hsub
      (List.rel_of_pairwise_cons hmono (List.mem_singleton_self L)) hon haddr hctx hW hL
    exact ⟨w', by simp [Provider.run, hw'], hrows⟩
  | L₁ :: Ls, L₀, w, hwf, hall, hsub, hmono => by
    have hL₁ : L₁ ≤ L := List.rel_of_pairwise_cons (List.pairwise_cons.mp hmono).2
      (List.mem_append_right _ (List.mem_singleton_self L))
    have hfit : (L₁ / p.batchSize + 1) * p.batchSize < 2 ^ 64 :=
      Nat.lt_of_le_of_lt (Nat.mul_le_mul_right _ (Nat.succ_le_succ (Nat.div_le_div_right hL₁))) hL
    obtain ⟨w₁, hw₁, hwf₁, hall₁, hrows₁⟩ := tick_reliable_holds_iff hwf hall hsub
      (List.rel_of_pairwise_cons hmono (List.mem_cons_self _ _)) hon haddr hctx hW hfit
    obtain ⟨w', hw', hrows⟩ := run_reliable_holds_iff hon haddr hctx hW hL Ls L₁ w₁ hwf₁ hall₁
      (fun f c h => List.mem_map_of_mem _ ((hrows₁ f c).mp h)) (List.pairwise_cons.mp hmono).2
    exact ⟨w', by simpa [Provider.run, hw₁] using hw', hrows⟩

/-- One autoretrieve, online, with a parseable address whose peer ID marshals, and a catalog
that only grows: in a run from the empty ledger whose calls all get through, the ledger
holds after every tick exactly the plan of that tick's highest content ID. -/
theorem run_reliable_tracks_plan {Ls : List Nat} {L : Nat} {peerIDBytes : Bytes}
    (hmono : (Ls ++ [L]).Pairwise (· ≤ ·)) (hW : 0 < p.batchSize)
    (hL : (L / p.batchSize + 1) * p.batchSize < 2 ^ 64)
    (hon : ¬ p.advertisementInterval < 0 - a.lastConnection)
    (haddr : a.addrInfo lib = .ok addrInfo) (hm : lib.marshalBinary addrInfo.id = .ok peerIDBytes) :
    ∃ w, p.run lib ((Ls ++ [L]).map fun L => .reliable L [a]) World.empty = some w ∧
      ∀ f c, w.ledger.Holds a.handle f c ↔ ⟨f, c⟩ ∈ tiling p.batchSize L :=
  run_reliable_holds_iff hon haddr (fun _ => makeContextID_of_marshal lib hm) hW hL Ls 0
    World.empty Ledger.wellFormed_empty (fun _ h => absurd h (List.not_mem_nil _))
    (fun _ _ ⟨_, h, _⟩ => absurd h (List.not_mem_nil _))
    (List.pairwise_cons.mpr ⟨fun _ _ => Nat.zero_le _, hmono⟩)

theorem run_reliable_tracks_plan_growth :
    ∃ w, (newProvider 1).run rawPeerLib
        (([0, 60000] ++ [80000]).map fun L => .reliable L [soleAutoretrieve]) World.empty =
          some w ∧
      ∀ f c, w.ledger.Holds soleAutoretrieve.handle f c ↔ ⟨f, c⟩ ∈ tiling 25000 80000 := by
  refine run_reliable_tracks_plan ?_ ?_ ?_ ?_
    (rfl : soleAutoretrieve.addrInfo rawPeerLib = .ok ⟨[toByte 1], ["x"]⟩) rfl
  exacts [by decide, by decide, by decide, by decide]

end Single

/-! ## Two autoretrieves -/

/-- Two online autoretrieves, `a` then `b`, with parseable addresses. -/
def twoAutoretrieves : List Autoretrieve := [⟨"a", 0, "x"⟩, ⟨"b", 0, "yy"⟩]

/-- Two online autoretrieves and a reliable tick at highest content ID 1: `b`'s row for
the batch at 0 is rejected by the unique index, which `a`'s row holds, so the ledger
never records it and the next identical tick calls the engine again. -/
theorem tick_not_idempotent_two_autoretrieves :
    ∃ w₁ w₂,
      (newProvider 1).tick rawPeerLib (.reliable 1 twoAutoretrieves) World.empty = some w₁ ∧
      (newProvider 1).tick rawPeerLib (.reliable 1 twoAutoretrieves) w₁ = some w₂ ∧
      plan (newProvider 1).batchSize 1 = some [⟨0, 1⟩] ∧
      w₁.ledger.Holds "a" 0 1 ∧ ¬ w₁.ledger.Holds "b" 0 1 ∧
      ((w₂.log.drop w₁.log.length).any fun e => e.call.isNotify) = true :=
  ⟨_, _, rfl, rfl, by decide, by decide, by decide, by decide⟩

/-- `b`'s rows are exactly the plan for highest content ID 1. -/
def oldPlanWorld : World Bytes := ⟨⟨[⟨1, 0, 1, "b"⟩], 2⟩, []⟩

/-- The catalog grows from 1 to 25001 while `b`'s rows are the plan for 1: `a`, listed
first, takes the new batch at 25000, so `b`'s row for it is rejected and `b` ends
without a row for a batch of the new plan. -/
theorem tick_growth_loses_new_batch :
    plan (newProvider 1).batchSize 1 = some [⟨0, 1⟩] ∧
      plan (newProvider 1).batchSize 25001 = some [⟨0, 25000⟩, ⟨25000, 1⟩] ∧
      (∀ f c, oldPlanWorld.ledger.Holds "b" f c ↔ f = 0 ∧ c = 1) ∧
      ∃ w, (newProvider 1).tick rawPeerLib (.reliable 25001 twoAutoretrieves) oldPlanWorld =
          some w ∧ w.ledger.Holds "b" 0 25000 ∧ ¬ w.ledger.Holds "b" 25000 1 := by
  refine ⟨by decide, by decide, fun f c => ?_, _, rfl, by decide, by decide⟩
  simp [oldPlanWorld, Ledger.Holds, eq_comm, and_comm]

/-- In every run from the empty ledger, whatever the ticks and the failures, the ledger
holds at most one row per first content ID, whichever autoretrieve it belongs to. Every
plan has a batch at 0, so no reachable ledger holds the whole plans of two
autoretrieves, whatever their batch sizes and highest content IDs. -/
theorem run_not_two_plans {ticks : List (Tick PeerID)}
    (h : p.run lib ticks World.empty = some w) :
    (w.ledger.rows.map (·.firstContentID)).Nodup ∧
      ∀ handle handle' : String, handle ≠ handle' → ∀ W W' L L' : Nat,
        ¬ ((∀ win ∈ tiling W L, w.ledger.Holds handle win.first win.count) ∧
          ∀ win ∈ tiling W' L', w.ledger.Holds handle' win.first win.count) := by
  have hwf : w.ledger.WellFormed := @Provider.run_induction _ lib p (·.ledger.WellFormed)
    (fun _ _ _ _ win hwf => hwf.advertiseBatch win) ticks _ _ Ledger.wellFormed_empty h
  have hzero : ∀ W L, (⟨0, min W L⟩ : Window) ∈ tiling W L :=
    fun W L => mem_tiling.mpr ⟨0, Nat.zero_le _, by simp⟩
  refine ⟨hwf.firsts_nodup, fun _ _ hne W W' L L' ⟨hplan, hplan'⟩ => hne ?_⟩
  exact (hwf.holds_unique (hplan _ (hzero W L)) (hplan' ⟨0, min W' L'⟩ (hzero W' L'))).1

theorem run_not_two_plans_twoAutoretrieves :
    ∃ w, (newProvider 1).run rawPeerLib [.reliable 1 twoAutoretrieves] World.empty = some w ∧
      (w.ledger.rows.map (·.firstContentID)).Nodup ∧
      ∀ handle handle' : String, handle ≠ handle' → ∀ W W' L L' : Nat,
        ¬ ((∀ win ∈ tiling W L, w.ledger.Holds handle win.first win.count) ∧
          ∀ win ∈ tiling W' L', w.ledger.Holds handle' win.first win.count) :=
  have h : (newProvider 1).run rawPeerLib [.reliable 1 twoAutoretrieves] World.empty = some _ :=
    rfl
  ⟨_, h, run_not_two_plans h⟩

end Estuary
