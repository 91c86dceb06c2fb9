import Mathlib.Logic.Function.Basic
import Mathlib.Logic.Relation

/-!
# The shuttle connection registry

Shuttles connect to the content manager over a websocket. `registerShuttleConnection`
records each connection in `cm.shuttles` under the shuttle's handle and returns the
connection's command channel with a closure that unregisters it; `sendShuttleCommand`,
`shuttleIsOnline`, `shuttleAddrInfo` and `shuttleHostName` look a handle up. Every access
to the map holds `shuttlesLk`, but two of the calls are not one critical section: the
closure closes `d.closing` before it takes the lock, and a send or an online check lets
the lock go before it selects on the connection's channels. Any number of goroutines make
these calls at once.

The state is the map, every connection made so far by its identity (the pointer `d`), and
the point each goroutine has reached. One atomic step is one critical section or one
channel operation, so every interleaving of the goroutines is a run. The invariant says
that the map holds each handle's own connection, that every open connection is in it,
and that a closed connection stays in it only while its closure is between `close` and
the lock.

## Main definitions

* `Registry` — `cm.shuttles`, the connections and the goroutines' phases
* `Registry.registerShuttleConnection`, `Registry.unregister`, `Registry.unregisterLocked`,
  `Registry.sendShuttleCommand`, `ShuttleConnection.sendMessage`, `Registry.shuttleIsOnline`,
  `Registry.shuttleAddrInfo`, `Registry.shuttleHostName` — the calls, cut at their atomic steps
* `Registry.step`, `Registry.Reachable`, `Registry.Steps` — one step of any goroutine, every
  interleaving, and a run with its steps

## Main results

* `Registry.Invariant.step`, `Registry.Reachable.invariant` — every step keeps the invariant,
  so every reachable state has it
* `shuttles_entry_open_or_closing` — every entry of the map is its handle's connection, open
  or with its unregister in progress
* `open_connection_mapped` — an open connection is the one the map holds for its handle,
  so a handle never has two
* `unregisterLocked_deletes_own` — the closure finds its handle still mapped to its own
  connection, so its checks never fail
* `registerShuttleConnection_refused_iff` — when a shuttle is refused
* `shuttleIsOnline_answer` — every answer of `shuttleIsOnline` is right when it is given
* `sendShuttleCommand_ok_after_unregister` — a send past its lookup can still succeed after
  the connection is gone
* `open_connection_stays` — only its own closure closes a connection or takes it out of the
  map, whatever the other goroutines do
* `unregister_twice_panics` — a second call of the closure panics
-/

namespace Estuary

/-- `drpc.Hello`, with the fields the registry reads. -/
structure Hello (Addr : Type) where
  host : String
  addrInfo : Addr
  deriving DecidableEq, Repr

/-- A `shuttleConnection`. `cmds` is what the channel `cmds` holds, oldest first, and
`closing` says whether the channel `closing` has been closed. -/
structure ShuttleConnection (Addr Cmd : Type) where
  handle : String
  hostname : String
  addrInfo : Addr
  cmds : List Cmd
  closing : Bool
  deriving DecidableEq, Repr

/-- Where a goroutine stands between two atomic steps of the registry's code. -/
inductive Phase (Cmd : Type)
  /-- Outside the registry's calls. -/
  | idle
  /-- In the closure that unregisters connection `d` of `handle`, after `close(d.closing)`. -/
  | closed (handle : String) (d : Nat)
  /-- In `sendShuttleCommand` for `handle` after the lookup found `d`: in `d.sendMessage`. -/
  | sending (handle : String) (d : Nat) (cmd : Cmd)
  /-- In `shuttleIsOnline` for `handle` after the lookup found `d`. -/
  | checking (handle : String) (d : Nat)
  /-- Stopped by the panic of `close` on a channel already closed. -/
  | panicked
  deriving DecidableEq, Repr

/-- An idle goroutine may start a call. -/
def Phase.isIdle {Cmd : Type} : Phase Cmd → Bool
  | .idle => true
  | _ => false

@[simp] theorem Phase.isIdle_iff {Cmd : Type} {p : Phase Cmd} : p.isIdle = true ↔ p = .idle := by
  cases p <;> simp [isIdle]

/-- `cm.shuttles`, the connections made so far, and the goroutines. -/
structure Registry (Addr Cmd : Type) where
  /-- `cm.shuttles`: each handle's connection, by identity. -/
  shuttles : String → Option Nat
  /-- The connection behind each identity. -/
  conns : Nat → Option (ShuttleConnection Addr Cmd)
  /-- The identity of the next connection. -/
  nextConn : Nat
  /-- The point each goroutine has reached. -/
  threads : Nat → Phase Cmd

/-- What a call returns, or what a shuttle's writer takes from its channel. -/
inductive Reply (Addr Cmd : Type)
  /-- `d.cmds` and the closure that unregisters `d`, with a nil error. -/
  | connected (d : Nat)
  /-- A non-nil error. -/
  | error (e : String)
  /-- A nil error. -/
  | ok
  | online (b : Bool)
  | addrInfo (a : Option Addr)
  | hostName (h : String)
  | received (cmd : Cmd)
  deriving DecidableEq, Repr

/-- A case of the `select` in `sendMessage`. -/
inductive SendCase
  /-- `dc.cmds <- cmd` -/
  | cmds
  /-- `<-dc.closing` -/
  | closing
  /-- `<-ctx.Done()`, returning `ctx.Err()`. -/
  | done (err : String)
  deriving DecidableEq, Repr

/-- An atomic step of goroutine `t`, or of the writer of connection `d`. -/
inductive Action (Addr Cmd : Type)
  | register (t : Nat) (handle : String) (hello : Hello Addr)
  | unregister (t : Nat) (d : Nat)
  | unregisterLocked (t : Nat)
  | sendShuttleCommand (t : Nat) (handle : String) (cmd : Cmd)
  | sendMessage (t : Nat) (sel : SendCase)
  | shuttleIsOnline (t : Nat) (handle : String)
  | isOnlineSelect (t : Nat)
  | shuttleAddrInfo (t : Nat) (handle : String)
  | shuttleHostName (t : Nat) (handle : String)
  | receive (d : Nat)
  deriving Repr

/-- `ErrNoShuttleConnection`. -/
def errNoShuttleConnection : String := "no connection to requested shuttle"

/-- `dc.sendMessage(ctx, cmd)` taking case `sel` of its `select`; `none` when that case is
not ready. The channel `cmds` buffers 32 commands. -/
def ShuttleConnection.sendMessage {Addr Cmd : Type} (dc : ShuttleConnection Addr Cmd) (cmd : Cmd) :
    SendCase → Option (ShuttleConnection Addr Cmd × Reply Addr Cmd)
  | .cmds => if dc.cmds.length < 32 then some ({ dc with cmds := dc.cmds ++ [cmd] }, .ok) else none
  | .closing => if dc.closing then some (dc, .error errNoShuttleConnection) else none
  | .done err => some (dc, .error err)

/-- Every case of `sendMessage` keeps the connection's handle and `closing`, and a send
adds the command to a buffer with room. -/
theorem ShuttleConnection.sendMessage_spec {Addr Cmd : Type} {dc dc' : ShuttleConnection Addr Cmd}
    {cmd : Cmd} {sel : SendCase} {r : Reply Addr Cmd} (h : dc.sendMessage cmd sel = some (dc', r)) :
    dc'.handle = dc.handle ∧ dc'.closing = dc.closing ∧
      (dc'.cmds = dc.cmds ∨ dc'.cmds = dc.cmds ++ [cmd] ∧ dc.cmds.length < 32) := by
  cases sel <;> simp only [sendMessage, Option.ite_none_right_eq_some, Option.some.injEq,
    Prod.mk.injEq] at h
  · obtain ⟨hlt, rfl, -⟩ := h; exact ⟨rfl, rfl, .inr ⟨rfl, hlt⟩⟩
  · obtain ⟨-, rfl, -⟩ := h; exact ⟨rfl, rfl, .inl rfl⟩
  · obtain ⟨rfl, -⟩ := h; exact ⟨rfl, rfl, .inl rfl⟩

/-- `sendMessage` returns nil or an error. -/
theorem ShuttleConnection.sendMessage_reply {Addr Cmd : Type} {dc dc' : ShuttleConnection Addr Cmd}
    {cmd : Cmd} {sel : SendCase} {r : Reply Addr Cmd} (h : dc.sendMessage cmd sel = some (dc', r)) :
    r = .ok ∨ ∃ e, r = .error e := by
  cases sel <;> simp only [sendMessage, Option.ite_none_right_eq_some, Option.some.injEq,
    Prod.mk.injEq] at h
  · exact .inl h.2.2.symm
  · exact .inr ⟨_, h.2.2.symm⟩
  · exact .inr ⟨_, h.2.symm⟩

namespace Registry

variable {Addr Cmd : Type}

/-- No shuttle connected, every goroutine idle. -/
def init : Registry Addr Cmd := ⟨fun _ => none, fun _ => none, 0, fun _ => .idle⟩

/-- Goroutine `t` moved to `p`. -/
def setThread (s : Registry Addr Cmd) (t : Nat) (p : Phase Cmd) : Registry Addr Cmd :=
  { s with threads := Function.update s.threads t p }

/-- Connection `d` replaced by `c`. -/
def setConn (s : Registry Addr Cmd) (d : Nat) (c : ShuttleConnection Addr Cmd) :
    Registry Addr Cmd :=
  { s with conns := Function.update s.conns d (some c) }

section Updates

variable (s : Registry Addr Cmd) (t d : Nat) (p : Phase Cmd) (c : ShuttleConnection Addr Cmd)

@[simp] theorem setThread_shuttles : (s.setThread t p).shuttles = s.shuttles := rfl
@[simp] theorem setThread_conns : (s.setThread t p).conns = s.conns := rfl
@[simp] theorem setThread_nextConn : (s.setThread t p).nextConn = s.nextConn := rfl
@[simp] theorem setThread_threads :
    (s.setThread t p).threads = Function.update s.threads t p := rfl
@[simp] theorem setConn_shuttles : (s.setConn d c).shuttles = s.shuttles := rfl
@[simp] theorem setConn_conns : (s.setConn d c).conns = Function.update s.conns d (some c) := rfl
@[simp] theorem setConn_nextConn : (s.setConn d c).nextConn = s.nextConn := rfl
@[simp] theorem setConn_threads : (s.setConn d c).threads = s.threads := rfl

end Updates

section Calls

variable (urlParse : String → Except String String)

/-- The hostname `registerShuttleConnection` records: `u.Host` for `u, err :=
url.Parse(hello.Host)` (`urlParse` stands for both), or empty when the host does not
parse. -/
def hostnameOf (host : String) : String :=
  match urlParse host with
  | .ok host => host
  | .error _ => ""

/-- `cm.shuttles[handle] = d` for a new connection `d`, which gets the next identity. -/
def insert (s : Registry Addr Cmd) (handle : String) (d : ShuttleConnection Addr Cmd) :
    Registry Addr Cmd :=
  { s with
    shuttles := Function.update s.shuttles handle (some s.nextConn)
    conns := Function.update s.conns s.nextConn (some d)
    nextConn := s.nextConn + 1 }

section Updates

variable (s : Registry Addr Cmd) (handle : String) (d : ShuttleConnection Addr Cmd)

@[simp] theorem insert_shuttles :
    (s.insert handle d).shuttles = Function.update s.shuttles handle (some s.nextConn) := rfl
@[simp] theorem insert_conns :
    (s.insert handle d).conns = Function.update s.conns s.nextConn (some d) := rfl
@[simp] theorem insert_nextConn : (s.insert handle d).nextConn = s.nextConn + 1 := rfl
@[simp] theorem insert_threads : (s.insert handle d).threads = s.threads := rfl

end Updates

/-- `registerShuttleConnection(handle, hello)`, whose body holds `shuttlesLk`: a handle
that has a connection is refused, otherwise a new connection with an empty buffer is
mapped. -/
def registerShuttleConnection (s : Registry Addr Cmd) (handle : String) (hello : Hello Addr) :
    Registry Addr Cmd × Reply Addr Cmd :=
  match s.shuttles handle with
  | some _ => (s, .error "shuttle already connected")
  | none =>
    (s.insert handle ⟨handle, hostnameOf urlParse hello.host, hello.addrInfo, [], false⟩,
      .connected s.nextConn)

end Calls

/-- The first statement of the closure that unregisters `d`, run by goroutine `t`:
`close(d.closing)`, which panics when the channel is already closed. -/
def unregister (s : Registry Addr Cmd) (t d : Nat) : Option (Registry Addr Cmd) :=
  (s.conns d).map fun c =>
    if c.closing then s.setThread t .panicked
    else (s.setConn d { c with closing := true }).setThread t (.closed c.handle d)

theorem unregister_eq_some {s s' : Registry Addr Cmd} {t d : Nat} :
    s.unregister t d = some s' ↔ ∃ c, s.conns d = some c ∧
      (c.closing = true ∧ s' = s.setThread t .panicked ∨
        c.closing = false ∧
          s' = (s.setConn d { c with closing := true }).setThread t (.closed c.handle d)) := by
  unfold unregister
  cases s.conns d with
  | none => simp
  | some c => cases hc : c.closing <;> simp [hc, @eq_comm _ s']

/-- `delete(cm.shuttles, handle)`. -/
def delete (s : Registry Addr Cmd) (handle : String) : Registry Addr Cmd :=
  { s with shuttles := Function.update s.shuttles handle none }

section Updates

variable (s : Registry Addr Cmd) (handle : String)

@[simp] theorem delete_shuttles : (s.delete handle).shuttles = Function.update s.shuttles handle none :=
  rfl
@[simp] theorem delete_conns : (s.delete handle).conns = s.conns := rfl
@[simp] theorem delete_nextConn : (s.delete handle).nextConn = s.nextConn := rfl
@[simp] theorem delete_threads : (s.delete handle).threads = s.threads := rfl

end Updates

/-- The rest of the closure, under `shuttlesLk`: the entry of `handle` is deleted only if
it is still `d`. -/
def unregisterLocked (s : Registry Addr Cmd) (handle : String) (d : Nat) : Registry Addr Cmd :=
  match s.shuttles handle with
  | some outd => if outd = d then s.delete handle else s
  | none => s

theorem unregisterLocked_of_mapped {s : Registry Addr Cmd} {handle : String} {d : Nat}
    (h : s.shuttles handle = some d) : s.unregisterLocked handle d = s.delete handle := by
  simp [unregisterLocked, h]

/-- The locked lookup of `sendShuttleCommand(ctx, handle, cmd)` by goroutine `t`: without
a connection it returns `ErrNoShuttleConnection`, otherwise `t` goes on to
`d.sendMessage(ctx, cmd)`. -/
def sendShuttleCommand (s : Registry Addr Cmd) (t : Nat) (handle : String) (cmd : Cmd) :
    Registry Addr Cmd × Option (Reply Addr Cmd) :=
  match s.shuttles handle with
  | some d => (s.setThread t (.sending handle d cmd), none)
  | none => (s, some (.error errNoShuttleConnection))

/-- The locked lookup of `shuttleIsOnline(handle)` by goroutine `t`: without a connection
it returns `false`, otherwise `t` goes on to the `select` on `d.closing`. -/
def shuttleIsOnline (s : Registry Addr Cmd) (t : Nat) (handle : String) :
    Registry Addr Cmd × Option (Reply Addr Cmd) :=
  match s.shuttles handle with
  | some d => (s.setThread t (.checking handle d), none)
  | none => (s, some (.online false))

/-- `shuttleAddrInfo(handle)`, under `shuttlesLk`. -/
def shuttleAddrInfo (s : Registry Addr Cmd) (handle : String) : Option Addr :=
  ((s.shuttles handle).bind s.conns).map (·.addrInfo)

/-- `shuttleHostName(handle)`, under `shuttlesLk`. -/
def shuttleHostName (s : Registry Addr Cmd) (handle : String) : String :=
  match (s.shuttles handle).bind s.conns with
  | some d => d.hostname
  | none => ""

/-- The writer of connection `d` takes the oldest command of `d.cmds`; `none` when the
channel is empty. -/
def receive (s : Registry Addr Cmd) (d : Nat) : Option (Registry Addr Cmd × Reply Addr Cmd) :=
  match s.conns d with
  | some c =>
    match c.cmds with
    | cmd :: rest => some (s.setConn d { c with cmds := rest }, .received cmd)
    | [] => none
  | none => none

section Steps

variable (urlParse : String → Except String String)

/-- One atomic step, with what it returns. A call starts only on an idle goroutine, and a
step that is not ready (a blocked `select`, an empty channel) is `none`. -/
def step (s : Registry Addr Cmd) :
    Action Addr Cmd → Option (Registry Addr Cmd × Option (Reply Addr Cmd))
  | .register t handle hello =>
    if (s.threads t).isIdle then
      some (Prod.map id some (s.registerShuttleConnection urlParse handle hello))
    else none
  | .unregister t d => if (s.threads t).isIdle then (s.unregister t d).map (·, none) else none
  | .unregisterLocked t =>
    match s.threads t with
    | .closed handle d => some ((s.unregisterLocked handle d).setThread t .idle, none)
    | _ => none
  | .sendShuttleCommand t handle cmd =>
    if (s.threads t).isIdle then some (s.sendShuttleCommand t handle cmd) else none
  | .sendMessage t sel =>
    match s.threads t with
    | .sending _ d cmd =>
      (s.conns d).bind fun dc => (dc.sendMessage cmd sel).map fun (dc', r) =>
        ((s.setConn d dc').setThread t .idle, some r)
    | _ => none
  | .shuttleIsOnline t handle =>
    if (s.threads t).isIdle then some (s.shuttleIsOnline t handle) else none
  | .isOnlineSelect t =>
    match s.threads t with
    | .checking _ d => (s.conns d).map fun dc => (s.setThread t .idle, some (.online !dc.closing))
    | _ => none
  | .shuttleAddrInfo t handle =>
    if (s.threads t).isIdle then some (s, some (.addrInfo (s.shuttleAddrInfo handle))) else none
  | .shuttleHostName t handle =>
    if (s.threads t).isIdle then some (s, some (.hostName (s.shuttleHostName handle))) else none
  | .receive d => (s.receive d).map fun (s', r) => (s', some r)

/-- `s'` follows `s` by one step of some goroutine. -/
def Next (s s' : Registry Addr Cmd) : Prop := ∃ a r, s.step urlParse a = some (s', r)

/-- The states some interleaving reaches. -/
def Reachable (s : Registry Addr Cmd) : Prop := Relation.ReflTransGen (Next urlParse) init s

/-- The steps of `as` in order, each skipped when it is not ready. -/
def exec (s : Registry Addr Cmd) : List (Action Addr Cmd) → Registry Addr Cmd
  | [] => s
  | a :: as =>
    match s.step urlParse a with
    | some (s', _) => exec s' as
    | none => exec s as

theorem Reachable.exec {s : Registry Addr Cmd} (hs : Reachable urlParse s) :
    ∀ as, Reachable urlParse (s.exec urlParse as)
  | [] => hs
  | a :: as => by
    simp only [Registry.exec]
    split
    · next s' r h => exact Reachable.exec (hs.tail ⟨a, r, h⟩) as
    · exact Reachable.exec hs as

/-- The steps `as`, in order and each ready, lead from `s` to `s'`. -/
inductive Steps : Registry Addr Cmd → List (Action Addr Cmd) → Registry Addr Cmd → Prop
  | nil (s : Registry Addr Cmd) : Steps s [] s
  | cons {s s₁ s' : Registry Addr Cmd} {a : Action Addr Cmd} {as : List (Action Addr Cmd)}
      {r : Option (Reply Addr Cmd)} :
      s.step urlParse a = some (s₁, r) → Steps s₁ as s' → Steps s (a :: as) s'

end Steps

/-! ## The invariant

One structure holds what every reachable state satisfies. Each kind of step keeps it:
moving a goroutine that is not between `close` and the lock (`Invariant.setThread`),
changing a buffer (`Invariant.setConn`), and the three steps that change the map or
`closing`: registering, closing, and the locked delete. -/

section Invariant

/-- What the invariant asks of a goroutine at phase `p`: between `close` and the lock it
holds a closed connection that is still mapped; in a send or an online check it holds a
connection of the handle it looked up. -/
def PhaseOk (s : Registry Addr Cmd) : Phase Cmd → Prop
  | .closed h d => s.shuttles h = some d ∧ ∃ c, s.conns d = some c ∧ c.closing = true
  | .sending h d _ => ∃ c, s.conns d = some c ∧ c.handle = h
  | .checking h d => ∃ c, s.conns d = some c ∧ c.handle = h
  | .idle => True
  | .panicked => True

/-- What every reachable state satisfies. -/
structure Invariant (s : Registry Addr Cmd) : Prop where
  /-- Identities from `nextConn` on name no connection yet. -/
  fresh : ∀ d, s.nextConn ≤ d → s.conns d = none
  /-- The map holds, for each handle, a connection of that handle. -/
  mapped : ∀ h d, s.shuttles h = some d → ∃ c, s.conns d = some c ∧ c.handle = h
  /-- Every open connection is in the map. -/
  live : ∀ d c, s.conns d = some c → c.closing = false → s.shuttles c.handle = some d
  /-- A closed connection in the map has a goroutine between `close` and the lock. -/
  pending : ∀ h d c, s.shuttles h = some d → s.conns d = some c → c.closing = true →
    ∃ t, s.threads t = .closed h d
  phases : ∀ t, s.PhaseOk (s.threads t)
  /-- At most one goroutine is between `close` and the lock for a connection. -/
  closed_unique : ∀ t t' h h' d, s.threads t = .closed h d → s.threads t' = .closed h' d → t = t'
  /-- No buffer holds more than 32 commands. -/
  bounded : ∀ d c, s.conns d = some c → c.cmds.length ≤ 32

/-- Every connection of `s` is in `s'` with its handle, and closed if it was closed. -/
def ConnsKept (s s' : Registry Addr Cmd) : Prop :=
  ∀ d c, s.conns d = some c →
    ∃ c', s'.conns d = some c' ∧ c'.handle = c.handle ∧ (c.closing = true → c'.closing = true)

/-- What step `a` from `s` to `s'` does to the connections: it keeps them with their handles
and their `closing` as it was, except that a call of `d`'s unregister closure closes `d`. -/
def Keeps (a : Action Addr Cmd) (s s' : Registry Addr Cmd) : Prop :=
  ∀ d c, s.conns d = some c → ∃ c', s'.conns d = some c' ∧ c'.handle = c.handle ∧
    (c'.closing = c.closing ∨ c'.closing = true ∧ ∃ t, a = .unregister t d)

variable {s s' : Registry Addr Cmd} {t d : Nat} {p : Phase Cmd} {c c' : ShuttleConnection Addr Cmd}

@[simp] theorem phaseOk_setThread {q : Phase Cmd} : (s.setThread t p).PhaseOk q ↔ s.PhaseOk q :=
  Iff.rfl

theorem ConnsKept.of_conns (h : s'.conns = s.conns) : ConnsKept s s' := fun _ c hc =>
  ⟨c, h ▸ hc, rfl, id⟩

theorem ConnsKept.refl : ConnsKept s s := .of_conns rfl

theorem ConnsKept.trans {s'' : Registry Addr Cmd} (h₁ : ConnsKept s s') (h₂ : ConnsKept s' s'') :
    ConnsKept s s'' := fun d c hc =>
  let ⟨c₁, hc₁, hh₁, hcl₁⟩ := h₁ d c hc
  let ⟨c₂, hc₂, hh₂, hcl₂⟩ := h₂ d c₁ hc₁
  ⟨c₂, hc₂, hh₂.trans hh₁, hcl₂ ∘ hcl₁⟩

theorem Keeps.connsKept {a : Action Addr Cmd} (h : Keeps a s s') : ConnsKept s s' := fun d c hc =>
  let ⟨c', hc', hh, hcl⟩ := h d c hc
  ⟨c', hc', hh, fun h => hcl.elim (·.trans h) (·.1)⟩

theorem Keeps.of_conns {a : Action Addr Cmd} (h : s'.conns = s.conns) : Keeps a s s' := fun _ c hc =>
  ⟨c, h ▸ hc, rfl, .inl rfl⟩

/-- A phase stays allowed when no entry of the map is lost and the connections are kept. -/
theorem PhaseOk.mono {q : Phase Cmd} (hc : ConnsKept s s')
    (hsh : ∀ h d, s.shuttles h = some d → s'.shuttles h = some d) (hq : s.PhaseOk q) :
    s'.PhaseOk q := by
  cases q with
  | closed h d =>
    obtain ⟨hm, c, hd, hcl⟩ := hq
    obtain ⟨c', hd', -, hcl'⟩ := hc d c hd
    exact ⟨hsh h d hm, c', hd', hcl' hcl⟩
  | sending h d _ | checking h d =>
    obtain ⟨c, hd, rfl⟩ := hq
    obtain ⟨c', hd', hh, -⟩ := hc d c hd
    exact ⟨c', hd', hh⟩
  | idle | panicked => trivial

theorem invariant_init : (init : Registry Addr Cmd).Invariant where
  fresh _ _ := rfl
  mapped _ _ h := nomatch h
  live _ _ h := nomatch h
  pending _ _ _ h := nomatch h
  phases _ := trivial
  closed_unique _ _ _ _ _ h := nomatch h
  bounded _ _ h := nomatch h

theorem Invariant.lt_nextConn (hs : s.Invariant) (hd : s.conns d = some c) : d < s.nextConn :=
  Nat.lt_of_not_le fun h => by simp [hs.fresh d h] at hd

theorem ConnsKept.setConn (hd : s.conns d = some c) (hh : c'.handle = c.handle)
    (hcl : c.closing = true → c'.closing = true) : ConnsKept s (s.setConn d c') := by
  intro d₁ c₀ h₀
  by_cases e : d₁ = d
  · subst e; rw [hd] at h₀; cases h₀; exact ⟨c', by simp, hh, hcl⟩
  · exact ⟨c₀, by rw [setConn_conns, Function.update_noteq e]; exact h₀, rfl, id⟩

/-- A step that replaces connection `d` keeps the others as they were. -/
theorem Keeps.setConn {a : Action Addr Cmd} (hd : s.conns d = some c) (hh : c'.handle = c.handle)
    (hcl : c'.closing = c.closing ∨ c'.closing = true ∧ ∃ t, a = .unregister t d) :
    Keeps a s (s.setConn d c') := by
  intro d₁ c₀ h₀
  by_cases e : d₁ = d
  · subst e; rw [hd] at h₀; cases h₀; exact ⟨c', by simp, hh, hcl⟩
  · exact ⟨c₀, by rw [setConn_conns, Function.update_noteq e]; exact h₀, rfl, .inl rfl⟩

theorem Invariant.keeps_insert {a : Action Addr Cmd} {handle : String} (hs : s.Invariant) :
    Keeps a s (s.insert handle c) := fun _ c₀ h₀ =>
  ⟨c₀, by rw [insert_conns, Function.update_noteq (Nat.ne_of_lt (hs.lt_nextConn h₀))]; exact h₀,
    rfl, .inl rfl⟩

/-- Moving a goroutine that is not between `close` and the lock to an allowed phase that
is not there either keeps the invariant. -/
theorem Invariant.setThread (hs : s.Invariant) (hold : ∀ h d, s.threads t ≠ .closed h d)
    (hnew : ∀ h d, p ≠ .closed h d) (hp : s.PhaseOk p) : (s.setThread t p).Invariant := by
  have keep : ∀ {t'}, t' ≠ t → (s.setThread t p).threads t' = s.threads t' := fun e =>
    Function.update_noteq e _ _
  have other : ∀ {t' h d}, (s.setThread t p).threads t' = .closed h d → t' ≠ t := by
    rintro t' h d ht' rfl
    exact hnew h d (by simpa using ht')
  refine ⟨hs.fresh, hs.mapped, hs.live, fun h d c hm hd hcl => ?_, fun t' => ?_,
    fun t₁ t₂ h h' d h₁ h₂ => ?_, hs.bounded⟩
  · obtain ⟨t', ht'⟩ := hs.pending h d c hm hd hcl
    have e : t' ≠ t := by rintro rfl; exact hold h d ht'
    exact ⟨t', (keep e).trans ht'⟩
  · by_cases e : t' = t
    · subst e; simpa using hp
    · rw [keep e]; exact hs.phases t'
  · exact hs.closed_unique t₁ t₂ h h' d ((keep (other h₁)).symm.trans h₁)
      ((keep (other h₂)).symm.trans h₂)

/-- Replacing a connection by one with its handle and `closing` and a buffer within the
bound keeps the invariant. -/
theorem Invariant.setConn (hs : s.Invariant) (hd : s.conns d = some c) (hh : c'.handle = c.handle)
    (hcl : c'.closing = c.closing) (hb : c'.cmds.length ≤ 32) : (s.setConn d c').Invariant := by
  have back : ∀ {d₁ c₁}, (s.setConn d c').conns d₁ = some c₁ →
      ∃ c₀, s.conns d₁ = some c₀ ∧ c₁.handle = c₀.handle ∧ c₁.closing = c₀.closing ∧
        (d₁ ≠ d → c₁ = c₀) := by
    intro d₁ c₁ h₁
    by_cases e : d₁ = d
    · subst e; simp only [setConn_conns, Function.update_same, Option.some.injEq] at h₁; subst h₁
      exact ⟨c, hd, hh, hcl, absurd rfl⟩
    · rw [setConn_conns, Function.update_noteq e] at h₁; exact ⟨c₁, h₁, rfl, rfl, fun _ => rfl⟩
  have kept : ConnsKept s (s.setConn d c') := .setConn hd hh fun h => hcl.trans h
  refine ⟨fun d₁ h₁ => ?_, fun h d₁ hm => ?_, fun d₁ c₁ h₁ ho => ?_, fun h d₁ c₁ hm h₁ hc => ?_,
    fun t => PhaseOk.mono kept (fun _ _ => id) (hs.phases t), hs.closed_unique, fun d₁ c₁ h₁ => ?_⟩
  · have e : d₁ ≠ d := by have := hs.lt_nextConn hd; simp only [setConn_nextConn] at h₁; omega
    rw [setConn_conns, Function.update_noteq e]; exact hs.fresh d₁ h₁
  · obtain ⟨c₀, h₀, rfl⟩ := hs.mapped h d₁ hm
    obtain ⟨c₁, h₁, hh₁, -⟩ := kept d₁ c₀ h₀
    exact ⟨c₁, h₁, hh₁⟩
  · obtain ⟨c₀, h₀, hh₀, hcl₀, -⟩ := back h₁
    rw [hh₀]; exact hs.live d₁ c₀ h₀ (hcl₀ ▸ ho)
  · obtain ⟨c₀, h₀, -, hcl₀, -⟩ := back h₁
    exact hs.pending h d₁ c₀ hm h₀ (hcl₀ ▸ hc)
  · by_cases e : d₁ = d
    · subst e; simp only [setConn_conns, Function.update_same, Option.some.injEq] at h₁
      exact h₁ ▸ hb
    · obtain ⟨c₀, h₀, -, -, hc₀⟩ := back h₁; rw [hc₀ e]; exact hs.bounded d₁ c₀ h₀

section Steps

variable (urlParse : String → Except String String) {handle : String} {hello : Hello Addr}

/-- Mapping a new open connection with an empty buffer under a handle without an entry
keeps the invariant. -/
theorem Invariant.insert (hs : s.Invariant) (hnone : s.shuttles handle = none)
    (hh : c.handle = handle) (ho : c.closing = false) (hb : c.cmds = []) :
    (s.insert handle c).Invariant := by
  have old : ∀ {d c}, s.conns d = some c → d ≠ s.nextConn := fun h => Nat.ne_of_lt (hs.lt_nextConn h)
  have other : ∀ {h d}, s.shuttles h = some d → h ≠ handle := by
    intro h d hm e; rw [e, hnone] at hm; cases hm
  refine ⟨fun d hd => ?_, fun h d hm => ?_, fun d c' hc ho' => ?_, fun h d c' hm hc hcl => ?_,
    fun t => PhaseOk.mono ?_ ?_ (hs.phases t), hs.closed_unique, fun d c' hc => ?_⟩
  · rw [insert_nextConn] at hd
    rw [insert_conns, Function.update_noteq (by omega)]; exact hs.fresh d (by omega)
  · by_cases e : h = handle
    · subst e; simp only [insert_shuttles, Function.update_same, Option.some.injEq] at hm; subst hm
      exact ⟨c, Function.update_same _ _ _, hh⟩
    · rw [insert_shuttles, Function.update_noteq e] at hm
      obtain ⟨c', hc', rfl⟩ := hs.mapped h d hm
      exact ⟨c', (Function.update_noteq (old hc') _ _).trans hc', rfl⟩
  · by_cases e : d = s.nextConn
    · subst e; simp only [insert_conns, Function.update_same, Option.some.injEq] at hc; subst hc
      rw [insert_shuttles, hh]; exact Function.update_same _ _ _
    · rw [insert_conns, Function.update_noteq e] at hc
      have hm := hs.live d c' hc ho'
      rw [insert_shuttles, Function.update_noteq (other hm)]; exact hm
  · by_cases e : d = s.nextConn
    · subst e; simp only [insert_conns, Function.update_same, Option.some.injEq] at hc; subst hc
      simp [ho] at hcl
    · rw [insert_conns, Function.update_noteq e] at hc
      have e' : h ≠ handle := by
        rintro rfl; simp only [insert_shuttles, Function.update_same, Option.some.injEq] at hm
        exact e hm.symm
      exact hs.pending h d c' ((Function.update_noteq e' _ _).symm.trans hm) hc hcl
  · exact fun d c' hc => ⟨c', (Function.update_noteq (old hc) _ _).trans hc, rfl, id⟩
  · exact fun h d hm => (Function.update_noteq (other hm) _ _).trans hm
  · by_cases e : d = s.nextConn
    · subst e; simp only [insert_conns, Function.update_same, Option.some.injEq] at hc; subst hc
      simp [hb]
    · rw [insert_conns, Function.update_noteq e] at hc; exact hs.bounded d c' hc

/-- `close(d.closing)` on an open connection keeps the invariant: the connection stays
mapped, and its goroutine is now the one between `close` and the lock. -/
theorem Invariant.close (hs : s.Invariant) (ht : s.threads t = .idle) (hd : s.conns d = some c)
    (ho : c.closing = false) :
    ((s.setConn d { c with closing := true }).setThread t (.closed c.handle d)).Invariant := by
  have hm := hs.live d c hd ho
  have hlt := hs.lt_nextConn hd
  generalize hs₂ : (s.setConn d { c with closing := true }).setThread t (.closed c.handle d) = s₂
  have hconns : s₂.conns = Function.update s.conns d (some { c with closing := true }) := by
    rw [← hs₂]; rfl
  have hshuttles : s₂.shuttles = s.shuttles := by rw [← hs₂]; rfl
  have hthreads : s₂.threads = Function.update s.threads t (.closed c.handle d) := by rw [← hs₂]; rfl
  have kept : ConnsKept s s₂ := hs₂ ▸ ConnsKept.setConn hd rfl fun _ => rfl
  have other : ∀ {d₁ c₁}, d₁ ≠ d → s₂.conns d₁ = some c₁ → s.conns d₁ = some c₁ := by
    intro d₁ c₁ e h₁; rwa [hconns, Function.update_noteq e] at h₁
  -- the goroutines between `close` and the lock: `t` for `d`, and those of `s` for others
  have who : ∀ {t' h' d'}, s₂.threads t' = .closed h' d' →
      t' = t ∧ d' = d ∨ t' ≠ t ∧ d' ≠ d ∧ s.threads t' = .closed h' d' := by
    intro t' h' d' ht'
    by_cases e : t' = t
    · subst e; simp only [hthreads, Function.update_same, Phase.closed.injEq] at ht'
      exact .inl ⟨rfl, ht'.2.symm⟩
    · rw [hthreads, Function.update_noteq e] at ht'
      obtain ⟨-, c₀, hd₀, hcl₀⟩ : s.PhaseOk (.closed h' d') := ht' ▸ hs.phases t'
      refine .inr ⟨e, ?_, ht'⟩
      rintro rfl; rw [hd] at hd₀; cases hd₀; simp [ho] at hcl₀
  refine ⟨fun d₁ h₁ => ?_, fun h d₁ h₁ => ?_, fun d₁ c₁ h₁ ho₁ => ?_, fun h d₁ c₁ h₀ h₁ hc => ?_,
    fun t' => ?_, fun t₁ t₂ h₁ h₂ d₁ ht₁ ht₂ => ?_, fun d₁ c₁ h₁ => ?_⟩
  · have e : d₁ ≠ d := by rw [← hs₂] at h₁; simp only [setThread_nextConn, setConn_nextConn] at h₁; omega
    rw [hconns, Function.update_noteq e]; exact hs.fresh d₁ (by rw [← hs₂] at h₁; exact h₁)
  · rw [hshuttles] at h₁
    obtain ⟨c₀, h₀, rfl⟩ := hs.mapped h d₁ h₁
    obtain ⟨c₁, h₁, hh₁, -⟩ := kept d₁ c₀ h₀
    exact ⟨c₁, h₁, hh₁⟩
  · have e : d₁ ≠ d := by rintro rfl; simp [hconns] at h₁; rw [← h₁] at ho₁; cases ho₁
    rw [hshuttles]; exact hs.live d₁ c₁ (other e h₁) ho₁
  · rw [hshuttles] at h₀
    by_cases e : d₁ = d
    · subst e
      obtain ⟨c₀, hd₀, rfl⟩ := hs.mapped h d₁ h₀
      rw [hd] at hd₀; cases hd₀
      exact ⟨t, by simp [hthreads]⟩
    · obtain ⟨t', ht'⟩ := hs.pending h d₁ c₁ h₀ (other e h₁) hc
      have e' : t' ≠ t := by rintro rfl; rw [ht] at ht'; cases ht'
      exact ⟨t', by rw [hthreads, Function.update_noteq e']; exact ht'⟩
  · by_cases e : t' = t
    · subst e; rw [hthreads, Function.update_same]
      exact ⟨hshuttles ▸ hm, { c with closing := true }, by rw [hconns, Function.update_same], rfl⟩
    · rw [hthreads, Function.update_noteq e]
      exact PhaseOk.mono kept (fun _ _ h => hshuttles ▸ h) (hs.phases t')
  · rcases who ht₁ with ⟨e₁, m₁⟩ | ⟨-, n₁, ht₁⟩ <;> rcases who ht₂ with ⟨e₂, m₂⟩ | ⟨-, n₂, ht₂⟩
    · exact e₁.trans e₂.symm
    · exact absurd m₁ n₂
    · exact absurd m₂ n₁
    · exact hs.closed_unique t₁ t₂ h₁ h₂ d₁ ht₁ ht₂
  · by_cases e : d₁ = d
    · subst e; simp only [hconns, Function.update_same, Option.some.injEq] at h₁
      exact h₁ ▸ hs.bounded d₁ c hd
    · exact hs.bounded d₁ c₁ (other e h₁)

/-- The locked part of the closure, run by the goroutine between `close` and the lock,
deletes its own entry and keeps the invariant. -/
theorem Invariant.unregisterLocked {h : String} (hs : s.Invariant) (ht : s.threads t = .closed h d) :
    s.unregisterLocked h d = s.delete h ∧ ((s.delete h).setThread t .idle).Invariant := by
  obtain ⟨hm, c, hd, hcl⟩ : s.PhaseOk (.closed h d) := ht ▸ hs.phases t
  have keep : ∀ {t'}, t' ≠ t → ((s.delete h).setThread t .idle).threads t' = s.threads t' :=
    fun e => Function.update_noteq e _ _
  -- another goroutine between `close` and the lock holds an entry other than `h`
  have other : ∀ {t' h' d'}, s.threads t' = .closed h' d' → t' ≠ t → h' ≠ h := by
    rintro t' h' d' ht' e rfl
    obtain ⟨hm', -⟩ : s.PhaseOk (.closed h' d') := ht' ▸ hs.phases t'
    rw [hm] at hm'; cases hm'
    exact e (hs.closed_unique _ _ _ _ _ ht' ht)
  refine ⟨unregisterLocked_of_mapped hm, hs.fresh, fun h' d' hm' => ?_, fun d' c' hd' ho => ?_,
    fun h' d' c' hm' hd' hcl' => ?_, fun t' => ?_, fun t₁ t₂ h₁ h₂ d' ht₁ ht₂ => ?_, hs.bounded⟩
  · have e : h' ≠ h := by rintro rfl; simp at hm'
    rw [setThread_shuttles, delete_shuttles, Function.update_noteq e] at hm'
    exact hs.mapped h' d' hm'
  · replace hd' : s.conns d' = some c' := hd'
    have hm' := hs.live d' c' hd' ho
    have e : c'.handle ≠ h := by
      intro e; rw [e, hm] at hm'; cases hm'; rw [hd] at hd'; cases hd'; rw [hcl] at ho; cases ho
    rw [setThread_shuttles, delete_shuttles, Function.update_noteq e]; exact hm'
  · have e : h' ≠ h := by rintro rfl; simp at hm'
    rw [setThread_shuttles, delete_shuttles, Function.update_noteq e] at hm'
    obtain ⟨t', ht'⟩ := hs.pending h' d' c' hm' hd' hcl'
    have e' : t' ≠ t := by rintro rfl; rw [ht] at ht'; cases ht'; exact e rfl
    exact ⟨t', (keep e').trans ht'⟩
  · by_cases e : t' = t
    · subst e; simp [PhaseOk]
    · rw [keep e]
      have hq := hs.phases t'
      cases hp : s.threads t' with
      | closed h' d' =>
        rw [hp] at hq
        rw [PhaseOk, setThread_shuttles, delete_shuttles, Function.update_noteq (other hp e)]
        exact hq
      | _ => rw [hp] at hq; exact hq
  · have e₁ : t₁ ≠ t := by rintro rfl; simp at ht₁
    have e₂ : t₂ ≠ t := by rintro rfl; simp at ht₂
    exact hs.closed_unique t₁ t₂ h₁ h₂ d' ((keep e₁).symm.trans ht₁) ((keep e₂).symm.trans ht₂)

theorem Invariant.registerShuttleConnection {a : Action Addr Cmd} (hs : s.Invariant) :
    (s.registerShuttleConnection urlParse handle hello).1.Invariant ∧
      Keeps a s (s.registerShuttleConnection urlParse handle hello).1 := by
  unfold Registry.registerShuttleConnection
  split
  · exact ⟨hs, .of_conns rfl⟩
  · exact ⟨hs.insert ‹_› rfl rfl rfl, hs.keeps_insert⟩

/-- Every step keeps the invariant, and keeps every connection with its handle and its
`closing`, unless the step is a call of its unregister closure. -/
theorem Invariant.step (hs : s.Invariant) {a : Action Addr Cmd} {r : Option (Reply Addr Cmd)}
    (h : s.step urlParse a = some (s', r)) : s'.Invariant ∧ Keeps a s s' := by
  have idle : ∀ {t}, s.threads t = .idle → ∀ h d, s.threads t ≠ .closed h d := by
    intro t ht h d e; rw [ht] at e; cases e
  cases a with
  | register t handle hello =>
    simp only [Registry.step, Option.ite_none_right_eq_some, Phase.isIdle_iff,
      Option.some.injEq] at h
    have e : (s.registerShuttleConnection urlParse handle hello).1 = s' := congrArg Prod.fst h.2
    rw [← e]; exact hs.registerShuttleConnection urlParse
  | unregister t d =>
    simp only [Registry.step, Option.ite_none_right_eq_some, Phase.isIdle_iff,
      Option.map_eq_some', Prod.mk.injEq, unregister_eq_some] at h
    obtain ⟨ht, _, ⟨c, hd, ⟨-, rfl⟩ | ⟨ho, rfl⟩⟩, rfl, -⟩ := h
    · exact ⟨hs.setThread (idle ht) (fun _ _ e => nomatch e) trivial, .of_conns rfl⟩
    · exact ⟨hs.close ht hd ho, Keeps.setConn hd rfl (.inr ⟨rfl, t, rfl⟩)⟩
  | unregisterLocked t =>
    simp only [Registry.step] at h
    split at h
    · next handle d ht =>
      simp only [Option.some.injEq, Prod.mk.injEq] at h
      obtain ⟨hdel, hinv⟩ := hs.unregisterLocked ht
      rw [← h.1, hdel]; exact ⟨hinv, .of_conns rfl⟩
    · cases h
  | sendShuttleCommand t handle _ | shuttleIsOnline t handle =>
    simp only [Registry.step, Option.ite_none_right_eq_some, Phase.isIdle_iff,
      Option.some.injEq] at h
    obtain ⟨ht, h⟩ := h
    simp only [Registry.sendShuttleCommand, Registry.shuttleIsOnline] at h
    split at h
    · next d hm =>
      simp only [Prod.mk.injEq] at h; rw [← h.1]
      exact ⟨hs.setThread (idle ht) (fun _ _ e => nomatch e) (hs.mapped handle d hm), .of_conns rfl⟩
    · simp only [Prod.mk.injEq] at h; rw [← h.1]; exact ⟨hs, .of_conns rfl⟩
  | sendMessage t sel =>
    simp only [Registry.step] at h
    split at h
    · next handle d cmd ht =>
      simp only [Option.bind_eq_some, Option.map_eq_some', Prod.mk.injEq] at h
      obtain ⟨dc, hd, ⟨dc', r'⟩, hm, rfl, -⟩ := h
      obtain ⟨hh, hcl, hcmds⟩ := ShuttleConnection.sendMessage_spec hm
      have hb : dc'.cmds.length ≤ 32 := by
        rcases hcmds with e | ⟨e, hlt⟩ <;> rw [e]
        · exact hs.bounded d dc hd
        · simp; omega
      refine ⟨(hs.setConn hd hh hcl hb).setThread ?_ (fun _ _ e => nomatch e) trivial,
        Keeps.setConn hd hh (.inl hcl)⟩
      intro h d e; rw [setConn_threads, ht] at e; cases e
    · cases h
  | isOnlineSelect t =>
    simp only [Registry.step] at h
    split at h
    · next handle d ht =>
      simp only [Option.map_eq_some', Prod.mk.injEq] at h
      obtain ⟨_, -, rfl, -⟩ := h
      refine ⟨hs.setThread ?_ (fun _ _ e => nomatch e) trivial, .of_conns rfl⟩
      intro h d e; rw [ht] at e; cases e
    · cases h
  | shuttleAddrInfo t handle | shuttleHostName t handle =>
    simp only [Registry.step, Option.ite_none_right_eq_some, Option.some.injEq,
      Prod.mk.injEq] at h
    rw [← h.2.1]; exact ⟨hs, .of_conns rfl⟩
  | receive d =>
    simp only [Registry.step, Option.map_eq_some', Prod.mk.injEq] at h
    obtain ⟨⟨s₁, r₁⟩, hr, rfl, -⟩ := h
    unfold Registry.receive at hr
    split at hr
    · next c hd =>
      split at hr
      · next cmd rest hc =>
        simp only [Option.some.injEq, Prod.mk.injEq] at hr; rw [← hr.1]
        refine ⟨hs.setConn hd rfl rfl ?_, .setConn hd rfl (.inl rfl)⟩
        have := hs.bounded d c hd; rw [hc] at this; simp at this ⊢; omega
      · cases hr
    · cases hr

end Steps

section Runs

variable {urlParse : String → Except String String}

/-- Every reachable state has the invariant. -/
theorem Reachable.invariant (hs : Reachable urlParse s) : s.Invariant := by
  induction hs with
  | refl => exact invariant_init
  | tail _ hn ih => obtain ⟨a, r, h⟩ := hn; exact (ih.step urlParse h).1

/-- Along any run from a reachable state every connection stays, with its handle, and a
closed one stays closed. -/
theorem Reachable.connsKept (hs : Reachable urlParse s)
    (hrun : Relation.ReflTransGen (Next urlParse) s s') : ConnsKept s s' := by
  induction hrun with
  | refl => exact .refl
  | tail hrun' hn ih =>
    obtain ⟨a, r, h⟩ := hn
    have hb : Reachable urlParse _ := Relation.ReflTransGen.trans hs hrun'
    exact ih.trans (hb.invariant.step urlParse h).2.connsKept

end Runs

/-- Every entry of the map is a connection of its handle, open or with its unregister
closure between `close` and the lock. -/
theorem Invariant.entry {h : String} (hs : s.Invariant) (hm : s.shuttles h = some d) :
    ∃ c, s.conns d = some c ∧ c.handle = h ∧
      (c.closing = false ∨ ∃ t, s.threads t = .closed h d) := by
  obtain ⟨c, hd, hh⟩ := hs.mapped h d hm
  refine ⟨c, hd, hh, ?_⟩
  cases hc : c.closing
  · exact .inl rfl
  · exact .inr (hs.pending h d c hm hd hc)

end Invariant

theorem registerShuttleConnection_refused (urlParse : String → Except String String)
    {s : Registry Addr Cmd} {handle : String} {hello : Hello Addr} :
    (s.registerShuttleConnection urlParse handle hello).2 = .error "shuttle already connected" ↔
      s.shuttles handle ≠ none := by
  unfold registerShuttleConnection
  split <;> simp_all

end Registry

/-! ## What every interleaving guarantees -/

section Safety

open Registry

variable {Addr Cmd : Type} {urlParse : String → Except String String} {s s' : Registry Addr Cmd}
  {t d : Nat} {h : String} {c : ShuttleConnection Addr Cmd}

/-- `url.Parse` that takes every host as it is. -/
def rawHost : String → Except String String := .ok

/-- Shuttle `a` connects, and goroutine 0 then calls the closure that unregisters it: it
has closed `d.closing` and waits for the lock. -/
def closingShuttle : Registry Unit Nat :=
  init.exec rawHost [.register 0 "a" ⟨"h", ()⟩, .unregister 0 0]

/-- Shuttle `a` connects, and goroutine 1 sends it command 7: the lookup has found the
connection. -/
def sendingShuttle : Registry Unit Nat :=
  init.exec rawHost [.register 0 "a" ⟨"h", ()⟩, .sendShuttleCommand 1 "a" 7]

/-- Every entry of `cm.shuttles` is a connection of its handle that is open or whose
unregister closure is between `close` and the lock: no entry outlives its unregister. -/
theorem shuttles_entry_open_or_closing (hs : Reachable urlParse s) (hm : s.shuttles h = some d) :
    ∃ c, s.conns d = some c ∧ c.handle = h ∧
      (c.closing = false ∨ ∃ t, s.threads t = .closed h d) :=
  hs.invariant.entry hm

theorem shuttles_entry_open_or_closing_closingShuttle :
    ∃ c, closingShuttle.conns 0 = some c ∧ c.handle = "a" ∧
      (c.closing = false ∨ ∃ t, closingShuttle.threads t = .closed "a" 0) :=
  shuttles_entry_open_or_closing (Reachable.exec rawHost .refl _) rfl

/-- An open connection is the one `cm.shuttles` holds for its handle, so a handle never
has two open connections. -/
theorem open_connection_mapped (hs : Reachable urlParse s) (hd : s.conns d = some c)
    (ho : c.closing = false) :
    s.shuttles c.handle = some d ∧
      ∀ d' c', s.conns d' = some c' → c'.handle = c.handle → c'.closing = false → d' = d := by
  have inv := hs.invariant
  refine ⟨inv.live d c hd ho, fun d' c' hd' hh ho' => ?_⟩
  have hm := inv.live d' c' hd' ho'
  rw [hh, inv.live d c hd ho] at hm
  exact (Option.some.inj hm).symm

theorem open_connection_mapped_sendingShuttle :
    sendingShuttle.shuttles "a" = some 0 ∧
      ∀ d' c', sendingShuttle.conns d' = some c' → c'.handle = "a" → c'.closing = false → d' = 0 :=
  open_connection_mapped (Reachable.exec rawHost .refl _)
    (rfl : sendingShuttle.conns 0 = some ⟨"a", "h", (), [], false⟩) rfl

/-- The locked part of the unregister closure always finds its own connection under its
handle and deletes that entry alone: the checks `ok` and `outd == d` never fail. -/
theorem unregisterLocked_deletes_own (hs : Reachable urlParse s) (ht : s.threads t = .closed h d) :
    s.shuttles h = some d ∧ ∃ s', s.step urlParse (.unregisterLocked t) = some (s', none) ∧
      s'.shuttles = Function.update s.shuttles h none := by
  obtain ⟨hm, -⟩ : s.PhaseOk (.closed h d) := ht ▸ hs.invariant.phases t
  obtain ⟨hdel, -⟩ := hs.invariant.unregisterLocked ht
  exact ⟨hm, (s.delete h).setThread t .idle, by simp [Registry.step, ht, hdel], rfl⟩

theorem unregisterLocked_deletes_own_closingShuttle :
    closingShuttle.shuttles "a" = some 0 ∧
      ∃ s', closingShuttle.step rawHost (.unregisterLocked 0) = some (s', none) ∧
        s'.shuttles = Function.update closingShuttle.shuttles "a" none :=
  unregisterLocked_deletes_own (Reachable.exec rawHost .refl _) rfl

/-- `registerShuttleConnection` refuses a handle exactly while a connection of it is open
or its unregister closure is between `close` and the lock. -/
theorem registerShuttleConnection_refused_iff (hs : Reachable urlParse s) {hello : Hello Addr} :
    (s.registerShuttleConnection urlParse h hello).2 = .error "shuttle already connected" ↔
      ∃ d c, s.conns d = some c ∧ c.handle = h ∧
        (c.closing = false ∨ ∃ t, s.threads t = .closed h d) := by
  have inv := hs.invariant
  rw [registerShuttleConnection_refused]
  constructor
  · intro hne
    obtain ⟨d, hm⟩ := Option.ne_none_iff_exists'.mp hne
    exact ⟨d, inv.entry hm⟩
  · rintro ⟨d, c, hd, rfl, ho | ⟨t, ht⟩⟩
    · simp [inv.live d c hd ho]
    · obtain ⟨hm, -⟩ : s.PhaseOk (.closed c.handle d) := ht ▸ inv.phases t
      simp [hm]

theorem registerShuttleConnection_refused_iff_closingShuttle :
    ((closingShuttle.registerShuttleConnection rawHost "a" ⟨"h", ()⟩).2 =
        .error "shuttle already connected" ↔
      ∃ d c, closingShuttle.conns d = some c ∧ c.handle = "a" ∧
        (c.closing = false ∨ ∃ t, closingShuttle.threads t = .closed "a" d)) :=
  registerShuttleConnection_refused_iff (Reachable.exec rawHost .refl _)

/-- The only steps that answer `shuttleIsOnline`: the lookup, with `false` when the handle
has no entry, and the `select`, with whether the connection found is open. -/
theorem step_online {a : Action Addr Cmd} {b : Bool}
    (h : s.step urlParse a = some (s', some (.online b))) :
    (∃ t handle, a = .shuttleIsOnline t handle ∧ s.shuttles handle = none ∧ b = false) ∨
      ∃ t handle d c, a = .isOnlineSelect t ∧ s.threads t = .checking handle d ∧
        s.conns d = some c ∧ b = !c.closing := by
  cases a with
  | shuttleIsOnline t handle =>
    simp only [Registry.step, Option.ite_none_right_eq_some, Option.some.injEq] at h
    have hr := congrArg (·.2) h.2
    unfold Registry.shuttleIsOnline at hr
    split at hr
    · cases hr
    · next hnone => simp only [Option.some.injEq, Reply.online.injEq] at hr; exact .inl ⟨t, handle, rfl, hnone, hr.symm⟩
  | isOnlineSelect t =>
    simp only [Registry.step] at h
    split at h
    · next handle d ht =>
      simp only [Option.map_eq_some', Prod.mk.injEq, Option.some.injEq, Reply.online.injEq] at h
      obtain ⟨c, hd, -, hb⟩ := h
      exact .inr ⟨t, handle, d, c, rfl, ht, hd, hb.symm⟩
    · cases h
  | register t handle _ | sendShuttleCommand t handle _ =>
    simp only [Registry.step, Option.ite_none_right_eq_some, Option.some.injEq] at h
    have hr := congrArg (·.2) h.2
    simp only [registerShuttleConnection, Registry.sendShuttleCommand] at hr
    split at hr <;> cases hr
  | sendMessage t sel =>
    simp only [Registry.step] at h
    split at h
    · simp only [Option.bind_eq_some, Option.map_eq_some', Prod.mk.injEq] at h
      obtain ⟨dc, -, ⟨dc', r'⟩, hm, -, hr⟩ := h
      rcases ShuttleConnection.sendMessage_reply hm with rfl | ⟨e, rfl⟩ <;> cases hr
    · cases h
  | receive d =>
    simp only [Registry.step, Option.map_eq_some', Prod.mk.injEq] at h
    obtain ⟨⟨s₁, r₁⟩, hr, -, e⟩ := h
    unfold Registry.receive at hr
    repeat' split at hr
    all_goals cases hr <;> cases e
  | unregister t d | unregisterLocked t | shuttleAddrInfo t handle | shuttleHostName t handle =>
    simp only [Registry.step] at h
    repeat' split at h
    all_goals simp at h

/-- Every answer of `shuttleIsOnline` is right at the step that gives it: `false` from the
lookup means that no connection of the handle is open; the `select` answers whether the
connection the lookup found is open, and when it is, the map still holds it. -/
theorem shuttleIsOnline_answer (hs : Reachable urlParse s) {a : Action Addr Cmd} {b : Bool}
    (h : s.step urlParse a = some (s', some (.online b))) :
    (∃ t handle, a = .shuttleIsOnline t handle ∧ b = false ∧
        ∀ d c, s.conns d = some c → c.handle = handle → c.closing = true) ∨
      ∃ t handle d c, a = .isOnlineSelect t ∧ s.threads t = .checking handle d ∧
        s.conns d = some c ∧ c.handle = handle ∧ b = !c.closing ∧
          (b = true → s.shuttles handle = some d) := by
  have inv := hs.invariant
  rcases step_online h with ⟨t, handle, rfl, hnone, rfl⟩ | ⟨t, handle, d, c, rfl, ht, hd, rfl⟩
  · refine .inl ⟨t, handle, rfl, rfl, fun d c hd hh => ?_⟩
    cases ho : c.closing
    · have hm := inv.live d c hd ho; rw [hh, hnone] at hm; cases hm
    · rfl
  · obtain ⟨c', hd', rfl⟩ : s.PhaseOk (.checking handle d) := ht ▸ inv.phases t
    rw [hd] at hd'; cases hd'
    refine .inr ⟨t, c.handle, d, c, rfl, ht, hd, rfl, rfl, fun ho => inv.live d c hd ?_⟩
    simpa using ho

/-- Shuttle `a` connects, and goroutine 1 asks whether it is online: the lookup has found
the connection. -/
def checkingShuttle : Registry Unit Nat :=
  init.exec rawHost [.register 0 "a" ⟨"h", ()⟩, .shuttleIsOnline 1 "a"]

theorem shuttleIsOnline_answer_checkingShuttle :
    (∃ t handle, (.isOnlineSelect 1 : Action Unit Nat) = .shuttleIsOnline t handle ∧ true = false ∧
        ∀ d c, checkingShuttle.conns d = some c → c.handle = handle → c.closing = true) ∨
      ∃ t handle d c, (.isOnlineSelect 1 : Action Unit Nat) = .isOnlineSelect t ∧
        checkingShuttle.threads t = .checking handle d ∧ checkingShuttle.conns d = some c ∧
        c.handle = handle ∧ true = !c.closing ∧ (true = true → checkingShuttle.shuttles handle = some d) :=
  shuttleIsOnline_answer (Reachable.exec rawHost .refl _)
    (rfl : checkingShuttle.step rawHost (.isOnlineSelect 1) =
      some (checkingShuttle.setThread 1 .idle, some (.online true)))

/-- A send past its lookup can still return nil after its connection is unregistered: from
any reachable state where goroutine `t` is in `sendMessage` on an open connection with
room, an idle goroutine can run the whole unregister closure first, and the send then puts
the command in the buffer of a closed connection that the map no longer holds. -/
theorem sendShuttleCommand_ok_after_unregister (hs : Reachable urlParse s) {u : Nat} {cmd : Cmd}
    (ht : s.threads t = .sending h d cmd) (hu : s.threads u = .idle) (hd : s.conns d = some c)
    (ho : c.closing = false) (hroom : c.cmds.length < 32) :
    ∃ s₁ s₂ s₃, s.step urlParse (.unregister u d) = some (s₁, none) ∧
      s₁.step urlParse (.unregisterLocked u) = some (s₂, none) ∧
      s₂.step urlParse (.sendMessage t .cmds) = some (s₃, some .ok) ∧
      s₃.shuttles h = none ∧
      s₃.conns d = some { c with closing := true, cmds := c.cmds ++ [cmd] } := by
  have inv := hs.invariant
  obtain ⟨c', hd', rfl⟩ : s.PhaseOk (.sending h d cmd) := ht ▸ inv.phases t
  rw [hd] at hd'; cases hd'
  have hut : t ≠ u := by rintro rfl; rw [hu] at ht; cases ht
  have hm := inv.live d c hd ho
  generalize hs₁ : (s.setConn d { c with closing := true }).setThread u (.closed c.handle d) = s₁
  generalize hs₂ : (s₁.delete c.handle).setThread u .idle = s₂
  have ht₁ : s₁.threads u = .closed c.handle d := by simp [← hs₁]
  have hm₁ : s₁.shuttles c.handle = some d := by simpa [← hs₁]
  have ht₂ : s₂.threads t = .sending c.handle d cmd := by
    simp [← hs₂, ← hs₁, Function.update_noteq hut, ht]
  have hd₂ : s₂.conns d = some { c with closing := true } := by simp [← hs₂, ← hs₁]
  refine ⟨s₁, s₂, (s₂.setConn d { c with closing := true, cmds := c.cmds ++ [cmd] }).setThread t .idle,
    ?_, ?_, ?_, ?_, by simp⟩
  · simp [Registry.step, hu, Registry.unregister, hd, ho, hs₁]
  · simp [Registry.step, ht₁, unregisterLocked_of_mapped hm₁, hs₂]
  · simp [Registry.step, ht₂, hd₂, ShuttleConnection.sendMessage, hroom]
  · simp [← hs₂]

theorem sendShuttleCommand_ok_after_unregister_sendingShuttle :
    ∃ s₁ s₂ s₃, sendingShuttle.step rawHost (.unregister 2 0) = some (s₁, none) ∧
      s₁.step rawHost (.unregisterLocked 2) = some (s₂, none) ∧
      s₂.step rawHost (.sendMessage 1 .cmds) = some (s₃, some .ok) ∧
      s₃.shuttles "a" = none ∧ s₃.conns 0 = some ⟨"a", "h", (), [7], true⟩ :=
  sendShuttleCommand_ok_after_unregister (Reachable.exec rawHost .refl _)
    (rfl : sendingShuttle.threads 1 = .sending "a" 0 7) (rfl : sendingShuttle.threads 2 = .idle)
    (rfl : sendingShuttle.conns 0 = some ⟨"a", "h", (), [], false⟩) rfl (by decide)

/-- A send that returns nil has put the command in the buffer of a connection of the
handle it was sent to, even when that shuttle has reconnected since the lookup: commands
never cross shuttles, and a buffer never holds more than 32. -/
theorem sendMessage_ok_on_handle (hs : Reachable urlParse s) {cmd : Cmd} {sel : SendCase}
    (ht : s.threads t = .sending h d cmd)
    (hstep : s.step urlParse (.sendMessage t sel) = some (s', some .ok)) :
    ∃ c, s.conns d = some c ∧ c.handle = h ∧ c.cmds.length < 32 ∧
      s'.conns d = some { c with cmds := c.cmds ++ [cmd] } := by
  simp only [Registry.step, ht, Option.bind_eq_some, Option.map_eq_some', Prod.mk.injEq,
    Option.some.injEq] at hstep
  obtain ⟨dc, hd, ⟨dc', r'⟩, hm, rfl, rfl⟩ := hstep
  obtain ⟨c', hd', hh⟩ : s.PhaseOk (.sending h d cmd) := ht ▸ hs.invariant.phases t
  rw [hd] at hd'; cases hd'
  cases sel <;> simp only [ShuttleConnection.sendMessage, Option.ite_none_right_eq_some,
    Option.some.injEq, Prod.mk.injEq, reduceCtorEq, and_false, false_and] at hm
  obtain ⟨hroom, rfl, -⟩ := hm
  exact ⟨dc, hd, hh, hroom, by simp⟩

theorem sendMessage_ok_on_handle_sendingShuttle :
    ∃ c, sendingShuttle.conns 0 = some c ∧ c.handle = "a" ∧ c.cmds.length < 32 ∧
      ((sendingShuttle.setConn 0 ⟨"a", "h", (), [7], false⟩).setThread 1 .idle).conns 0 =
        some { c with cmds := c.cmds ++ [7] } :=
  sendMessage_ok_on_handle (Reachable.exec rawHost .refl _)
    (rfl : sendingShuttle.threads 1 = .sending "a" 0 7)
    (rfl : sendingShuttle.step rawHost (.sendMessage 1 .cmds) =
      some ((sendingShuttle.setConn 0 ⟨"a", "h", (), [7], false⟩).setThread 1 .idle, some .ok))

/-- A connection is closed only by its own unregister closure: along any run in which no
goroutine calls the closure of an open connection `d`, `d` stays open, with its handle,
and stays the entry of that handle in `cm.shuttles`. -/
theorem open_connection_stays {as : List (Action Addr Cmd)} (hs : Reachable urlParse s)
    (hd : s.conns d = some c) (ho : c.closing = false) (hrun : Steps urlParse s as s')
    (hnot : ∀ t, Action.unregister t d ∉ as) :
    ∃ c', s'.conns d = some c' ∧ c'.handle = c.handle ∧ c'.closing = false ∧
      s'.shuttles c.handle = some d := by
  induction hrun generalizing c with
  | nil => exact ⟨c, hd, rfl, ho, hs.invariant.live d c hd ho⟩
  | @cons s s₁ s' a as r hstep _ ih =>
    obtain ⟨c₁, hd₁, hh₁, hcl₁⟩ := (hs.invariant.step urlParse hstep).2 d c hd
    have ho₁ : c₁.closing = false := by
      rcases hcl₁ with hcl | ⟨-, t, rfl⟩
      · exact hcl.trans ho
      · exact absurd (List.mem_cons_self _ _) (hnot t)
    obtain ⟨c', hd', hh', ho', hm'⟩ :=
      ih (hs.tail ⟨a, r, hstep⟩) hd₁ ho₁ fun t ht => hnot t (List.mem_cons_of_mem _ ht)
    exact ⟨c', hd', hh'.trans hh₁, ho', hh₁ ▸ hm'⟩

/-- After `sendingShuttle`: the send goes through, a second hello for `a` is refused, and
the writer takes the command. -/
def sendAndRefuse : List (Action Unit Nat) :=
  [.sendMessage 1 .cmds, .register 2 "a" ⟨"h2", ()⟩, .receive 0]

theorem open_connection_stays_sendingShuttle :
    ∃ c', (sendingShuttle.exec rawHost sendAndRefuse).conns 0 = some c' ∧ c'.handle = "a" ∧
      c'.closing = false ∧ (sendingShuttle.exec rawHost sendAndRefuse).shuttles "a" = some 0 :=
  open_connection_stays (Reachable.exec rawHost .refl _)
    (rfl : sendingShuttle.conns 0 = some ⟨"a", "h", (), [], false⟩) rfl
    (.cons rfl (.cons rfl (.cons rfl (.nil _))) :
      Steps rawHost sendingShuttle sendAndRefuse (sendingShuttle.exec rawHost sendAndRefuse))
    (by simp [sendAndRefuse])

/-- The unregister closure may run once: after a goroutine has called it, any later call,
by any goroutine after any interleaving, panics on `close(d.closing)`. -/
theorem unregister_twice_panics {s₁ s₂ : Registry Addr Cmd} {u : Nat} (hs : Reachable urlParse s)
    (h₁ : s.step urlParse (.unregister t d) = some (s₁, none))
    (hrun : Relation.ReflTransGen (Next urlParse) s₁ s₂) (hu : s₂.threads u = .idle) :
    ∃ s₃, s₂.step urlParse (.unregister u d) = some (s₃, none) ∧ s₃.threads u = .panicked := by
  have hc₁ : ∃ c, s₁.conns d = some c ∧ c.closing = true := by
    simp only [Registry.step, Option.ite_none_right_eq_some, Phase.isIdle_iff,
      Option.map_eq_some', Prod.mk.injEq, unregister_eq_some] at h₁
    obtain ⟨-, _, ⟨c, hd, ⟨hcl, rfl⟩ | ⟨-, rfl⟩⟩, rfl, -⟩ := h₁
    · exact ⟨c, hd, hcl⟩
    · exact ⟨{ c with closing := true }, by simp, rfl⟩
  obtain ⟨c₁, hd₁, hcl₁⟩ := hc₁
  have hs₁ : Reachable urlParse s₁ := hs.tail ⟨_, _, h₁⟩
  obtain ⟨c₂, hd₂, -, hcl₂⟩ := hs₁.connsKept hrun d c₁ hd₁
  exact ⟨s₂.setThread u .panicked, by simp [Registry.step, hu, Registry.unregister, hd₂, hcl₂ hcl₁],
    by simp⟩

theorem unregister_twice_panics_closingShuttle :
    ∃ s₃, closingShuttle.step rawHost (.unregister 1 0) = some (s₃, none) ∧
      s₃.threads 1 = .panicked :=
  unregister_twice_panics (Reachable.exec rawHost .refl [.register 0 "a" ⟨"h", ()⟩])
    (rfl : (init.exec rawHost [.register 0 "a" ⟨"h", ()⟩]).step rawHost (.unregister 0 0) =
      some (closingShuttle, none)) .refl rfl

end Safety

end Estuary
