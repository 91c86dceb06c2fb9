import Estuary.Basic

/-!
# Context IDs

A context ID links an advertisement on the indexer network back to the batch it
announces: four big-endian bytes of the first content ID, four of the batch size, then
the announcing peer's ID with no length prefix (`makeContextID`). The multihash lister
reads them back with `readContextID`.

The peer-ID encoding belongs to go-libp2p, which is not part of the repository, so
`PeerLib` takes the library functions the package calls as parameters.

## Main definitions

* `PeerLib` — `peer.ID.MarshalBinary`, `peer.IDFromBytes`, `peer.AddrInfoFromString`
* `makeContextID`, `readContextID` — the codec of `autoretrieve.go`

## Main results

* `readContextID_cons` — on eight bytes or more, `readContextID` returns the two
  big-endian fields exactly when the tail parses as a peer ID, and an error otherwise
* `readContextID_makeContextID`, `makeContextID_readContextID` — the two round trips
-/

namespace Estuary

/-- go-libp2p's `peer.AddrInfo`: a peer ID and the multiaddresses it listens on. -/
structure AddrInfo (PeerID : Type) where
  id : PeerID
  addrs : List String
  deriving DecidableEq, Repr

/-- The functions of go-libp2p's `peer` package that the autoretrieve package calls. -/
structure PeerLib (PeerID : Type) where
  /-- `peer.ID.MarshalBinary`. -/
  marshalBinary : PeerID → Except String Bytes
  /-- `peer.IDFromBytes`. -/
  idFromBytes : Bytes → Except String PeerID
  /-- `peer.AddrInfoFromString`. -/
  addrInfoFromString : String → Except String (AddrInfo PeerID)

/-- `contextParams`: what a context ID carries. -/
structure ContextParams (PeerID : Type) where
  provider : PeerID
  firstContentID : Nat
  count : Nat
  deriving DecidableEq, Repr

variable {PeerID : Type} (lib : PeerLib PeerID)

/-- `makeContextID`: both numbers truncated to `uint32`, big-endian, then the peer ID. -/
def makeContextID (params : ContextParams PeerID) : Except String Bytes :=
  match lib.marshalBinary params.provider with
  | .error err => .error ("failed to write context peer ID: " ++ err)
  | .ok peerIDBytes =>
    .ok (putUint32 (toUint32 params.firstContentID) ++ putUint32 (toUint32 params.count) ++
      peerIDBytes)

/-- `readContextID`. It slices `contextID[8:]` before anything checks the length. -/
def readContextID (contextID : Bytes) : Except Fault (ContextParams PeerID) := do
  let peerID ← match lib.idFromBytes (← sliceFrom contextID 8) with
    | .error err => throw (.error ("failed to read context peer ID: " ++ err))
    | .ok peerID => pure peerID
  let firstContentID ← uint32BE (← slice contextID 0 4)
  let count ← uint32BE (← slice contextID 4 8)
  pure ⟨peerID, firstContentID, count⟩

theorem makeContextID_of_marshal {params : ContextParams PeerID} {peerIDBytes : Bytes}
    (h : lib.marshalBinary params.provider = .ok peerIDBytes) :
    makeContextID lib params = .ok (putUint32 (toUint32 params.firstContentID) ++
      putUint32 (toUint32 params.count) ++ peerIDBytes) := by
  simp only [makeContextID, h]

/-- On eight bytes or more the tail is parsed as a peer ID and the header as two
big-endian numbers; only the tail can make it fail. -/
theorem readContextID_cons (b0 b1 b2 b3 b4 b5 b6 b7 : Byte) (tail : Bytes) :
    readContextID lib (b0 :: b1 :: b2 :: b3 :: b4 :: b5 :: b6 :: b7 :: tail) =
      match lib.idFromBytes tail with
      | .error err => .error (.error ("failed to read context peer ID: " ++ err))
      | .ok peerID => .ok ⟨peerID, bigEndian b0 b1 b2 b3, bigEndian b4 b5 b6 b7⟩ := by
  cases h : lib.idFromBytes tail <;>
    simp [readContextID, sliceFrom, slice, h, uint32BE, bind, Except.bind, pure, Except.pure]

/-- Fewer than eight bytes make `contextID[8:]` panic. -/
theorem readContextID_of_length_lt {contextID : Bytes} (h : contextID.length < 8) :
    readContextID lib contextID = .error (.panic "slice bounds out of range") := by
  simp [readContextID, sliceFrom_of_lt h, bind, Except.bind]

/-- A context ID made for a peer ID that parses back is read back, with both numbers
truncated to `uint32`. -/
theorem readContextID_makeContextID {p : PeerID} {first count : Nat} {peerIDBytes : Bytes}
    (hp : lib.idFromBytes peerIDBytes = .ok p) :
    readContextID lib (putUint32 (toUint32 first) ++ putUint32 (toUint32 count) ++ peerIDBytes) =
      .ok ⟨p, toUint32 first, toUint32 count⟩ := by
  simp only [putUint32, List.cons_append, List.nil_append, readContextID_cons, hp,
    bigEndian_putUint32 (toUint32_lt first), bigEndian_putUint32 (toUint32_lt count)]

/-- Writing back what `readContextID` accepted gives the same bytes, when the peer ID
marshals to the tail it was parsed from. -/
theorem makeContextID_readContextID {contextID : Bytes} {params : ContextParams PeerID}
    (h : readContextID lib contextID = .ok params)
    (hm : lib.marshalBinary params.provider = .ok (contextID.drop 8)) :
    makeContextID lib params = .ok contextID := by
  match contextID, h with
  | b0 :: b1 :: b2 :: b3 :: b4 :: b5 :: b6 :: b7 :: tail, h =>
    rw [readContextID_cons] at h
    cases hp : lib.idFromBytes tail with
    | error err => simp [hp] at h
    | ok p =>
      simp only [hp, Except.ok.injEq] at h
      subst h
      simp only [makeContextID_of_marshal lib hm, List.drop, toUint32_of_lt (bigEndian_lt ..),
        putUint32_bigEndian, List.cons_append, List.nil_append]
  | [], h | [_], h | [_, _], h | [_, _, _], h | [_, _, _, _], h | [_, _, _, _, _], h
  | [_, _, _, _, _, _], h | [_, _, _, _, _, _, _], h =>
    simp [readContextID, sliceFrom, bind, Except.bind] at h

/-- The context-ID codec is a bijection on its format: every peer ID that survives its own
binary round trip, with both numbers below `2 ^ 32`, is read back from the context ID made
for it, and every accepted context ID is made again byte for byte. -/
theorem contextID_roundTrip :
    (∀ (p : PeerID) (first count : Nat), (lib.marshalBinary p >>= lib.idFromBytes) = .ok p →
        first < 2 ^ 32 → count < 2 ^ 32 →
        ∃ contextID, makeContextID lib ⟨p, first, count⟩ = .ok contextID ∧
          readContextID lib contextID = .ok ⟨p, first, count⟩) ∧
    (∀ (contextID : Bytes) (params : ContextParams PeerID),
        readContextID lib contextID = .ok params →
        lib.marshalBinary params.provider = .ok (contextID.drop 8) →
        makeContextID lib params = .ok contextID) := by
  refine ⟨fun p first count hp hfirst hcount => ?_, fun _ _ => makeContextID_readContextID lib⟩
  cases hm : lib.marshalBinary p with
  | error err => simp [hm, bind, Except.bind] at hp
  | ok peerIDBytes =>
    simp only [hm, bind, Except.bind] at hp
    refine ⟨_, makeContextID_of_marshal lib hm, ?_⟩
    rw [readContextID_makeContextID lib hp, toUint32_of_lt hfirst, toUint32_of_lt hcount]

/-- Peer IDs as their own bytes: go-libp2p's `peer.ID` is a string, `MarshalBinary`
returns its bytes, and here `IDFromBytes` accepts every byte string. An address parses to
the peer whose one byte is the address's length. -/
def rawPeerLib : PeerLib Bytes where
  marshalBinary id := .ok id
  idFromBytes b := .ok b
  addrInfoFromString s := .ok ⟨[toByte s.length], [s]⟩

theorem contextID_roundTrip_raw :
    (∃ contextID, makeContextID rawPeerLib ⟨[7], 1, 2⟩ = .ok contextID ∧
      readContextID rawPeerLib contextID = .ok ⟨[7], 1, 2⟩) ∧
    makeContextID rawPeerLib ⟨[7], 1, 2⟩ = .ok [0, 0, 0, 1, 0, 0, 0, 2, 7] :=
  ⟨(contextID_roundTrip rawPeerLib).1 [7] 1 2 rfl (by decide) (by decide),
    (contextID_roundTrip rawPeerLib).2 [0, 0, 0, 1, 0, 0, 0, 2, 7] ⟨[7], 1, 2⟩ rfl rfl⟩

theorem readContextID_empty_panics :
    ([] : Bytes).length < 8 ∧
      readContextID rawPeerLib [] = .error (.panic "slice bounds out of range") :=
  ⟨by decide, readContextID_of_length_lt rawPeerLib (by decide)⟩

end Estuary
