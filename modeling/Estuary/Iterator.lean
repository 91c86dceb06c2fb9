import Estuary.Basic

/-!
# The multihash iterator

When the indexer pulls an advertisement, the engine asks the registered lister for the
multihashes of its batch. `NewIterator` reads the CIDs of the batch's content IDs from
the catalog with one raw query, keeps the hash of every CID that parses, and hands the
engine an `Iterator` that `Next` walks to `io.EOF`.

The query's `BETWEEN` is inclusive at both ends, and the emptiness check looks at the
rows before any of them is parsed.

## Main definitions

* `Catalog.selectCids` — the raw query of `NewIterator` over the `objects` and
  `obj_refs` tables
* `newIterator`, `Iterator.next` — `NewIterator` and `Iterator.Next`
* `Iterator.drain` — the results of `n` successive calls of `Next`

## Main results

* `newIterator_eq` — `NewIterator` fails exactly on a failed query or on no rows
* `Iterator.drain_of_valid` — from a valid index, `Next` yields the remaining hashes in
  order, each once, then `io.EOF` forever, and never indexes out of range
* `newIterator_drain` — the iterator `NewIterator` returns serves exactly the hashes of
  the rows that parse
-/

namespace Estuary

/-- A row of `objects`, with the columns the query reads. -/
structure Object where
  id : Nat
  cid : Bytes
  deriving DecidableEq, Repr

/-- A row of `obj_refs`: an object referenced by a content. -/
structure ObjRef where
  object : Nat
  content : Nat
  deriving DecidableEq, Repr

/-- The catalog tables `NewIterator` reads. -/
structure Catalog where
  objects : List Object
  objRefs : List ObjRef
  deriving DecidableEq, Repr

/-- `SELECT objects.cid FROM objects LEFT JOIN obj_refs ON objects.id = obj_refs.object
WHERE obj_refs.content BETWEEN lo AND hi`, in nested-loop order. An object with no
reference has a `NULL` content, which fails the `WHERE`. -/
def Catalog.selectCids (cat : Catalog) (lo hi : Nat) : List Bytes :=
  cat.objects.flatMap fun o =>
    (cat.objRefs.filter fun r => r.object = o.id ∧ lo ≤ r.content ∧ r.content ≤ hi).map
      fun _ => o.cid

/-- The database as `NewIterator` sees it: the rows of its raw query for the two
`BETWEEN` bounds, or the driver's error. -/
def RawQuery := Nat → Nat → Except String (List Bytes)

/-- A database that answers the raw query from a catalog. -/
def Catalog.query (cat : Catalog) : RawQuery := fun lo hi => .ok (cat.selectCids lo hi)

/-- `Iterator`. -/
structure Iterator where
  mhs : List Bytes
  index : Nat
  firstContentID : Nat
  count : Nat
  deriving DecidableEq, Repr

/-- `io.EOF`. -/
def Fault.eof : Fault := .error "EOF"

/-! ## `NewIterator`

`cidHash` is go-cid's `cid.CidFromBytes` followed by `Cid.Hash`: the multihash inside a
binary CID, or the parse error. -/

section NewIterator

variable (cidHash : Bytes → Except String Bytes)

/-- The loop of `NewIterator` over the CID strings: the hash of every CID that parses, in
order; a CID that does not parse is logged and skipped. -/
def parseMultihashes (cidStrings : List Bytes) : List Bytes :=
  cidStrings.filterMap fun cidString =>
    match cidHash cidString with
    | .ok mh => some mh
    | .error _ => none

/-- `NewIterator`. -/
def newIterator (db : RawQuery) (firstContentID count : Nat) : Except String Iterator := do
  let cidStrings ← db firstContentID (uintAdd firstContentID count)
  if cidStrings.length = 0 then throw "no multihashes for this content"
  pure ⟨parseMultihashes cidHash cidStrings, 0, firstContentID, count⟩

theorem newIterator_eq (db : RawQuery) (firstContentID count : Nat) :
    newIterator cidHash db firstContentID count =
      match db firstContentID (uintAdd firstContentID count) with
      | .error err => .error err
      | .ok [] => .error "no multihashes for this content"
      | .ok cidStrings => .ok ⟨parseMultihashes cidHash cidStrings, 0, firstContentID, count⟩ := by
  unfold newIterator
  rcases db firstContentID (uintAdd firstContentID count) with err | _ | ⟨_, _⟩ <;> rfl

end NewIterator

/-! ## `Next` -/

namespace Iterator

/-- `Iterator.Next`: `io.EOF` once the index reaches the end, else the hash at the index. -/
def next (iter : Iterator) : Except Fault Bytes × Iterator :=
  if iter.index = iter.mhs.length then (.error Fault.eof, iter)
  else
    match iter.mhs[iter.index]? with
    | some mh => (.ok mh, { iter with index := iter.index + 1 })
    | none => (.error (.panic "index out of range"), iter)

/-- The results of `n` successive calls of `Next`. -/
def drain : Nat → Iterator → List (Except Fault Bytes)
  | 0, _ => []
  | n + 1, iter => iter.next.1 :: drain n iter.next.2

/-- The index has not passed the end of the hashes. -/
def Valid (iter : Iterator) : Prop := iter.index ≤ iter.mhs.length

theorem next_of_eq {iter : Iterator} (h : iter.index = iter.mhs.length) :
    iter.next = (.error Fault.eof, iter) := if_pos h

theorem next_of_lt {iter : Iterator} (h : iter.index < iter.mhs.length) :
    iter.next = (.ok iter.mhs[iter.index], { iter with index := iter.index + 1 }) := by
  simp [next, Nat.ne_of_lt h, List.getElem?_eq_getElem h]

theorem Valid.next {iter : Iterator} (h : iter.Valid) : iter.next.2.Valid := by
  rcases Nat.lt_or_eq_of_le h with hlt | heq
  · rw [next_of_lt hlt]; exact hlt
  · rw [next_of_eq heq]; exact h

/-- From a valid index, `Next` yields the hashes left, in order and each once, then
`io.EOF` on every further call; it never indexes out of range. -/
theorem drain_of_valid (n : Nat) {iter : Iterator} (h : iter.Valid) :
    drain n iter = ((iter.mhs.drop iter.index).take n).map .ok ++
      List.replicate (n - (iter.mhs.length - iter.index)) (.error Fault.eof) := by
  induction n generalizing iter with
  | zero => simp [drain]
  | succ n ih =>
    rcases Nat.lt_or_eq_of_le h with hlt | heq
    · rw [drain, next_of_lt hlt, @ih { iter with index := iter.index + 1 } hlt,
        List.drop_eq_getElem_cons hlt]
      simp only [List.take_succ_cons, List.map_cons, List.cons_append]
      congr 3
      omega
    · rw [drain, next_of_eq heq, ih h, heq]
      simp [List.replicate_succ]

end Iterator

/-- The iterator `NewIterator` returns serves exactly the hashes of the query rows that
parse, in query order, each once, then `io.EOF` forever; it fails exactly when the query
fails or returns no rows. -/
theorem newIterator_drain (cidHash : Bytes → Except String Bytes) (db : RawQuery)
    {firstContentID count : Nat} {iter : Iterator}
    (h : newIterator cidHash db firstContentID count = .ok iter) :
    ∃ cidStrings, db firstContentID (uintAdd firstContentID count) = .ok cidStrings ∧
      cidStrings ≠ [] ∧ iter.mhs = parseMultihashes cidHash cidStrings ∧
      ∀ n, iter.drain n = (iter.mhs.take n).map .ok ++
        List.replicate (n - iter.mhs.length) (.error Fault.eof) := by
  rw [newIterator_eq] at h
  rcases hq : db firstContentID (uintAdd firstContentID count) with err | _ | ⟨row, rows⟩ <;>
    simp only [hq] at h <;> cases h
  refine ⟨_, rfl, List.cons_ne_nil _ _, rfl, fun n => ?_⟩
  simpa only [List.drop_zero, Nat.sub_zero] using
    @Iterator.drain_of_valid n ⟨_, 0, _, _⟩ (Nat.zero_le _)

theorem newIterator_drain_oneRow :
    newIterator .ok (fun _ _ => .ok [[5]]) 0 25000 = .ok ⟨[[5]], 0, 0, 25000⟩ ∧
      ∃ cidStrings, (fun _ _ => .ok [[5]] : RawQuery) 0 (uintAdd 0 25000) = .ok cidStrings ∧
        cidStrings ≠ [] ∧ [[5]] = parseMultihashes .ok cidStrings ∧
        ∀ n, Iterator.drain n ⟨[[5]], 0, 0, 25000⟩ =
          ([[5]].take n).map .ok ++ List.replicate (n - 1) (.error Fault.eof) :=
  ⟨rfl, newIterator_drain .ok (fun _ _ => .ok [[5]])
    (rfl : newIterator .ok (fun _ _ => .ok [[5]]) 0 25000 = .ok ⟨[[5]], 0, 0, 25000⟩)⟩

/-- The emptiness check of `NewIterator` looks at the rows, not at the hashes: when the
query returns rows and none of them parses, it succeeds with an iterator whose first
`Next` is already `io.EOF`. -/
theorem newIterator_eof_of_unparseable (cidHash : Bytes → Except String Bytes)
    (db : RawQuery) {firstContentID count : Nat} {cidStrings : List Bytes}
    (hq : db firstContentID (uintAdd firstContentID count) = .ok cidStrings)
    (hne : cidStrings ≠ []) (hbad : ∀ s ∈ cidStrings, ∃ err, cidHash s = .error err) :
    ∃ iter, newIterator cidHash db firstContentID count = .ok iter ∧
      iter.next.1 = .error Fault.eof := by
  have hnone : parseMultihashes cidHash cidStrings = [] := by
    refine List.filterMap_eq_nil_iff.mpr fun s hs => ?_
    obtain ⟨err, herr⟩ := hbad s hs
    simp only [herr]
  obtain ⟨row, rows, rfl⟩ := List.exists_cons_of_ne_nil hne
  rw [newIterator_eq, hq]
  refine ⟨_, rfl, ?_⟩
  rw [Iterator.next_of_eq (by simp [hnone])]

/-- One object, referenced by content 1, whose stored CID bytes do not parse. -/
def unparseableCatalog : Catalog := ⟨[⟨1, []⟩], [⟨1, 1⟩]⟩

theorem newIterator_eof_unparseableCatalog :
    ∃ iter, newIterator (fun _ => .error "invalid cid") unparseableCatalog.query 0 25000 =
      .ok iter ∧ iter.next.1 = .error Fault.eof :=
  @newIterator_eof_of_unparseable _ _ 0 25000 [[]] rfl (List.cons_ne_nil _ _)
    fun _ _ => ⟨_, rfl⟩

end Estuary
