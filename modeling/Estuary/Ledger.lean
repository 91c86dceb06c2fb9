import Estuary.Basic
import Mathlib.Data.List.Nodup

/-!
# The ledger of published batches

`PublishedBatch` rows record, per autoretrieve and batch, the count last advertised. The
advertisement loop reads them with one query per batch, inserts a row after a first
publication and saves a row after a republication.

The table is declared with `gorm:"unique"` on `FirstContentID` alone, so the database
rejects a second row for the same first content ID even when it belongs to another
autoretrieve. `Ledger.create` models that rejection.

## Main definitions

* `PublishedBatch`, `Ledger` — the rows and the table with its auto-increment counter
* `Ledger.find`, `Ledger.create`, `Ledger.save` — the three statements the loop issues
* `Ledger.Holds` — the table holds a row for a handle, a first content ID and a count
* `Ledger.WellFormed` — the unique index and the primary key hold

## Main results

* `Ledger.WellFormed.create`, `Ledger.WellFormed.save` — both writes keep the table
  well formed
* `Ledger.find_eq_singleton`, `Ledger.find_eq_nil_iff` — a lookup returns the one
  matching row, or none
* `Ledger.WellFormed.holds_unique` — one row per first content ID
-/

namespace Estuary

/-- A row of `published_batches`: a batch that has been published for a specific
autoretrieve. `id` is the primary key `gorm.Model` adds. -/
structure PublishedBatch where
  id : Nat
  firstContentID : Nat
  count : Nat
  autoretrieveHandle : String
  deriving DecidableEq, Repr

/-- The `published_batches` table and the next value of its primary-key sequence. -/
structure Ledger where
  rows : List PublishedBatch
  nextID : Nat
  deriving DecidableEq, Repr

namespace Ledger

/-- The table before any batch was published. -/
def empty : Ledger := ⟨[], 1⟩

/-- `db.Where("autoretrieve_handle = ? AND first_content_id = ?", handle, firstContentID)
.Find(&publishedBatches)`. -/
def find (l : Ledger) (handle : String) (firstContentID : Nat) : List PublishedBatch :=
  l.rows.filter fun b => b.autoretrieveHandle = handle ∧ b.firstContentID = firstContentID

@[simp] theorem mem_find {l : Ledger} {handle : String} {firstContentID : Nat}
    {r : PublishedBatch} :
    r ∈ l.find handle firstContentID ↔
      r ∈ l.rows ∧ r.autoretrieveHandle = handle ∧ r.firstContentID = firstContentID := by
  simp [find]

/-- `db.Create(&PublishedBatch{...})`: the unique index on `FirstContentID` rejects the row
when any row already has its first content ID; otherwise it is inserted under the next ID. -/
def create (l : Ledger) (firstContentID count : Nat) (handle : String) : Option Ledger :=
  if l.rows.any (·.firstContentID = firstContentID) then none
  else some ⟨l.rows ++ [⟨l.nextID, firstContentID, count, handle⟩], l.nextID + 1⟩

/-- `db.Save(&publishedBatch)`: writes every column of the row with the batch's ID. -/
def save (l : Ledger) (b : PublishedBatch) : Ledger :=
  { l with rows := l.rows.map fun r => if r.id = b.id then b else r }

/-- The table holds a row for `handle` at `firstContentID` with `count`. -/
def Holds (l : Ledger) (handle : String) (firstContentID count : Nat) : Prop :=
  ∃ r ∈ l.rows, r.autoretrieveHandle = handle ∧ r.firstContentID = firstContentID ∧
    r.count = count

instance (l : Ledger) (handle : String) (firstContentID count : Nat) :
    Decidable (l.Holds handle firstContentID count) :=
  inferInstanceAs (Decidable (∃ r ∈ l.rows, _))

/-- The unique index on `FirstContentID` and the primary key hold, and the sequence is
ahead of every ID. -/
structure WellFormed (l : Ledger) : Prop where
  firsts_nodup : (l.rows.map (·.firstContentID)).Nodup
  ids_nodup : (l.rows.map (·.id)).Nodup
  id_lt : ∀ r ∈ l.rows, r.id < l.nextID

theorem wellFormed_empty : empty.WellFormed :=
  ⟨List.nodup_nil, List.nodup_nil, fun _ h => absurd h (List.not_mem_nil _)⟩

theorem create_of_free {l : Ledger} {f : Nat} (hfree : ∀ r ∈ l.rows, r.firstContentID ≠ f)
    (count : Nat) (handle : String) :
    l.create f count handle = some ⟨l.rows ++ [⟨l.nextID, f, count, handle⟩], l.nextID + 1⟩ :=
  if_neg (by simpa using hfree)

theorem create_of_taken {l : Ledger} {r : PublishedBatch} (hr : r ∈ l.rows) (count : Nat)
    (handle : String) : l.create r.firstContentID count handle = none :=
  if_pos (List.any_eq_true.mpr ⟨r, hr, by simp⟩)

theorem create_eq_some {l l' : Ledger} {f count : Nat} {handle : String}
    (h : l.create f count handle = some l') :
    (∀ r ∈ l.rows, r.firstContentID ≠ f) ∧
      l' = ⟨l.rows ++ [⟨l.nextID, f, count, handle⟩], l.nextID + 1⟩ := by
  unfold create at h
  split at h
  · cases h
  · next hfree => exact ⟨by simpa using hfree, (Option.some.inj h).symm⟩

theorem WellFormed.create {l l' : Ledger} {f count : Nat} {handle : String}
    (hwf : l.WellFormed) (h : l.create f count handle = some l') : l'.WellFormed := by
  obtain ⟨hfree, rfl⟩ := create_eq_some h
  refine ⟨?_, ?_, ?_⟩
  · simpa [List.nodup_append, hwf.firsts_nodup] using hfree
  · simpa [List.nodup_append, hwf.ids_nodup] using fun r hr h => (hwf.id_lt r hr).ne h
  · intro r hr
    rcases List.mem_append.mp hr with hr | hr
    · exact Nat.lt_succ_of_lt (hwf.id_lt r hr)
    · simp only [List.mem_singleton] at hr
      simp [hr]

/-- A row keeps its columns through a save of another ID. -/
theorem mem_save {l : Ledger} {b x : PublishedBatch} (hb : ∃ r ∈ l.rows, r.id = b.id) :
    x ∈ (l.save b).rows ↔ x = b ∨ x ∈ l.rows ∧ x.id ≠ b.id := by
  simp only [save, List.mem_map]
  constructor
  · rintro ⟨r, hr, rfl⟩
    by_cases h : r.id = b.id <;> simp [h, hr]
  · rintro (rfl | ⟨hx, hne⟩)
    · obtain ⟨r, hr, hid⟩ := hb
      exact ⟨r, hr, if_pos hid⟩
    · exact ⟨x, hx, if_neg hne⟩

theorem WellFormed.save {l : Ledger} {r : PublishedBatch} (hwf : l.WellFormed)
    (hr : r ∈ l.rows) (count : Nat) : (l.save { r with count := count }).WellFormed := by
  have hsame : ∀ x ∈ l.rows, x.id = r.id → x = r := fun x hx h =>
    List.inj_on_of_nodup_map hwf.ids_nodup hx hr h
  have hmap : ∀ {β : Type} (g : PublishedBatch → β), (g { r with count := count } = g r) →
      (l.save { r with count := count }).rows.map g = l.rows.map g := by
    intro β g hg
    show (l.rows.map _).map g = _
    rw [List.map_map]
    refine List.map_congr_left fun x hx => ?_
    show g (if x.id = r.id then _ else x) = g x
    by_cases h : x.id = r.id
    · rw [if_pos h, hsame x hx h, hg]
    · rw [if_neg h]
  refine ⟨?_, ?_, fun x hx => ?_⟩
  · rw [hmap (·.firstContentID) rfl]; exact hwf.firsts_nodup
  · rw [hmap (·.id) rfl]; exact hwf.ids_nodup
  · rcases (@mem_save _ { r with count := count } _ ⟨r, hr, rfl⟩).mp hx with rfl | ⟨hx, -⟩
    · exact hwf.id_lt r hr
    · exact hwf.id_lt x hx

/-- In a list whose keys are distinct, the only element that passes a test and shares
the key of every element that passes it is all the filter keeps. -/
private theorem filter_eq_singleton {α β : Type} {g : α → β} {p : α → Bool} {r : α} :
    ∀ {xs : List α}, (xs.map g).Nodup → r ∈ xs → p r → (∀ x ∈ xs, p x → g x = g r) →
      xs.filter p = [r]
  | [], _, hr, _, _ => absurd hr (List.not_mem_nil _)
  | y :: ys, hnd, hr, hp, huniq => by
    rw [List.map_cons, List.nodup_cons, List.mem_map] at hnd
    have hys : ∀ x ∈ ys, p x → g x ≠ g y := fun x hx hpx h => hnd.1 ⟨x, hx, h⟩
    rcases List.mem_cons.mp hr with rfl | hr
    · rw [List.filter_cons_of_pos hp, List.filter_eq_nil_iff.mpr fun x hx hpx =>
        hys x hx hpx (huniq x (List.mem_cons_of_mem _ hx) hpx)]
    · have hpy : ¬ p y := fun hpy =>
        hys r hr hp (huniq y (List.mem_cons_self _ _) hpy).symm
      rw [List.filter_cons_of_neg hpy]
      exact filter_eq_singleton hnd.2 hr hp fun x hx => huniq x (List.mem_cons_of_mem _ hx)

/-- A lookup at a row's own handle and first content ID returns that row alone. -/
theorem find_eq_singleton {l : Ledger} {r : PublishedBatch} (hwf : l.WellFormed)
    (hr : r ∈ l.rows) : l.find r.autoretrieveHandle r.firstContentID = [r] :=
  filter_eq_singleton hwf.firsts_nodup hr (by simp) fun _ _ h => by simp_all

theorem find_eq_nil {l : Ledger} {handle : String} {f : Nat}
    (h : ∀ r ∈ l.rows, r.autoretrieveHandle = handle → r.firstContentID ≠ f) :
    l.find handle f = [] :=
  List.filter_eq_nil_iff.mpr fun r hr => by simpa using h r hr

/-- A lookup returns no row exactly when the table holds none for the handle there. -/
theorem find_eq_nil_iff {l : Ledger} {handle : String} {f : Nat} :
    l.find handle f = [] ↔ ∀ c, ¬ l.Holds handle f c := by
  simp only [find, Holds, List.filter_eq_nil_iff, decide_eq_true_eq, not_and, not_exists]
  exact ⟨fun H c x hx hh hf _ => H x hx hh hf, fun H x hx hh hf => H x.count x hx hh hf rfl⟩

/-- Two tables with the same rows at a first content ID hold the same there. -/
theorem holds_congr {l l' : Ledger} {f : Nat}
    (h : ∀ x : PublishedBatch, x.firstContentID = f → (x ∈ l.rows ↔ x ∈ l'.rows))
    {handle : String} {c : Nat} : l.Holds handle f c ↔ l'.Holds handle f c :=
  ⟨fun ⟨x, hx, hh, hf, hc⟩ => ⟨x, (h x hf).mp hx, hh, hf, hc⟩,
    fun ⟨x, hx, hh, hf, hc⟩ => ⟨x, (h x hf).mpr hx, hh, hf, hc⟩⟩

theorem find_eq_nil_congr {l l' : Ledger} {f : Nat}
    (h : ∀ x : PublishedBatch, x.firstContentID = f → (x ∈ l.rows ↔ x ∈ l'.rows))
    {handle : String} : l.find handle f = [] ↔ l'.find handle f = [] := by
  simp only [find_eq_nil_iff, holds_congr h]

/-- The unique index: a well-formed table holds one count at a first content ID. -/
theorem WellFormed.holds_unique {l : Ledger} (hwf : l.WellFormed) {handle handle' : String}
    {f c c' : Nat} (h : l.Holds handle f c) (h' : l.Holds handle' f c') :
    handle = handle' ∧ c = c' := by
  obtain ⟨x, hx, rfl, hxf, rfl⟩ := h
  obtain ⟨y, hy, rfl, hyf, rfl⟩ := h'
  obtain rfl := List.inj_on_of_nodup_map hwf.firsts_nodup hx hy (hxf.trans hyf.symm)
  exact ⟨rfl, rfl⟩

end Ledger

end Estuary
