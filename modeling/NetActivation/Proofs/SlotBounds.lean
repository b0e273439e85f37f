import NetActivation.Editor.Guarded
import NetActivation.Proofs.EditorRefinement

set_option autoImplicit false

/-! # The bounds of a row pool

A pool whose slots are partitioned has as many slots as there are handles in its three hands. So it
makes a new slot only if all are in use, and the number of slots is the largest number of rows ever
in use at once. A handle in any hand is the number of a slot, so no write misses its slot: the
guarded operations succeed, with the results of the plain ones. -/

namespace NetActivation

namespace RowPool

/-! ## The number of slots -/

/-- The three hands together hold one handle for each slot. -/
theorem Partition.slots_length {p : RowPool} {rows : List RowId} (h : Partition p rows) :
    p.slots.length = rows.length + (p.cache.length + p.vacant.length) := by
  have hinj : Function.Injective RowId.index := fun id k hk => by
    cases id
    cases k
    exact congrArg RowId.mk hk
  have hperm : ((rows ++ (p.cache ++ p.vacant)).map RowId.index).Perm
      (List.range p.slots.length) := by
    rw [List.perm_ext_iff_of_nodup (h.nodup.map hinj) List.nodup_range]
    intro i
    rw [List.mem_range, ← h.mem_iff ⟨i⟩, List.mem_map]
    constructor
    · rintro ⟨id, hid, rfl⟩
      exact hid
    · intro hi
      exact ⟨⟨i⟩, hi, rfl⟩
  have hlength := hperm.length_eq
  simp only [List.length_map, List.length_append, List.length_range] at hlength
  exact hlength.symm

theorem Partition.rows_length_le {p : RowPool} {rows : List RowId} (h : Partition p rows) :
    rows.length ≤ p.slots.length := by
  rw [h.slots_length]
  exact Nat.le_add_right _ _

@[simp] theorem modify_slots_length (p : RowPool) (id : RowId) (f : Row → Row) :
    (p.modify id f).slots.length = p.slots.length := by
  simp [modify]

@[simp] theorem modifyAll_slots_length (p : RowPool) (ids : List RowId) (f : Row → Row) :
    (p.modifyAll ids f).slots.length = p.slots.length := by
  simp [modifyAll]

@[simp] theorem put_slots_length (p : RowPool) (id : RowId) (r : Row) :
    (p.put id r).slots.length = p.slots.length := by
  simp [put]

/-- A slot is made only if those that are there are all in use. -/
theorem alloc_slots_length {p : RowPool} {rows : List RowId} (h : Partition p rows) :
    p.alloc.2.slots.length = max p.slots.length (rows.length + 1) := by
  have hbefore := h.slots_length
  have hafter := (alloc_spec h).1.rows_length_le
  rw [List.length_cons] at hafter
  rcases alloc_cases h with ⟨id, cache, -, halloc⟩ | ⟨id, vacant, -, -, halloc⟩ |
    ⟨hcache, hvacant, halloc⟩
  · rw [halloc] at hafter ⊢
    simp only [put_slots_length] at hafter ⊢
    omega
  · rw [halloc] at hafter ⊢
    simp only [put_slots_length] at hafter ⊢
    omega
  · rw [hcache, hvacant, List.length_nil] at hbefore
    rw [halloc]
    simp only [List.length_append, List.length_singleton]
    omega

@[simp] theorem release_slots_length (limit : Nat) (p : RowPool) (id : RowId) :
    (p.release limit id).slots.length = p.slots.length := by
  rw [release]
  split
  · rfl
  · exact List.length_set

@[simp] theorem foldl_release_slots_length (limit : Nat) (rows : List RowId) (p : RowPool) :
    (rows.foldl (release limit) p).slots.length = p.slots.length := by
  induction rows generalizing p with
  | nil => rfl
  | cons id rows ih => rw [List.foldl_cons, ih, release_slots_length]

theorem bindAll_slots_length (catalog : Catalog) (policy : BssidPolicy) (cs : List Condition)
    {p : RowPool} {rows : List RowId} (h : Partition p rows) :
    (p.bindAll catalog policy cs).2.slots.length =
      max p.slots.length (rows.length + (p.bindAll catalog policy cs).1.length) := by
  induction cs generalizing p rows with
  | nil =>
      have hrows := h.rows_length_le
      simp only [bindAll, List.length_nil, Nat.add_zero]
      omega
  | cons c cs ih =>
      have hnext := ih ((alloc_spec h).1.modify p.alloc.1 (Row.bind catalog policy c))
      rw [modify_slots_length, alloc_slots_length h, List.length_cons] at hnext
      simp only [bindAll, List.length_cons]
      omega

theorem rowsFor_slots_length (catalog : Catalog) (policy : BssidPolicy) (cs : List Condition)
    {p : RowPool} (h : Partition p []) :
    (Editor.rowsFor catalog policy p cs).2.slots.length =
      max p.slots.length (Editor.rowsFor catalog policy p cs).1.length := by
  have hbind := bindAll_slots_length catalog policy cs h
  obtain ⟨hpart, -, -⟩ := bindAll_spec catalog policy cs h
  rw [List.append_nil] at hpart
  simp only [Editor.rowsFor]
  split
  · next hempty =>
      rw [List.isEmpty_iff] at hempty
      rw [hempty] at hpart hbind
      have halloc := alloc_slots_length hpart
      simp only [List.length_nil, List.length_singleton] at hbind halloc ⊢
      omega
  · rw [hbind, List.length_nil, Nat.zero_add]

/-! ## The number of kept records -/

theorem alloc_cache_length_le {p : RowPool} {rows : List RowId} (h : Partition p rows) :
    p.alloc.2.cache.length ≤ p.cache.length := by
  rcases alloc_cases h with ⟨id, cache, hcache, halloc⟩ | ⟨id, vacant, -, -, halloc⟩ |
    ⟨-, -, halloc⟩
  · rw [halloc, hcache]
    exact Nat.le_succ _
  · exact Nat.le_of_eq (congrArg (fun new => new.2.cache.length) halloc)
  · exact Nat.le_of_eq (congrArg (fun new => new.2.cache.length) halloc)

theorem release_cache_length_le {limit : Nat} {p : RowPool} {id : RowId}
    (h : p.cache.length ≤ limit) : (p.release limit id).cache.length ≤ limit := by
  rw [release]
  split
  · next hlt => exact hlt
  · exact h

theorem foldl_release_cache_length_le {limit : Nat} {p : RowPool} (rows : List RowId)
    (h : p.cache.length ≤ limit) : (rows.foldl (release limit) p).cache.length ≤ limit := by
  induction rows generalizing p with
  | nil => exact h
  | cons id rows ih => exact ih (release_cache_length_le h)

theorem bindAll_cache_length_le (catalog : Catalog) (policy : BssidPolicy) (cs : List Condition)
    {p : RowPool} {rows : List RowId} (h : Partition p rows) :
    (p.bindAll catalog policy cs).2.cache.length ≤ p.cache.length := by
  induction cs generalizing p rows with
  | nil => exact Nat.le_refl _
  | cons c cs ih =>
      have hnext := ih ((alloc_spec h).1.modify p.alloc.1 (Row.bind catalog policy c))
      exact Nat.le_trans hnext (alloc_cache_length_le h)

theorem rowsFor_cache_length_le (catalog : Catalog) (policy : BssidPolicy) (cs : List Condition)
    {p : RowPool} (h : Partition p []) :
    (Editor.rowsFor catalog policy p cs).2.cache.length ≤ p.cache.length := by
  have hbind := bindAll_cache_length_le catalog policy cs h
  obtain ⟨hpart, -, -⟩ := bindAll_spec catalog policy cs h
  simp only [Editor.rowsFor]
  split
  · exact Nat.le_trans (alloc_cache_length_le hpart) hbind
  · exact hbind

/-! ## Guarded operations on a pool -/

theorem write?_eq_some {p : RowPool} {id : RowId} (h : id.index < p.slots.length)
    (slot : Option Row) : p.write? id slot = some { p with slots := p.slots.set id.index slot } :=
  if_pos h

theorem alloc?_eq_some {p : RowPool} {rows : List RowId} (h : Partition p rows) :
    p.alloc? = some p.alloc := by
  cases hcache : p.cache with
  | cons id cache =>
      have hid : id ∈ p.cache := by simp [hcache]
      obtain ⟨r, hr⟩ := h.exists_row_of_mem_cache hid
      have hlt : id.index < p.slots.length := (h.mem_iff id).1 (by simp [hid])
      simp only [alloc?, alloc, hcache, hr, write?_eq_some hlt, Option.map_some]
      rfl
  | nil =>
      cases hvacant : p.vacant with
      | cons id vacant =>
          have hlt : id.index < p.slots.length := (h.mem_iff id).1 (by simp [hvacant])
          simp only [alloc?, alloc, hcache, allocSlot?, allocSlot, hvacant, write?_eq_some hlt,
            Option.map_some, put]
      | nil => simp only [alloc?, alloc, hcache, allocSlot?, allocSlot, hvacant]

theorem release?_eq_some {p : RowPool} {id : RowId} (limit : Nat)
    (h : id.index < p.slots.length) : p.release? limit id = some (p.release limit id) := by
  rw [release?, release]
  split
  · rfl
  · rw [write?_eq_some h, Option.map_some]

theorem releaseAll?_eq_some (limit : Nat) {p : RowPool} {rows : List RowId}
    (h : Partition p rows) : p.releaseAll? limit rows = some (rows.foldl (release limit) p) := by
  induction rows generalizing p with
  | nil => rfl
  | cons id rows ih =>
      have hlt := h.lt_length (List.mem_cons_self ..)
      rw [releaseAll?, release?_eq_some limit hlt, Option.bind_some, ih (release_spec limit h).1,
        List.foldl_cons]

theorem bindAll?_eq_some (catalog : Catalog) (policy : BssidPolicy) (cs : List Condition)
    {p : RowPool} {rows : List RowId} (h : Partition p rows) :
    p.bindAll? catalog policy cs = some (p.bindAll catalog policy cs) := by
  induction cs generalizing p rows with
  | nil => rfl
  | cons c cs ih =>
      have hnext := ih ((alloc_spec h).1.modify p.alloc.1 (Row.bind catalog policy c))
      simp only [bindAll?, bindAll, alloc?_eq_some h, Option.bind_some, hnext, Option.map_some]

theorem rowsFor?_eq_some (catalog : Catalog) (policy : BssidPolicy) (cs : List Condition)
    {p : RowPool} (h : Partition p []) :
    Editor.rowsFor? catalog policy p cs = some (Editor.rowsFor catalog policy p cs) := by
  obtain ⟨hpart, -, -⟩ := bindAll_spec catalog policy cs h
  simp only [Editor.rowsFor?, Editor.rowsFor, bindAll?_eq_some catalog policy cs h,
    Option.bind_some, alloc?_eq_some hpart, Option.map_some]
  split <;> rfl

end RowPool

open RowPool

/-! ## Operations on an editor -/

/-- An operation keeps within the pool: each of its writes finds its slot, it makes slots only if
    there are too few for the rows then shown, and it keeps no more records than the limit
    allows. -/
structure Change.Bounded (e : Editor) (guarded : Option Change) (c : Change) : Prop where
  guarded_eq : guarded = some c
  slots_length : c.editor.pool.slots.length = max e.pool.slots.length c.editor.rows.length
  cache_length_le : e.pool.cache.length ≤ e.config.rowCacheLimit →
    c.editor.pool.cache.length ≤ e.config.rowCacheLimit

namespace Editor

variable {e : Editor}

theorem bounded_addAfter (h : e.pool.Partition e.rows) (after : RowId) :
    Change.Bounded e (e.addAfter? after) (e.addAfter after) where
  guarded_eq := by
    simp only [addAfter?, alloc?_eq_some h, Option.map_some]
    rfl
  slots_length := by
    simp only [addAfter, syncRemoveControls, modifyAll_slots_length, alloc_slots_length h,
      List.length_insertIdx_of_le_length (Simulates.placeAfter_le e after)]
  cache_length_le := Nat.le_trans (alloc_cache_length_le h)

theorem bounded_remove (h : e.pool.Partition e.rows) (id : RowId) :
    Change.Bounded e (e.remove? id) (e.remove id) := by
  rw [remove?, remove]
  by_cases hid : id ∈ e.rows
  · have hpart := (release_spec e.config.rowCacheLimit (h.perm (List.perm_cons_erase hid))).1
    simp only [if_pos hid, release?_eq_some e.config.rowCacheLimit (h.lt_length hid),
      Option.bind_some]
    split
    · next hempty =>
        -- The only row is given back before another is handed out, so one slot is enough.
        rw [List.isEmpty_iff] at hempty
        rw [hempty] at hpart
        refine ⟨?_, ?_, ?_⟩
        · rw [alloc?_eq_some hpart, Option.map_some]
        · simp only [syncRemoveControls, modifyAll_slots_length, alloc_slots_length hpart,
            release_slots_length, List.length_nil, List.length_singleton]
        · intro hle
          exact Nat.le_trans (alloc_cache_length_le hpart) (release_cache_length_le hle)
    · refine ⟨rfl, ?_, release_cache_length_le⟩
      have hrows := hpart.rows_length_le
      rw [release_slots_length] at hrows
      simp only [syncRemoveControls, modifyAll_slots_length, release_slots_length]
      omega
  · simp only [if_neg hid]
    exact ⟨rfl, (Nat.max_eq_left h.rows_length_le).symm, fun hle => hle⟩

theorem bounded_edit (h : e.pool.Partition e.rows) (id : RowId) (f : Row → Option Row) :
    Change.Bounded e (some (e.edit id f)) (e.edit id f) := by
  have hrows := h.rows_length_le
  rw [edit]
  split
  · refine ⟨rfl, ?_, fun hle => hle⟩
    simp only [update, put_slots_length]
    omega
  · exact ⟨rfl, (Nat.max_eq_left hrows).symm, fun hle => hle⟩

theorem bounded_load (h : e.pool.Partition e.rows) (catalog : Catalog) (x : EntityView) :
    Change.Bounded e (e.load? catalog x) (e.load catalog x) := by
  have hreleased := foldl_release_spec e.config.rowCacheLimit h
  refine ⟨?_, ?_, ?_⟩
  · simp only [load?, load, releaseAll?_eq_some e.config.rowCacheLimit h, Option.bind_some,
      rowsFor?_eq_some catalog e.config.bssidPolicy x.staged.conditions hreleased, Option.map_some]
  · simp only [load, syncRemoveControls, modifyAll_slots_length,
      rowsFor_slots_length catalog e.config.bssidPolicy x.staged.conditions hreleased,
      foldl_release_slots_length]
  · intro hle
    exact Nat.le_trans
      (rowsFor_cache_length_le catalog e.config.bssidPolicy x.staged.conditions hreleased)
      (foldl_release_cache_length_le e.rows hle)

theorem bounded_perform (h : e.pool.Partition e.rows) (catalog : Catalog) (edit : Edit) :
    Change.Bounded e (e.perform? catalog edit) (e.perform catalog edit) := by
  have hsame := Nat.max_eq_left h.rows_length_le
  cases edit with
  | addAfter after => exact bounded_addAfter h after
  | remove id => exact bounded_remove h id
  | setField id field => exact bounded_edit h id _
  | setOperator id op => exact bounded_edit h id _
  | setValue id value => exact bounded_edit h id _
  | setMode mode => exact ⟨rfl, hsame.symm, fun hle => hle⟩
  | refresh x force =>
      simp only [perform?, perform, refresh]
      split
      · exact ⟨rfl, hsame.symm, fun hle => hle⟩
      · exact bounded_load h catalog x

end Editor

end NetActivation
