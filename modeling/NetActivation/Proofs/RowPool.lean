import Mathlib.Data.List.Nodup
import NetActivation.Editor.RowPool

set_option autoImplicit false

/-! # The invariant of a row pool

Every slot of a pool is in one of three hands: its row is in use, its record is kept for reuse, or
its record was dropped and the slot is vacant. `Partition` says so, and each operation of a pool
keeps it: `alloc` moves a handle into use, `release` takes one out of use, and changes to rows move
none. Beside that, `alloc` hands out a blank row whichever of the three sources it comes from, and
neither touches the rows that stay in use. -/

namespace NetActivation.RowPool

/-! ## Looking up -/

theorem index_ne_of_ne {id k : RowId} (h : k ≠ id) : id.index ≠ k.index := by
  intro he
  cases id
  cases k
  exact h (congrArg RowId.mk he.symm)

theorem get?_put_self {p : RowPool} {id : RowId} {r : Row} (h : id.index < p.slots.length) :
    (p.put id r).get? id = some r := by
  simp [get?, put, h]

theorem get?_put_of_ne {p : RowPool} {id k : RowId} {r : Row} (h : k ≠ id) :
    (p.put id r).get? k = p.get? k := by
  have hne := index_ne_of_ne h
  simp [get?, put, hne]

theorem get?_modify_self {p : RowPool} {id : RowId} {f : Row → Row} :
    (p.modify id f).get? id = (p.get? id).map f := by
  cases h : p.slots[id.index]? with
  | none => simp [get?, modify, h]
  | some slot => cases slot <;> simp [get?, modify, h]

theorem get?_modify_of_ne {p : RowPool} {id k : RowId} {f : Row → Row} (h : k ≠ id) :
    (p.modify id f).get? k = p.get? k := by
  have hne := index_ne_of_ne h
  simp [get?, modify, hne]

theorem get?_modifyAll {p : RowPool} {ids : List RowId} {f : Row → Row} {k : RowId} :
    (p.modifyAll ids f).get? k = if k ∈ ids then (p.get? k).map f else p.get? k := by
  obtain ⟨i⟩ := k
  cases h : p.slots[i]? with
  | none => simp [get?, modifyAll, h]
  | some slot =>
      by_cases hmem : (⟨i⟩ : RowId) ∈ ids
      · cases slot <;> simp [get?, modifyAll, h, hmem]
      · simp [get?, modifyAll, h, hmem]

theorem get?_drop_of_ne {p p' : RowPool} {id k : RowId}
    (hslots : p'.slots = p.slots.set id.index none) (h : k ≠ id) : p'.get? k = p.get? k := by
  have hne := index_ne_of_ne h
  simp [get?, hslots, hne]

/-! ## The invariant -/

/-- Every slot is in one of three hands, and the vacant ones are those without a record. -/
structure Partition (p : RowPool) (rows : List RowId) : Prop where
  /-- no handle is in two hands -/
  nodup : (rows ++ (p.cache ++ p.vacant)).Nodup
  /-- the handles are the numbers of the slots -/
  mem_iff : ∀ id, id ∈ rows ++ (p.cache ++ p.vacant) ↔ id.index < p.slots.length
  /-- exactly the vacant slots have no record -/
  get?_eq_none_iff : ∀ id, id.index < p.slots.length → (p.get? id = none ↔ id ∈ p.vacant)

namespace Partition

variable {p : RowPool} {rows : List RowId}

theorem empty : Partition {} [] where
  nodup := List.nodup_nil
  mem_iff id := by simp
  get?_eq_none_iff id hid := absurd hid (Nat.not_lt_zero _)

theorem lt_length (h : Partition p rows) {id : RowId} (hid : id ∈ rows) :
    id.index < p.slots.length :=
  (h.mem_iff id).1 (List.mem_append_left _ hid)

theorem nodup_rows (h : Partition p rows) : rows.Nodup := h.nodup.of_append_left

/-- A handle in use has a record. -/
theorem exists_row (h : Partition p rows) {id : RowId} (hid : id ∈ rows) :
    ∃ r, p.get? id = some r := by
  apply Option.ne_none_iff_exists'.1
  rw [Ne, h.get?_eq_none_iff id (h.lt_length hid)]
  intro hvacant
  exact (List.disjoint_of_nodup_append h.nodup) hid (List.mem_append_right _ hvacant)

/-- A kept handle has a record. -/
theorem exists_row_of_mem_cache (h : Partition p rows) {id : RowId} (hid : id ∈ p.cache) :
    ∃ r, p.get? id = some r := by
  apply Option.ne_none_iff_exists'.1
  rw [Ne, h.get?_eq_none_iff id ((h.mem_iff id).1 (by simp [hid]))]
  intro hvacant
  exact (List.disjoint_of_nodup_append h.nodup.of_append_right) hid hvacant

/-- The order in which rows are used does not matter to a pool. -/
theorem perm {rows' : List RowId} (h : Partition p rows) (hrows : rows.Perm rows') :
    Partition p rows' where
  nodup := (hrows.append_right _).nodup_iff.1 h.nodup
  mem_iff id := by rw [← (hrows.append_right _).mem_iff, h.mem_iff]
  get?_eq_none_iff := h.get?_eq_none_iff

/-- A change to records that moves no handle keeps the invariant. -/
theorem of_get? {p' : RowPool} (h : Partition p rows) (hcache : p'.cache = p.cache)
    (hvacant : p'.vacant = p.vacant) (hslots : p'.slots.length = p.slots.length)
    (hget : ∀ id, id.index < p.slots.length → (p'.get? id = none ↔ p.get? id = none)) :
    Partition p' rows where
  nodup := by rw [hcache, hvacant]; exact h.nodup
  mem_iff id := by rw [hcache, hvacant, hslots]; exact h.mem_iff id
  get?_eq_none_iff id hid := by
    rw [hslots] at hid
    rw [hvacant, hget id hid, h.get?_eq_none_iff id hid]

theorem put (h : Partition p rows) {id : RowId} (hid : id ∈ rows) (r : Row) :
    Partition (p.put id r) rows := by
  refine of_get? h ?_ ?_ (by simp [RowPool.put]) ?_
  · rfl
  · rfl
  intro k hk
  by_cases hkid : k = id
  · obtain ⟨old, hold⟩ := h.exists_row hid
    rw [hkid, get?_put_self (h.lt_length hid), hold]
    simp
  · rw [get?_put_of_ne hkid]

theorem modify (h : Partition p rows) (id : RowId) (f : Row → Row) :
    Partition (p.modify id f) rows := by
  refine of_get? h ?_ ?_ (by simp [RowPool.modify]) ?_
  · rfl
  · rfl
  intro k _
  by_cases hkid : k = id
  · rw [hkid, get?_modify_self, Option.map_eq_none_iff]
  · rw [get?_modify_of_ne hkid]

theorem modifyAll (h : Partition p rows) (ids : List RowId) (f : Row → Row) :
    Partition (p.modifyAll ids f) rows := by
  refine of_get? h ?_ ?_ (by simp [RowPool.modifyAll]) ?_
  · rfl
  · rfl
  intro k _
  rw [get?_modifyAll]
  split
  · rw [Option.map_eq_none_iff]
  · rfl

/-! ## Handing out and taking back -/

/-- A handle that was free comes into use, with a row in its slot. The rows in use stay as they
    are. -/
theorem take {p' : RowPool} {id : RowId} {r : Row} (h : Partition p rows)
    (hslots : p'.slots = p.slots.set id.index (some r))
    (hfree : (p.cache ++ p.vacant).Perm (id :: (p'.cache ++ p'.vacant)))
    (hvacant : ∀ k, k ∈ p'.vacant ↔ k ∈ p.vacant ∧ k ≠ id) :
    Partition p' (id :: rows) ∧ p'.get? id = some r ∧ ∀ k ∈ rows, p'.get? k = p.get? k := by
  have hperm : (rows ++ (p.cache ++ p.vacant)).Perm (id :: rows ++ (p'.cache ++ p'.vacant)) :=
    (hfree.append_left rows).trans List.perm_middle
  have hget (k : RowId) : p'.get? k = (p.put id r).get? k := by
    simp only [get?, hslots, RowPool.put]
  have hid : id.index < p.slots.length := by
    rw [← h.mem_iff, hperm.mem_iff]
    simp
  have hpart : Partition p' (id :: rows) := by
    refine ⟨hperm.nodup_iff.1 h.nodup, ?_, ?_⟩
    · intro k
      rw [← hperm.mem_iff, h.mem_iff, hslots, List.length_set]
    · intro k hk
      rw [hslots, List.length_set] at hk
      by_cases hkid : k = id
      · rw [hget, hkid, get?_put_self hid, hvacant]
        simp
      · rw [hget, get?_put_of_ne hkid, h.get?_eq_none_iff k hk, hvacant]
        simp [hkid]
  refine ⟨hpart, ?_, ?_⟩
  · rw [hget, get?_put_self hid]
  · intro k hk
    rw [hget]
    apply get?_put_of_ne
    rintro rfl
    exact (List.nodup_cons.1 hpart.nodup_rows).1 hk

/-- A new slot comes into use. -/
theorem grow (h : Partition p rows) (r : Row) :
    Partition { p with slots := p.slots ++ [some r] } (⟨p.slots.length⟩ :: rows) := by
  have hnew : (⟨p.slots.length⟩ : RowId) ∉ rows ++ (p.cache ++ p.vacant) := by
    rw [h.mem_iff]
    simp
  refine ⟨?_, ?_, ?_⟩
  · rw [List.cons_append, List.nodup_cons]
    exact ⟨hnew, h.nodup⟩
  · intro k
    rw [List.cons_append, List.mem_cons, h.mem_iff, List.length_append, List.length_singleton]
    constructor
    · rintro (rfl | hk)
      · exact Nat.lt_succ_self _
      · exact Nat.lt_succ_of_lt hk
    · intro hk
      rcases Nat.lt_succ_iff_lt_or_eq.1 hk with hlt | heq
      · exact Or.inr hlt
      · left
        cases k
        exact congrArg RowId.mk heq
  · -- The new slot has a record, and its handle is too large to have been vacant.
    intro k hk
    rw [List.length_append, List.length_singleton] at hk
    rcases Nat.lt_succ_iff_lt_or_eq.1 hk with hlt | heq
    · rw [← h.get?_eq_none_iff k hlt]
      simp [get?, List.getElem?_append_left hlt]
    · constructor
      · intro hnone
        simp [get?, heq] at hnone
      · intro hvacant
        have hold := (h.mem_iff k).1 (by simp [hvacant])
        omega

end Partition

/-! ## What handing out can do -/

/-- A handle is taken off the kept records, else off the vacant slots, else it is that of a new
    slot; its row is blank in any case. -/
theorem alloc_cases {p : RowPool} {rows : List RowId} (h : Partition p rows) :
    (∃ id cache, p.cache = id :: cache ∧ p.alloc = (id, { p.put id Row.blank with cache })) ∨
    (∃ id vacant, p.cache = [] ∧ p.vacant = id :: vacant ∧
      p.alloc = (id, { p.put id Row.blank with vacant })) ∨
    (p.cache = [] ∧ p.vacant = [] ∧
      p.alloc = (⟨p.slots.length⟩, { p with slots := p.slots ++ [some Row.blank] })) := by
  cases hcache : p.cache with
  | cons id cache =>
      have hkept : id ∈ p.cache := by simp [hcache]
      obtain ⟨r, hr⟩ := h.exists_row_of_mem_cache hkept
      left
      refine ⟨id, cache, rfl, ?_⟩
      simp only [alloc, hcache, hr, Row.reset_eq_blank]
  | nil =>
      right
      cases hvacant : p.vacant with
      | cons id vacant =>
          left
          refine ⟨id, vacant, rfl, rfl, ?_⟩
          simp only [alloc, hcache, allocSlot, hvacant]
      | nil =>
          right
          refine ⟨rfl, rfl, ?_⟩
          simp only [alloc, hcache, allocSlot, hvacant]

/-- What is handed out is a blank row under a handle that was not in use, and the rows in use stay
    as they are. -/
theorem alloc_spec {p : RowPool} {rows : List RowId} (h : Partition p rows) :
    Partition p.alloc.2 (p.alloc.1 :: rows) ∧ p.alloc.2.get? p.alloc.1 = some Row.blank ∧
      ∀ k ∈ rows, p.alloc.2.get? k = p.get? k := by
  have hfree : (p.cache ++ p.vacant).Nodup := h.nodup.of_append_right
  -- Whichever hand the handle is taken from, it is not in the other one.
  rcases alloc_cases h with ⟨id, cache, hcache, halloc⟩ | ⟨id, vacant, hcache, hvacant, halloc⟩ |
    ⟨-, -, halloc⟩
  · rw [hcache, List.cons_append, List.nodup_cons] at hfree
    rw [halloc]
    refine h.take rfl ?_ ?_
    · rw [hcache, List.cons_append]
      exact List.Perm.refl _
    · intro k
      constructor
      · intro hk
        refine ⟨hk, ?_⟩
        rintro rfl
        exact hfree.1 (List.mem_append_right _ hk)
      · exact fun hk => hk.1
  · rw [hcache, hvacant, List.nil_append, List.nodup_cons] at hfree
    rw [halloc]
    refine h.take rfl ?_ ?_
    · rw [hcache, hvacant]
      simp [RowPool.put, hcache]
    · intro k
      rw [hvacant]
      constructor
      · intro hk
        refine ⟨List.mem_cons_of_mem _ hk, ?_⟩
        rintro rfl
        exact hfree.1 hk
      · rintro ⟨hk, hne⟩
        exact (List.mem_cons.1 hk).resolve_left hne
  · rw [halloc]
    refine ⟨h.grow Row.blank, by simp [get?], ?_⟩
    intro k hk
    simp [get?, List.getElem?_append_left (h.lt_length hk)]

/-- What is taken back is in use no more, and the other rows in use stay as they are. -/
theorem release_spec {p : RowPool} {rows : List RowId} {id : RowId} (limit : Nat)
    (h : Partition p (id :: rows)) :
    Partition (p.release limit id) rows ∧
      ∀ k ∈ rows, (p.release limit id).get? k = p.get? k := by
  have hid : id.index < p.slots.length := h.lt_length (List.mem_cons_self ..)
  have hne (k : RowId) (hk : k ∈ rows) : k ≠ id := by
    rintro rfl
    exact (List.nodup_cons.1 h.nodup_rows).1 hk
  rw [release]
  split
  · -- The record is kept: the handle changes hands, and no slot changes.
    have hperm : (id :: rows ++ (p.cache ++ p.vacant)).Perm (rows ++ (id :: p.cache ++ p.vacant)) :=
      List.perm_middle.symm
    refine ⟨⟨hperm.nodup_iff.1 h.nodup, fun k => ?_, h.get?_eq_none_iff⟩, fun _ _ => rfl⟩
    rw [← hperm.mem_iff, h.mem_iff]
  · -- The record is dropped: the slot becomes vacant as its handle does.
    have hperm : (id :: rows ++ (p.cache ++ p.vacant)).Perm
        (rows ++ (p.cache ++ id :: p.vacant)) :=
      List.perm_middle.symm.trans (List.perm_middle.symm.append_left rows)
    refine ⟨⟨hperm.nodup_iff.1 h.nodup, fun k => ?_, fun k hk => ?_⟩,
      fun k hk => get?_drop_of_ne rfl (hne k hk)⟩
    · rw [← hperm.mem_iff, h.mem_iff, List.length_set]
    · rw [List.length_set] at hk
      by_cases hkid : k = id
      · subst hkid
        simp [get?, hid]
      · rw [get?_drop_of_ne rfl hkid, h.get?_eq_none_iff k hk]
        simp [hkid]

end NetActivation.RowPool
