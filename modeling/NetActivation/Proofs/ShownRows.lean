import Mathlib.Data.List.InsertIdx
import NetActivation.Editor.Basic
import NetActivation.Proofs.Lists
import NetActivation.Proofs.RowPool

set_option autoImplicit false

/-! # The rows under the handles on display

`Shows p ids rs` says that a pool holds the rows `rs` under the handles `ids`, one by one. A row
that is added, erased or changed on display is added, erased or changed in the list of rows at the
same place. The rows that a pool hands out for the conditions of an entity are blank rows bound to
those conditions (`rowsFor_spec`), whatever the pool was used for before. -/

namespace NetActivation.RowPool

/-! ## Rows under handles -/

/-- The rows that a pool holds under the given handles, in order. -/
def Shows (p : RowPool) (ids : List RowId) (rs : List Row) : Prop :=
  ids.map p.get? = rs.map some

namespace Shows

variable {p p' : RowPool} {ids : List RowId} {rs : List Row}

theorem length_eq (h : Shows p ids rs) : ids.length = rs.length := by
  have hlength := congrArg List.length h
  rwa [List.length_map, List.length_map] at hlength

theorem isEmpty_eq (h : Shows p ids rs) : ids.isEmpty = rs.isEmpty := by
  rw [Bool.eq_iff_iff, List.isEmpty_iff_length_eq_zero, List.isEmpty_iff_length_eq_zero,
    h.length_eq]

/-- Only the rows on display matter. -/
theorem congr (h : Shows p ids rs) (hsame : ∀ k ∈ ids, p'.get? k = p.get? k) :
    Shows p' ids rs := by
  rw [Shows, List.map_congr_left hsame]
  exact h

theorem cons {id : RowId} {r : Row} (hid : p.get? id = some r) (h : Shows p ids rs) :
    Shows p (id :: ids) (r :: rs) := by
  rw [Shows, List.map_cons, List.map_cons, hid, h]

theorem insertIdx {id : RowId} {r : Row} (h : Shows p ids rs) (hid : p.get? id = some r) (i : Nat) :
    Shows p (ids.insertIdx i id) (rs.insertIdx i r) := by
  rw [Shows, List.map_insertIdx, List.map_insertIdx, hid, h]

theorem eraseIdx (h : Shows p ids rs) (i : Nat) : Shows p (ids.eraseIdx i) (rs.eraseIdx i) := by
  rw [Shows, ← List.eraseIdx_map, ← List.eraseIdx_map, h]

/-- The handle at a place has the row at that place. -/
theorem get?_eq (h : Shows p ids rs) {i : Nat} {id : RowId} (hi : ids[i]? = some id) :
    p.get? id = rs[i]? := by
  have hget := congrArg (·[i]?) h
  simp only [List.getElem?_map, hi, Option.map_some] at hget
  cases hr : rs[i]? with
  | none => simp [hr] at hget
  | some r => simpa [hr] using hget

theorem filterMap_eq (h : Shows p ids rs) : ids.filterMap p.get? = rs := by
  have hmap : ids.filterMap p.get? = (ids.map p.get?).filterMap id := by
    rw [List.filterMap_map, Function.id_comp]
  rw [hmap, h, List.filterMap_map, Function.id_comp, List.filterMap_some]

theorem put (h : Shows p ids rs) (hids : ids.Nodup) {i : Nat} {id : RowId}
    (hi : ids[i]? = some id) (hlt : id.index < p.slots.length) (r : Row) :
    Shows (p.put id r) ids (rs.set i r) := by
  have hirs : i < rs.length := by
    rw [← h.length_eq]
    exact (List.getElem?_eq_some_iff.1 hi).1
  apply List.ext_getElem?
  intro j
  rw [List.getElem?_map, List.getElem?_map, List.getElem?_set]
  by_cases hij : i = j
  · subst hij
    rw [hi, if_pos rfl, if_pos hirs, Option.map_some, get?_put_self hlt, Option.map_some]
  · have hold : rs[j]?.map some = ids[j]?.map p.get? := by
      rw [← List.getElem?_map, ← List.getElem?_map, h]
    rw [if_neg hij, hold]
    cases hj : ids[j]? with
    | none => rfl
    | some k =>
        have hne : k ≠ id := by
          rintro rfl
          have hplace := idxOf?_of_nodup hids hj
          rw [idxOf?_of_nodup hids hi] at hplace
          exact hij (Option.some.inj hplace)
        rw [Option.map_some, Option.map_some, get?_put_of_ne hne]

theorem modifyAll (h : Shows p ids rs) (f : Row → Row) :
    Shows (p.modifyAll ids f) ids (rs.map f) := by
  have hget : ids.map (p.modifyAll ids f).get? = ids.map fun k => (p.get? k).map f := by
    apply List.map_congr_left
    intro k hk
    rw [get?_modifyAll, if_pos hk]
  calc ids.map (p.modifyAll ids f).get?
      = (ids.map p.get?).map (Option.map f) := by rw [hget, List.map_map]; rfl
    _ = (rs.map some).map (Option.map f) := by rw [h]
    _ = (rs.map f).map some := by rw [List.map_map, List.map_map]; rfl

end Shows

/-! ## Replacing all rows -/

theorem foldl_release_spec {rows : List RowId} (limit : Nat) {p : RowPool} (h : Partition p rows) :
    Partition (rows.foldl (release limit) p) [] := by
  induction rows generalizing p with
  | nil => exact h
  | cons id rows ih => exact ih (release_spec limit h).1

/-- Rows are handed out bound to the given conditions, and the rows in use stay as they are. -/
theorem bindAll_spec (catalog : Catalog) (policy : BssidPolicy) (cs : List Condition)
    {p : RowPool} {rows : List RowId} (h : Partition p rows) :
    Partition (p.bindAll catalog policy cs).2 ((p.bindAll catalog policy cs).1 ++ rows) ∧
      Shows (p.bindAll catalog policy cs).2 (p.bindAll catalog policy cs).1
        (cs.map fun c => Row.blank.bind catalog policy c) ∧
      ∀ k ∈ rows, (p.bindAll catalog policy cs).2.get? k = p.get? k := by
  induction cs generalizing p rows with
  | nil => exact ⟨h, rfl, fun _ _ => rfl⟩
  | cons c cs ih =>
      obtain ⟨halloc, hblank, hsame⟩ := alloc_spec h
      have hfresh := (List.nodup_cons.1 halloc.nodup_rows).1
      have hbind := halloc.modify p.alloc.1 (Row.bind catalog policy c)
      -- The row that was just bound is in use while the others are handed out.
      obtain ⟨hpart, hshows, hrest⟩ := ih hbind
      simp only [bindAll]
      refine ⟨hpart.perm List.perm_middle, ?_, ?_⟩
      · refine hshows.cons ?_
        rw [hrest _ (List.mem_cons_self ..), get?_modify_self, hblank]
        rfl
      · intro k hk
        have hne : k ≠ p.alloc.1 := by
          rintro rfl
          exact hfresh hk
        rw [hrest k (List.mem_cons_of_mem _ hk), get?_modify_of_ne hne, hsame k hk]

/-- The rows that are handed out for an entity when none is in use. -/
theorem rowsFor_spec (catalog : Catalog) (policy : BssidPolicy) (cs : List Condition)
    {p : RowPool} (h : Partition p []) :
    Partition (Editor.rowsFor catalog policy p cs).2 (Editor.rowsFor catalog policy p cs).1 ∧
      Shows (Editor.rowsFor catalog policy p cs).2 (Editor.rowsFor catalog policy p cs).1
        (if cs.isEmpty then [Row.blank] else cs.map fun c => Row.blank.bind catalog policy c) := by
  obtain ⟨hpart, hshows, -⟩ := bindAll_spec catalog policy cs h
  rw [List.append_nil] at hpart
  have hempty : (p.bindAll catalog policy cs).1.isEmpty = cs.isEmpty := by
    rw [hshows.isEmpty_eq, List.isEmpty_map]
  simp only [Editor.rowsFor, hempty]
  cases cs with
  | nil =>
      obtain ⟨halloc, hblank, -⟩ := alloc_spec hpart
      exact ⟨halloc, Shows.cons hblank rfl⟩
  | cons c cs => exact ⟨hpart, hshows⟩

end NetActivation.RowPool
