import NetActivation.Editor.Mirror
import NetActivation.Proofs.EditorSlots
import NetActivation.Proofs.RowOrigin

set_option autoImplicit false

/-! # What the events of an operation tell

Each operation makes up its events by hand. `Change.Observable` says what they tell an observer who
knows which rows were shown before: which rows are shown now, whether several are if that changed,
and which row changed if the rows themselves stayed. Every operation of an editor that shows a row
at all is observable (`observable_perform`). A reload is announced once, before anything else
(`events_of_reloads`). -/

namespace NetActivation

open RowPool

/-- Two editors show the same rows, up to the contents of those with the given handles. -/
structure Editor.SameBut (e : Editor) (ids : List RowId) (e' : Editor) : Prop where
  rows_eq : e'.rows = e.rows
  row?_eq : ∀ id, id ∉ ids → e'.row? id = e.row? id

/-- What observers are told about how many rows are shown. -/
def Event.ofMultiRow (before after : Bool) : List Event :=
  if before = after then [] else [.multiRow after]

/-- The events of a change tell an observer what changed. -/
structure Change.Observable (e : Editor) (c : Change) : Prop where
  /-- whether several rows are shown is told exactly if it changed -/
  multiRow?_eq : c.events.filterMap Event.multiRow? =
    if e.isMultiRow = c.editor.isMultiRow then [] else [c.editor.isMultiRow]
  /-- an observer who knows the handles shown can follow the events to those shown now -/
  mirror_eq : c.events.foldlM (Event.mirror c.editor.rows) e.rows.toFinset =
    some c.editor.rows.toFinset
  /-- no event means that no row changed -/
  silent : c.events = [] → e.SameBut [] c.editor
  /-- a single event about a row means that no other changed -/
  changed : ∀ id, c.events = [.conditionChanged id] → e.SameBut [id] c.editor

namespace Editor

variable {e : Editor} {s : PlainEditor}

/-! ## Operations on rows -/

theorem isMultiRow_congr {e e' : Editor} (h : e'.rows = e.rows) :
    e.isMultiRow = e'.isMultiRow := by
  rw [isMultiRow, isMultiRow, h]

/-- An operation that changes no row has nothing to tell. -/
theorem observable_of_sameBut {c : Change} (h : e.SameBut [] c.editor) (hevents : c.events = []) :
    c.Observable e where
  multiRow?_eq := by
    rw [if_pos (isMultiRow_congr h.rows_eq), hevents, List.filterMap_nil]
  mirror_eq := by
    rw [hevents, h.rows_eq]
    rfl
  silent _ := h
  changed id hid := by
    rw [hevents] at hid
    exact absurd hid (by simp)

theorem observable_update (h : e.pool.Partition e.rows) {id : RowId} (hid : id ∈ e.rows)
    (r : Row) : (e.update id r).Observable e where
  multiRow?_eq := (if_pos (isMultiRow_congr rfl)).symm
  mirror_eq := rfl
  silent hevents := absurd hevents (List.cons_ne_nil _ _)
  changed k hk := by
    obtain rfl : id = k := by simpa [update] using hk
    refine ⟨rfl, fun j hj => ?_⟩
    rw [row?_update h hid, if_neg (by simpa using hj)]

theorem observable_edit (h : e.pool.Partition e.rows) (id : RowId) (f : Row → Option Row) :
    (e.edit id f).Observable e := by
  rw [edit]
  split
  · next r hr =>
      obtain ⟨old, hold, -⟩ := Option.bind_eq_some_iff.1 hr
      exact observable_update h (mem_rows_of_row? hold) r
  · exact observable_of_sameBut ⟨rfl, fun _ _ => rfl⟩ rfl

/-! ## Operations that add or remove rows -/

/-- A row more makes several out of one, and leaves several if there were several. -/
theorem ofMultiRow_succ {n : Nat} (h : 0 < n) :
    Event.ofMultiRow (decide (1 < n)) (decide (1 < n + 1)) =
      if n + 1 = 2 then [.multiRow true] else [] := by
  have hafter : decide (1 < n + 1) = true := decide_eq_true (by omega)
  by_cases hone : n = 1
  · subst hone
    rfl
  · have hbefore : decide (1 < n) = true := decide_eq_true (by omega)
    rw [hbefore, hafter, if_neg (by omega)]
    rfl

/-- A row less leaves several, or the last one. -/
theorem ofMultiRow_pred {n : Nat} (h : 0 < n) :
    Event.ofMultiRow (decide (1 < n + 1)) (decide (1 < n)) =
      if n = 1 then [.multiRow false] else [] := by
  have hbefore : decide (1 < n + 1) = true := decide_eq_true (by omega)
  by_cases hone : n = 1
  · subst hone
    rfl
  · have hafter : decide (1 < n) = true := decide_eq_true (by omega)
    rw [hbefore, hafter, if_neg hone]
    rfl

/-- An operation tells first which rows it added and removed, and last whether several are shown
    if that changed. -/
theorem observable_of_rows {c : Change} (first : List Event) (hne : first ≠ [])
    (hevents : c.events = first ++ Event.ofMultiRow e.isMultiRow c.editor.isMultiRow)
    (hrows : ∀ event ∈ first, event.multiRow? = none ∧ ∀ id, event ≠ .conditionChanged id)
    (hmirror : first.foldlM (Event.mirror c.editor.rows) e.rows.toFinset =
      some c.editor.rows.toFinset) : c.Observable e where
  multiRow?_eq := by
    have hfirst : first.filterMap Event.multiRow? = [] :=
      List.filterMap_eq_nil_iff.2 fun event hevent => (hrows event hevent).1
    rw [hevents, List.filterMap_append, hfirst, List.nil_append, Event.ofMultiRow]
    split <;> rfl
  mirror_eq := by
    rw [hevents, List.foldlM_append, hmirror, Event.ofMultiRow]
    split <;> rfl
  silent hnil := by
    rw [hevents] at hnil
    exact absurd (List.append_eq_nil_iff.1 hnil).1 hne
  changed id hid := by
    obtain ⟨event, rest, rfl⟩ := List.exists_cons_of_ne_nil hne
    rw [hevents, List.cons_append] at hid
    exact absurd (List.cons.inj hid).1 ((hrows event (List.mem_cons_self ..)).2 id)

theorem observable_addAfter (h : e.pool.Partition e.rows) (hne : e.rows ≠ []) (after : RowId) :
    (e.addAfter after).Observable e := by
  have hplace := Simulates.placeAfter_le e after
  have hnew : e.pool.alloc.1 ∉ e.rows := (List.nodup_cons.1 (alloc_spec h).1.nodup_rows).1
  have hlength : (e.addAfter after).editor.rows.length = e.rows.length + 1 :=
    List.length_insertIdx_of_le_length hplace _
  refine observable_of_rows [.rowAdded e.pool.alloc.1] (by simp) ?_ (by simp [Event.multiRow?]) ?_
  · have hevents : (e.addAfter after).events = .rowAdded e.pool.alloc.1 ::
        if (e.addAfter after).editor.rows.length = 2 then [.multiRow true] else [] := rfl
    rw [hevents, isMultiRow, isMultiRow, hlength, ofMultiRow_succ (List.length_pos_of_ne_nil hne)]
    rfl
  · have hshown : (e.addAfter after).editor.rows.toFinset =
        insert e.pool.alloc.1 e.rows.toFinset := by
      ext id
      rw [List.mem_toFinset, Finset.mem_insert, List.mem_toFinset]
      exact List.mem_insertIdx hplace
    rw [hshown]
    simp [Event.mirror, hnew]

theorem observable_remove (h : e.pool.Partition e.rows) (id : RowId) :
    (e.remove id).Observable e := by
  by_cases hid : id ∈ e.rows
  · have hleft : (e.rows.erase id).toFinset = e.rows.toFinset.erase id := by
      ext k
      rw [List.mem_toFinset, Finset.mem_erase, List.mem_toFinset, h.nodup_rows.mem_erase_iff]
    have hlength := List.length_erase_add_one hid
    by_cases hempty : e.rows.erase id = []
    · -- A row takes the place of the only one, maybe under the handle that was given back.
      obtain ⟨fresh, hrows, hevents⟩ : ∃ fresh, (e.remove id).editor.rows = [fresh] ∧
          (e.remove id).events = [.rowRemoved id, .rowAdded fresh] := by
        simp [remove, hid, hempty, syncRemoveControls]
      have hone : e.rows.length = 1 := by rw [← hlength, hempty, List.length_nil]
      refine observable_of_rows [.rowRemoved id, .rowAdded fresh] (by simp) ?_
        (by simp [Event.multiRow?]) ?_
      · rw [hevents, isMultiRow, isMultiRow, hone, hrows]
        rfl
      · rw [hempty, List.toFinset_nil] at hleft
        rw [hrows]
        simp [Event.mirror, hid, ← hleft]
    · have hremove : (e.remove id).editor.rows = e.rows.erase id := by
        simp [remove, hid, hempty, syncRemoveControls]
      refine observable_of_rows [.rowRemoved id] (by simp) ?_ (by simp [Event.multiRow?]) ?_
      · have hevents : (e.remove id).events = .rowRemoved id ::
            if (e.rows.erase id).length = 1 then [.multiRow false] else [] := by
          simp [remove, hid, hempty]
        rw [hevents, isMultiRow, isMultiRow, hremove, ← hlength,
          ofMultiRow_pred (List.length_pos_of_ne_nil hempty)]
        rfl
      · rw [hremove, hleft]
        simp [Event.mirror, hid]
  · rw [remove, if_neg hid]
    exact observable_of_sameBut ⟨rfl, fun _ _ => rfl⟩ rfl

theorem observable_load (catalog : Catalog) (e : Editor) (x : EntityView) :
    (e.load catalog x).Observable e :=
  observable_of_rows [.reloaded] (by simp) rfl (by simp [Event.multiRow?]) rfl

/-- The events of every operation tell an observer what it changed. -/
theorem observable_perform (h : Simulates e s) (hs : s.Floored) (catalog : Catalog) (edit : Edit) :
    (e.perform catalog edit).Observable e := by
  have hpart := h.partition
  cases edit with
  | addAfter after =>
      have hne : e.rows ≠ [] := by
        rw [← List.length_pos_iff, h.shows.length_eq, List.length_pos_iff]
        exact hs.rows_ne_nil
      exact observable_addAfter hpart hne after
  | remove id => exact observable_remove hpart id
  | setField id field => exact observable_edit hpart id _
  | setOperator id op => exact observable_edit hpart id _
  | setValue id value => exact observable_edit hpart id _
  | setMode mode => exact observable_of_sameBut ⟨rfl, fun _ _ => rfl⟩ rfl
  | refresh x force =>
      rw [perform, refresh]
      split
      · exact observable_of_sameBut ⟨rfl, fun _ _ => rfl⟩ rfl
      · exact observable_load catalog e x

/-! ## Reloads -/

/-- A reload is announced once, before whatever else is told. -/
theorem events_of_reloads {catalog : Catalog} {edit : Edit} (h : edit.Reloads e) :
    ∃ rest, (e.perform catalog edit).events = .reloaded :: rest ∧ .reloaded ∉ rest := by
  cases edit with
  | refresh x force =>
      have hload : e.refresh catalog x force = e.load catalog x := by
        refine if_neg fun hskip => ?_
        rw [Bool.and_eq_true, Bool.not_eq_true', beq_iff_eq] at hskip
        rcases h with hforce | hbound
        · rw [hforce] at hskip
          exact absurd hskip.1 (by simp)
        · exact hbound hskip.2
      rw [perform, hload]
      exact ⟨_, rfl, by simp⟩
  | addAfter after => exact h.elim
  | remove id => exact h.elim
  | setField id field => exact h.elim
  | setOperator id op => exact h.elim
  | setValue id value => exact h.elim
  | setMode mode => exact h.elim

end Editor

end NetActivation
