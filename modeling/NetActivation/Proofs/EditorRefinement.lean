import NetActivation.Editor.Plain
import NetActivation.Proofs.ShownRows

set_option autoImplicit false

/-! # The editor refines the plain editor

The editor draws its rows from a pool and names them by handles that come back; the plain editor
keeps a list of rows. `Simulates` relates them: the rows under the handles on display are those of
the list, one by one, and the pool is in order. It holds of new editors, every operation keeps it
(one lemma for each, put together in `matches_perform`), and so what is seen of the two is the same
over every run (`sights_eq`). The plain editor knows nothing of a cache, so the limit of the cache
cannot be told from what is seen. -/

namespace NetActivation

open RowPool

/-! ## The simulation -/

/-- Both editors show the same, and the pool is in order. -/
structure Simulates (e : Editor) (s : PlainEditor) : Prop where
  mode_eq : e.mode = s.mode
  bound_eq : e.bound = s.bound
  shows : e.pool.Shows e.rows s.rows
  partition : e.pool.Partition e.rows

/-- Two operations lead to editors that show the same, and tell observers the same. -/
structure Change.Matches (before : List RowId) (c : Change) (d : PlainChange) : Prop where
  simulates : Simulates c.editor d.editor
  events_eq : c.events.map (Event.placed before c.editor.rows) = d.events

namespace Simulates

variable {e : Editor} {s : PlainEditor}

theorem isMultiRow_eq (h : Simulates e s) : e.isMultiRow = decide (1 < s.rows.length) := by
  rw [Editor.isMultiRow, h.shows.length_eq]

/-- The row with a handle is the one at its place. -/
theorem row?_eq (h : Simulates e s) {id : RowId} {i : Nat} (hi : e.rows.idxOf? id = some i) :
    e.row? id = s.rows[i]? := by
  have hget := getElem?_of_idxOf? hi
  rw [Editor.row?, if_pos (List.mem_of_getElem? hget), h.shows.get?_eq hget]

theorem shown_eq (h : Simulates e s) : e.shown.map (·.2) = s.rows := by
  have hshown : e.shown.map (·.2) = e.rows.filterMap e.pool.get? := by
    rw [Editor.shown, List.map_filterMap]
    apply List.filterMap_congr
    intro id hid
    rw [Option.map_map, Editor.row?, if_pos hid]
    exact Option.map_id'
  rw [hshown, h.shows.filterMap_eq]

theorem unchanged (h : Simulates e s) : Change.Matches e.rows e.unchanged s.unchanged :=
  ⟨h, rfl⟩

/-! ## Parts of the operations -/

theorem syncRemoveControls (h : Simulates e s) :
    Simulates e.syncRemoveControls { s with rows := PlainEditor.withControls s.rows } where
  mode_eq := h.mode_eq
  bound_eq := h.bound_eq
  shows := by
    have hshows := h.shows.modifyAll fun r => { r with removeEnabled := e.isMultiRow }
    rw [h.isMultiRow_eq] at hshows
    rw [Editor.syncRemoveControls, h.isMultiRow_eq]
    exact hshows
  partition := h.partition.modifyAll _ _

/-- A row that is handed out and put on display is a blank one, found at the place where it was
    put. -/
theorem insert (h : Simulates e s) {place : Nat} (hplace : place ≤ e.rows.length) :
    Simulates { e with pool := e.pool.alloc.2, rows := e.rows.insertIdx place e.pool.alloc.1 }
        { s with rows := s.rows.insertIdx place Row.blank } ∧
      (e.rows.insertIdx place e.pool.alloc.1).idxOf? e.pool.alloc.1 = some place := by
  obtain ⟨hpart, hblank, hsame⟩ := alloc_spec h.partition
  have hperm := List.perm_insertIdx e.pool.alloc.1 e.rows hplace
  have hpart' := hpart.perm hperm.symm
  refine ⟨⟨h.mode_eq, h.bound_eq, ?_, hpart'⟩, idxOf?_of_nodup hpart'.nodup_rows ?_⟩
  · exact (h.shows.congr hsame).insertIdx hblank place
  · rw [List.getElem?_insertIdx_self, if_pos hplace]

/-- A row that is taken off display is erased at its place. -/
theorem erase (h : Simulates e s) {id : RowId} {i : Nat} (hi : e.rows.idxOf? id = some i) :
    Simulates
      { e with pool := e.pool.release e.config.rowCacheLimit id, rows := e.rows.erase id }
      { s with rows := s.rows.eraseIdx i } := by
  have hid : id ∈ e.rows := List.mem_of_getElem? (getElem?_of_idxOf? hi)
  have herase : e.rows.erase id = e.rows.eraseIdx i := by
    rw [List.erase_eq_eraseIdx, hi]
  obtain ⟨hpart, hsame⟩ :=
    release_spec e.config.rowCacheLimit (h.partition.perm (List.perm_cons_erase hid))
  refine ⟨h.mode_eq, h.bound_eq, ?_, hpart⟩
  have hshows := h.shows.eraseIdx i
  rw [← herase] at hshows
  exact hshows.congr hsame

/-! ## Operations -/

theorem placeAfter_le (e : Editor) (after : RowId) : e.placeAfter after ≤ e.rows.length := by
  rw [Editor.placeAfter]
  cases hi : e.rows.idxOf? after with
  | none => exact Nat.le_refl _
  | some i => exact (List.getElem?_eq_some_iff.1 (getElem?_of_idxOf? hi)).1

theorem placeAfter_eq (h : Simulates e s) (after : RowId) :
    s.placeAfter (e.rows.idxOf? after) = e.placeAfter after := by
  rw [Editor.placeAfter]
  cases e.rows.idxOf? after with
  | none => exact h.shows.length_eq.symm
  | some i => rfl

theorem addAfter (h : Simulates e s) (after : RowId) :
    Change.Matches e.rows (e.addAfter after) (s.addAfter (e.rows.idxOf? after)) := by
  obtain ⟨hinsert, hfound⟩ := h.insert (placeAfter_le e after)
  have hlength := hinsert.shows.length_eq
  simp only [Editor.addAfter, PlainEditor.addAfter, h.placeAfter_eq]
  refine ⟨hinsert.syncRemoveControls, ?_⟩
  simp only [Editor.syncRemoveControls, List.map_cons, Event.placed, hfound, hlength]
  split <;> rfl

theorem remove (h : Simulates e s) (id : RowId) :
    Change.Matches e.rows (e.remove id) (s.remove (e.rows.idxOf? id)) := by
  cases hi : e.rows.idxOf? id with
  | none =>
      rw [Editor.remove, if_neg (List.idxOf?_eq_none_iff.1 hi)]
      exact h.unchanged
  | some i =>
      have hid : id ∈ e.rows := List.mem_of_getElem? (getElem?_of_idxOf? hi)
      have herase := h.erase hi
      have hempty := herase.shows.isEmpty_eq
      have hlength := herase.shows.length_eq
      rw [Editor.remove, if_pos hid]
      simp only [PlainEditor.remove, hempty, hlength]
      split
      · -- The only row was removed, and a blank one goes to the first place of an empty display.
        next hnone =>
          have hplain : s.rows.eraseIdx i = [] := List.isEmpty_iff.1 hnone
          have hrows : e.rows.erase id = [] := by
            rwa [hplain, List.isEmpty_nil, List.isEmpty_iff] at hempty
          obtain ⟨hinsert, hfound⟩ := herase.insert (Nat.zero_le _)
          simp only [hrows, hplain, List.insertIdx_zero] at hinsert hfound
          refine ⟨hinsert.syncRemoveControls, ?_⟩
          simp only [Editor.syncRemoveControls, List.map_cons, List.map_nil, Event.placed, hi,
            hfound]
      · refine ⟨herase.syncRemoveControls, ?_⟩
        simp only [List.map_cons, Event.placed, hi]
        split <;> rfl

theorem edit (h : Simulates e s) (id : RowId) (f : Row → Option Row) :
    Change.Matches e.rows (e.edit id f) (s.edit f (e.rows.idxOf? id)) := by
  cases hi : e.rows.idxOf? id with
  | none =>
      have hrow : e.row? id = none := if_neg (List.idxOf?_eq_none_iff.1 hi)
      rw [Editor.edit, hrow]
      exact h.unchanged
  | some i =>
      have hget := getElem?_of_idxOf? hi
      have hid : id ∈ e.rows := List.mem_of_getElem? hget
      simp only [Editor.edit, PlainEditor.edit, h.row?_eq hi]
      cases s.rows[i]?.bind f with
      | none => exact h.unchanged
      | some r =>
          refine ⟨⟨h.mode_eq, h.bound_eq, ?_, h.partition.put hid r⟩, ?_⟩
          · exact h.shows.put h.partition.nodup_rows hget (h.partition.lt_length hid) r
          · simp only [Editor.update, List.map_cons, List.map_nil, Event.placed, hi]

theorem refresh (h : Simulates e s) (catalog : Catalog) (x : EntityView) (force : Bool) :
    Change.Matches e.rows (e.refresh catalog x force)
      (s.refresh catalog e.config.bssidPolicy x force) := by
  rw [Editor.refresh, PlainEditor.refresh, h.bound_eq]
  split
  · exact h.unchanged
  · have hreleased := foldl_release_spec e.config.rowCacheLimit h.partition
    obtain ⟨hpart, hshows⟩ :=
      rowsFor_spec catalog e.config.bssidPolicy x.staged.conditions hreleased
    simp only [Editor.load]
    generalize Editor.rowsFor catalog e.config.bssidPolicy
      (e.rows.foldl (RowPool.release e.config.rowCacheLimit) e.pool) x.staged.conditions = loaded
      at hpart hshows ⊢
    generalize (if x.staged.conditions.isEmpty then [Row.blank] else
      x.staged.conditions.map fun c => Row.blank.bind catalog e.config.bssidPolicy c) = rs
      at hshows ⊢
    have hloaded : Simulates
        { e with
          mode := x.staged.mode
          pool := loaded.2
          rows := loaded.1
          bound := some (x.kind, x.name) }
        ⟨x.staged.mode, rs, some (x.kind, x.name)⟩ := ⟨rfl, rfl, hshows, hpart⟩
    refine ⟨hloaded.syncRemoveControls, ?_⟩
    rw [h.isMultiRow_eq, hloaded.isMultiRow_eq]
    split <;> rfl

theorem perform (h : Simulates e s) (catalog : Catalog) (edit : Edit) :
    Change.Matches e.rows (e.perform catalog edit)
      (s.perform catalog e.config.bssidPolicy (edit.placed e.rows)) := by
  cases edit with
  | addAfter after => exact h.addAfter after
  | remove id => exact h.remove id
  | setField id field => exact h.edit id _
  | setOperator id op => exact h.edit id _
  | setValue id value => exact h.edit id _
  | setMode mode => exact ⟨⟨rfl, h.bound_eq, h.shows, h.partition⟩, rfl⟩
  | refresh x force => exact h.refresh catalog x force

end Simulates

/-! ## Runs -/

theorem simulates_new (config : EditorConfig) :
    Simulates (Editor.new config) PlainEditor.new := by
  obtain ⟨hpart, hblank, -⟩ := alloc_spec Partition.empty
  exact ⟨rfl, rfl, Shows.cons hblank rfl, hpart⟩

/-- No operation reconfigures an editor. -/
theorem perform_config (catalog : Catalog) (e : Editor) (edit : Edit) :
    (e.perform catalog edit).editor.config = e.config := by
  have hedit (id : RowId) (f : Row → Option Row) : (e.edit id f).editor.config = e.config := by
    rw [Editor.edit]
    split <;> rfl
  cases edit with
  | addAfter after => rfl
  | remove id =>
      simp only [Editor.perform, Editor.remove]
      split
      · split <;> rfl
      · rfl
  | setField id field => exact hedit id _
  | setOperator id op => exact hedit id _
  | setValue id value => exact hedit id _
  | setMode mode => rfl
  | refresh x force =>
      simp only [Editor.perform, Editor.refresh]
      split <;> rfl

/-- What is seen of an editor is what is seen of the plain editor. -/
theorem sights_eq {e : Editor} {s : PlainEditor} (h : Simulates e s)
    (steps : List (Catalog × Edit)) :
    e.sights steps = s.sights e.config.bssidPolicy (e.placed steps) := by
  induction steps generalizing e s with
  | nil => rfl
  | cons step steps ih =>
      obtain ⟨catalog, edit⟩ := step
      obtain ⟨hnext, hevents⟩ := h.perform catalog edit
      have hrest := ih hnext
      rw [perform_config] at hrest
      simp only [Editor.sights, Editor.placed, PlainEditor.sights]
      rw [hnext.mode_eq, hnext.shown_eq, hevents, hrest]

/-! ## The limit of the cache -/

/-- A handle can be replaced by one of another editor that has the same place, or none. -/
theorem exists_idxOf?_eq {e e' : Editor} {s : PlainEditor} (h : Simulates e s)
    (h' : Simulates e' s) (id : RowId) : ∃ id', e'.rows.idxOf? id' = e.rows.idxOf? id := by
  cases hi : e.rows.idxOf? id with
  | none =>
      -- A slot that is not there yet is not on display.
      refine ⟨⟨e'.pool.slots.length⟩, List.idxOf?_eq_none_iff.2 fun hmem => ?_⟩
      exact Nat.lt_irrefl _ (h'.partition.lt_length hmem)
  | some i =>
      have hlt : i < e'.rows.length := by
        rw [h'.shows.length_eq, ← h.shows.length_eq]
        exact (List.getElem?_eq_some_iff.1 (getElem?_of_idxOf? hi)).1
      exact ⟨e'.rows[i], idxOf?_of_nodup h'.partition.nodup_rows (List.getElem?_eq_getElem hlt)⟩

theorem exists_placed_edit {e e' : Editor} {s : PlainEditor} (h : Simulates e s)
    (h' : Simulates e' s) (edit : Edit) :
    ∃ edit' : Edit, edit'.placed e'.rows = edit.placed e.rows := by
  have hid := exists_idxOf?_eq h h'
  cases edit with
  | addAfter after =>
      obtain ⟨after', hafter⟩ := hid after
      exact ⟨.addAfter after', congrArg PlainEdit.addAfter hafter⟩
  | remove id =>
      obtain ⟨id', heq⟩ := hid id
      exact ⟨.remove id', congrArg PlainEdit.remove heq⟩
  | setField id field =>
      obtain ⟨id', heq⟩ := hid id
      exact ⟨.setField id' field, congrArg (PlainEdit.setField · field) heq⟩
  | setOperator id op =>
      obtain ⟨id', heq⟩ := hid id
      exact ⟨.setOperator id' op, congrArg (PlainEdit.setOperator · op) heq⟩
  | setValue id value =>
      obtain ⟨id', heq⟩ := hid id
      exact ⟨.setValue id' value, congrArg (PlainEdit.setValue · value) heq⟩
  | setMode mode => exact ⟨.setMode mode, rfl⟩
  | refresh x force => exact ⟨.refresh x force, rfl⟩

theorem exists_placed {e e' : Editor} {s : PlainEditor} (h : Simulates e s) (h' : Simulates e' s)
    (hpolicy : e'.config.bssidPolicy = e.config.bssidPolicy) (steps : List (Catalog × Edit)) :
    ∃ steps', e'.placed steps' = e.placed steps := by
  induction steps generalizing e e' s with
  | nil => exact ⟨[], rfl⟩
  | cons step steps ih =>
      obtain ⟨catalog, edit⟩ := step
      obtain ⟨edit', hedit⟩ := exists_placed_edit h h' edit
      -- Both operations are the same for the plain editor, so one plain editor stands for both.
      have hnext := (h.perform catalog edit).simulates
      have hnext' := (h'.perform catalog edit').simulates
      rw [hpolicy, hedit] at hnext'
      obtain ⟨rest, hrest⟩ := ih hnext hnext' (by rw [perform_config, perform_config, hpolicy])
      refine ⟨(catalog, edit') :: rest, ?_⟩
      rw [Editor.placed, Editor.placed, hedit, hrest]

theorem indistinguishable_of_simulates {e e' : Editor} {s : PlainEditor} (h : Simulates e s)
    (h' : Simulates e' s) (hpolicy : e'.config.bssidPolicy = e.config.bssidPolicy) :
    e.Indistinguishable e' := by
  intro steps
  refine ⟨exists_placed h h' hpolicy steps, fun steps' hplaced => ?_⟩
  rw [sights_eq h, sights_eq h', hpolicy, hplaced]

/-- **An editor refines the plain editor, and its cache cannot be seen.** Over every run, with every
    configuration and whatever the catalog says by then, the rows on display and the events are
    those of an editor that makes a fresh row whenever one is needed. Editors that differ only in
    how many released rows they keep cannot be told apart. -/
theorem editor_refines_plain (config : EditorConfig) :
    (∀ steps, (Editor.new config).sights steps =
      PlainEditor.new.sights config.bssidPolicy ((Editor.new config).placed steps)) ∧
    ∀ limit, (Editor.new config).Indistinguishable
      (Editor.new { config with rowCacheLimit := limit }) :=
  ⟨sights_eq (simulates_new config), fun _ =>
    indistinguishable_of_simulates (simulates_new config) (simulates_new _) rfl⟩

/-- A row that shows a network and a blank one are removed, and one of the two slots is used again
    for the row with the given handle. -/
def refillSteps (refilled : RowId) : List (Catalog × Edit) :=
  let catalog : Catalog := { knownNetworks := ["home"] }
  [.addAfter ⟨0⟩, .setField ⟨1⟩ .essid, .setValue ⟨1⟩ "home", .addAfter ⟨1⟩, .remove ⟨1⟩,
    .remove ⟨2⟩, .addAfter ⟨0⟩, .setField refilled .essid].map (catalog, ·)

/-- The record of the first row is used again if it was kept, else the slot of the second. -/
theorem editor_refines_plain_refill :
    (Editor.new { rowCacheLimit := 0 }).sights (refillSteps ⟨2⟩) =
      (Editor.new { rowCacheLimit := 1 }).sights (refillSteps ⟨1⟩) :=
  ((editor_refines_plain { rowCacheLimit := 1 }).2 0 (refillSteps ⟨1⟩)).2 (refillSteps ⟨2⟩)
    (by decide)

end NetActivation
