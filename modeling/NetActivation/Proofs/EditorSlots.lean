import NetActivation.Proofs.SlotBounds

set_option autoImplicit false

/-! # The rows and the slots of an editor over whole runs

Whatever is done to an editor, it shows a row at least, its rows can be removed exactly if there are
several, and every slot of its pool is in one of three hands: on display, kept, or vacant. There are
as many slots as rows were ever shown at once. What concerns the display is proved of the plain
editor and carried over by `Simulates`; what concerns the slots follows from `Partition`. -/

namespace NetActivation

/-! ## The display -/

namespace Row

theorem removeEnabled_of_chooseField? {catalog : Catalog} {policy : BssidPolicy} {field : Field}
    {r r' : Row} (h : r.chooseField? catalog policy field = some r') :
    r'.removeEnabled = r.removeEnabled := by
  obtain ⟨-, rfl⟩ := chooseField?_eq_some_iff.1 h
  rfl

theorem removeEnabled_of_chooseOperator? {op : Operator} {r r' : Row}
    (h : r.chooseOperator? op = some r') : r'.removeEnabled = r.removeEnabled := by
  obtain ⟨-, rfl⟩ := chooseOperator?_eq_some_iff.1 h
  rfl

theorem removeEnabled_of_enterValue? {value : String} {r r' : Row}
    (h : r.enterValue? value = some r') : r'.removeEnabled = r.removeEnabled := by
  obtain ⟨-, rfl⟩ := enterValue?_eq_some_iff.1 h
  rfl

end Row

namespace PlainEditor

/-- A row at least is shown, and rows can be removed exactly if there are several. -/
structure Floored (s : PlainEditor) : Prop where
  rows_ne_nil : s.rows ≠ []
  removeEnabled_eq : ∀ r ∈ s.rows, r.removeEnabled = decide (1 < s.rows.length)

theorem floored_withControls (mode : Mode) (bound : Option (EntityKind × String)) {rows : List Row}
    (h : rows ≠ []) : Floored ⟨mode, withControls rows, bound⟩ where
  rows_ne_nil := by
    rw [withControls, Ne, List.map_eq_nil_iff]
    exact h
  removeEnabled_eq r hr := by
    obtain ⟨old, -, rfl⟩ := List.mem_map.1 hr
    rw [withControls, List.length_map]

theorem floored_new : Floored new where
  rows_ne_nil := List.cons_ne_nil _ _
  removeEnabled_eq r hr := by
    rw [List.mem_singleton.1 hr]
    rfl

theorem floored_addAfter {s : PlainEditor} (h : s.Floored) (after : Option Nat) :
    (s.addAfter after).editor.Floored := by
  refine floored_withControls _ _ ?_
  have hrows := List.length_pos_iff.2 h.rows_ne_nil
  rw [← List.length_pos_iff, List.length_insertIdx]
  split <;> omega

theorem floored_remove {s : PlainEditor} (h : s.Floored) (place : Option Nat) :
    (s.remove place).editor.Floored := by
  cases place with
  | none => exact h
  | some i =>
      simp only [remove]
      split
      · exact floored_withControls _ _ (List.cons_ne_nil _ _)
      · next hempty =>
          rw [List.isEmpty_iff] at hempty
          exact floored_withControls _ _ hempty

theorem floored_edit {s : PlainEditor} (h : s.Floored) (place : Option Nat)
    {f : Row → Option Row} (hf : ∀ r r', f r = some r' → r'.removeEnabled = r.removeEnabled) :
    (s.edit f place).editor.Floored := by
  cases place with
  | none => exact h
  | some i =>
      simp only [edit]
      split
      · next r' hr' =>
          obtain ⟨r, hr, hfr⟩ := Option.bind_eq_some_iff.1 hr'
          refine ⟨?_, ?_⟩
          · rw [Ne, List.set_eq_nil_iff]
            exact h.rows_ne_nil
          · intro k hk
            rw [List.length_set]
            rcases List.mem_or_eq_of_mem_set hk with hold | rfl
            · exact h.removeEnabled_eq k hold
            · rw [hf r k hfr]
              exact h.removeEnabled_eq r (List.mem_of_getElem? hr)
      · exact h

theorem floored_refresh {s : PlainEditor} (h : s.Floored) (catalog : Catalog)
    (policy : BssidPolicy) (x : EntityView) (force : Bool) :
    (s.refresh catalog policy x force).editor.Floored := by
  rw [refresh]
  split
  · exact h
  · refine floored_withControls _ _ ?_
    split
    · exact List.cons_ne_nil _ _
    · next hempty =>
        rw [List.isEmpty_iff] at hempty
        rw [Ne, List.map_eq_nil_iff]
        exact hempty

theorem floored_perform {s : PlainEditor} (h : s.Floored) (catalog : Catalog)
    (policy : BssidPolicy) (edit : PlainEdit) : (s.perform catalog policy edit).editor.Floored := by
  cases edit with
  | addAfter after => exact floored_addAfter h after
  | remove place => exact floored_remove h place
  | setField place field =>
      exact floored_edit h place fun _ _ => Row.removeEnabled_of_chooseField?
  | setOperator place op =>
      exact floored_edit h place fun _ _ => Row.removeEnabled_of_chooseOperator?
  | setValue place value =>
      exact floored_edit h place fun _ _ => Row.removeEnabled_of_enterValue?
  | setMode mode => exact ⟨h.rows_ne_nil, h.removeEnabled_eq⟩
  | refresh x force => exact floored_refresh h catalog policy x force

end PlainEditor

/-! ## Runs -/

namespace Editor

/-- After a run an editor still shows what some plain editor shows. -/
theorem exists_simulates_run {e : Editor} {s : PlainEditor} (h : Simulates e s) (hs : s.Floored)
    (steps : List (Catalog × Edit)) : ∃ s', Simulates (e.run steps) s' ∧ s'.Floored := by
  induction steps generalizing e s with
  | nil => exact ⟨s, h, hs⟩
  | cons step steps ih =>
      obtain ⟨catalog, edit⟩ := step
      exact ih (h.perform catalog edit).simulates
        (PlainEditor.floored_perform hs catalog e.config.bssidPolicy _)

/-- Whatever was done to a new editor, it shows what some plain editor shows. -/
theorem exists_simulates (config : EditorConfig) (steps : List (Catalog × Edit)) :
    ∃ s, Simulates ((new config).run steps) s ∧ s.Floored :=
  exists_simulates_run (simulates_new config) PlainEditor.floored_new steps

theorem Reachable.exists_simulates {e : Editor} (h : e.Reachable) :
    ∃ s, Simulates e s ∧ s.Floored := by
  obtain ⟨config, steps, rfl⟩ := h
  exact Editor.exists_simulates config steps

theorem run_config (e : Editor) (steps : List (Catalog × Edit)) :
    (e.run steps).config = e.config := by
  induction steps generalizing e with
  | nil => rfl
  | cons step steps ih =>
      obtain ⟨catalog, edit⟩ := step
      rw [run, ih, perform_config]

theorem rows_length_le_peak (e : Editor) (steps : List (Catalog × Edit)) :
    e.rows.length ≤ e.peak steps := by
  cases steps with
  | nil => exact Nat.le_refl _
  | cons step steps => exact Nat.le_max_left _ _

theorem peak_append (e : Editor) (before after : List (Catalog × Edit)) :
    e.peak (before ++ after) = max (e.peak before) ((e.run before).peak after) := by
  induction before generalizing e with
  | nil => exact (Nat.max_eq_right (rows_length_le_peak e after)).symm
  | cons step before ih =>
      obtain ⟨catalog, edit⟩ := step
      simp only [List.cons_append, peak, run, ih, Nat.max_assoc]

/-- A run keeps within the pool as each of its operations does. -/
theorem bounded_run {e : Editor} {s : PlainEditor} (h : Simulates e s)
    (steps : List (Catalog × Edit)) :
    e.run? steps = some (e.run steps) ∧
      (e.run steps).pool.slots.length = max e.pool.slots.length (e.peak steps) ∧
      (e.pool.cache.length ≤ e.config.rowCacheLimit →
        (e.run steps).pool.cache.length ≤ e.config.rowCacheLimit) := by
  induction steps generalizing e s with
  | nil =>
      exact ⟨rfl, (Nat.max_eq_left h.partition.rows_length_le).symm, fun hle => hle⟩
  | cons step steps ih =>
      obtain ⟨catalog, edit⟩ := step
      have hrows := h.partition.rows_length_le
      have hop := bounded_perform h.partition catalog edit
      obtain ⟨hguarded, hslots, hcache⟩ := ih (h.perform catalog edit).simulates
      have hpeak := rows_length_le_peak (e.perform catalog edit).editor steps
      have hop_slots := hop.slots_length
      rw [perform_config] at hcache
      refine ⟨?_, ?_, fun hle => hcache (hop.cache_length_le hle)⟩
      · rw [run?, hop.guarded_eq, Option.bind_some, hguarded, run]
      · simp only [run, peak]
        omega

/-! ## Slots in order -/

/-- The slots of an editor are in order, `peak` being the largest number of rows it ever showed. -/
structure SlotsInOrder (e : Editor) (peak : Nat) : Prop where
  /-- no handle is on display, kept or vacant twice, or in two of these hands -/
  nodup : (e.rows ++ (e.pool.cache ++ e.pool.vacant)).Nodup
  /-- the handles in these hands are the numbers of the slots -/
  mem_iff : ∀ id, id ∈ e.rows ++ (e.pool.cache ++ e.pool.vacant) ↔ id.index < e.pool.slots.length
  /-- exactly the vacant slots are empty -/
  empty_iff : ∀ id, e.pool.slots[id.index]? = some none ↔ id ∈ e.pool.vacant
  /-- no more records are kept than the limit allows -/
  cache_length_le : e.pool.cache.length ≤ e.config.rowCacheLimit
  /-- a row at least is shown -/
  rows_ne_nil : e.rows ≠ []
  /-- a row that is shown can be removed exactly if several are -/
  removeEnabled_iff : ∀ id ∈ e.rows,
    ∃ r, e.row? id = some r ∧ (r.removeEnabled = true ↔ 1 < e.rows.length)
  /-- no slot was made without need -/
  slots_length : e.pool.slots.length = peak

/-- The slots of an editor are in order after every run. -/
theorem slotsInOrder_run (config : EditorConfig) (steps : List (Catalog × Edit)) :
    ((new config).run steps).SlotsInOrder ((new config).peak steps) := by
  obtain ⟨s, hsim, hfloored⟩ := exists_simulates config steps
  obtain ⟨-, hslots, hcache⟩ := bounded_run (simulates_new config) steps
  have hpart := hsim.partition
  refine ⟨hpart.nodup, hpart.mem_iff, ?_, ?_, ?_, ?_, ?_⟩
  · intro id
    by_cases hid : id.index < ((new config).run steps).pool.slots.length
    · rw [← hpart.get?_eq_none_iff id hid, RowPool.get?, List.getElem?_eq_getElem hid]
      simp
    · have hnot : id ∉ ((new config).run steps).pool.vacant := fun hvacant =>
        hid ((hpart.mem_iff id).1 (by simp [hvacant]))
      rw [List.getElem?_eq_none (Nat.le_of_not_lt hid)]
      simp [hnot]
  · rw [run_config]
    exact hcache (Nat.zero_le _)
  · rw [Ne, ← List.isEmpty_iff, hsim.shows.isEmpty_eq, List.isEmpty_iff]
    exact hfloored.rows_ne_nil
  · intro id hid
    obtain ⟨i, hi, hget⟩ := List.getElem_of_mem hid
    have hplace := idxOf?_of_nodup hpart.nodup_rows
      (List.getElem?_eq_some_iff.2 ⟨hi, hget⟩)
    have hlt : i < s.rows.length := by rwa [← hsim.shows.length_eq]
    refine ⟨s.rows[i], ?_, ?_⟩
    · rw [hsim.row?_eq hplace, List.getElem?_eq_getElem hlt]
    · rw [hfloored.removeEnabled_eq _ (List.getElem_mem hlt), hsim.shows.length_eq]
      exact decide_eq_true_iff
  · -- A new editor has one slot and shows one row.
    rw [hslots]
    exact Nat.max_eq_right (rows_length_le_peak (new config) steps)

/-- A handle that is on display at some time of a run stays below the largest number of rows that
    are shown during the run. -/
theorem index_lt_peak (config : EditorConfig) (steps : List (Catalog × Edit)) (k : Nat)
    {id : RowId} (hid : id ∈ ((new config).run (steps.take k)).rows) :
    id.index < (new config).peak steps := by
  have horder := slotsInOrder_run config (steps.take k)
  have hlt : id.index < (new config).peak (steps.take k) := by
    rw [← horder.slots_length, ← horder.mem_iff]
    exact List.mem_append_left _ hid
  rw [← List.take_append_drop k steps, peak_append]
  exact Nat.lt_of_lt_of_le hlt (Nat.le_max_left _ _)

/-- **No slot is leaked, shared or missed, and a row is always shown.** After every run of a new
    editor, whatever the limit of its cache, its slots are in order: as many as rows were ever shown
    at once, each of them on display, kept or vacant. So no handle on display at any time reaches
    that number, and the operations, guarded against writes beside the slots, do not fail. -/
theorem slots_in_order (config : EditorConfig) (steps : List (Catalog × Edit)) :
    ((new config).run steps).config = config ∧
      ((new config).run steps).SlotsInOrder ((new config).peak steps) ∧
      (∀ k, ∀ id ∈ ((new config).run (steps.take k)).rows, id.index < (new config).peak steps) ∧
      (new? config).bind (·.run? steps) = some ((new config).run steps) := by
  refine ⟨run_config _ steps, slotsInOrder_run config steps, ?_, ?_⟩
  · intro k id hid
    exact index_lt_peak config steps k hid
  · obtain ⟨hguarded, -, -⟩ := bounded_run (simulates_new config) steps
    exact hguarded

/-- Two rows are added and all three are removed, so that the one record that was kept is shown
    again and two slots are vacant. Then four conditions are loaded. -/
def reloadSteps : List (Catalog × Edit) :=
  let x : EntityView := ⟨.location, "work", .any, [⟨.ncu, .is, "net0"⟩, ⟨.essid, .contains, ""⟩,
    ⟨.loc, .contains, "home"⟩, ⟨.blank, .is, ""⟩]⟩
  [.addAfter ⟨0⟩, .addAfter ⟨0⟩, .remove ⟨1⟩, .remove ⟨0⟩, .remove ⟨2⟩, .refresh x false,
    .remove ⟨1⟩].map (({} : Catalog), ·)

/-- All three sources of rows serve the reload: the kept record, two vacant slots and a new slot. -/
theorem slots_in_order_reload :
    (new { rowCacheLimit := 1 }).peak reloadSteps = 4 ∧
      ((new { rowCacheLimit := 1 }).run (reloadSteps.take 6)).rows = [⟨1⟩, ⟨2⟩, ⟨0⟩, ⟨3⟩] ∧
      (((new { rowCacheLimit := 1 }).run reloadSteps).config = { rowCacheLimit := 1 } ∧
        ((new { rowCacheLimit := 1 }).run reloadSteps).SlotsInOrder
          ((new { rowCacheLimit := 1 }).peak reloadSteps) ∧
        (∀ k, ∀ id ∈ ((new { rowCacheLimit := 1 }).run (reloadSteps.take k)).rows,
          id.index < (new { rowCacheLimit := 1 }).peak reloadSteps) ∧
        (new? { rowCacheLimit := 1 }).bind (·.run? reloadSteps) =
          some ((new { rowCacheLimit := 1 }).run reloadSteps)) :=
  ⟨by decide, by decide, slots_in_order { rowCacheLimit := 1 } reloadSteps⟩

end Editor

end NetActivation
