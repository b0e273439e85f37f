import NetActivation.Editor.Edit
import NetActivation.Proofs.EditorRefinement

set_option autoImplicit false

/-! # Where rows come from

A row that is shown after an operation is a blank one, or one bound to a condition that was loaded,
or it was shown before under the same handle and at most edited. `RowOrigin` lists these cases, and
`rowOrigin_perform` says that there are no others, together with what the row then holds of the last
loading. An invariant of rows is proved by the cases of `RowOrigin`, without a look at the pool. -/

namespace NetActivation

open RowPool

/-- Where a row that is shown after an operation comes from, and what it holds of the last loading.
    `old` is the row that was shown under its handle before with what that held, if there was
    one. -/
inductive RowOrigin (catalog : Catalog) (policy : BssidPolicy) (edit : Edit)
    (old : Option (Row × Option Condition)) : Row → Option Condition → Prop where
  /-- it is a new one -/
  | blank : RowOrigin catalog policy edit old Row.blank none
  /-- a condition was loaded into it -/
  | bound {x : EntityView} {force : Bool} {c : Condition} (hedit : edit = .refresh x force)
      (hc : c ∈ x.staged.conditions) :
      RowOrigin catalog policy edit old (Row.blank.bind catalog policy c) (some c)
  /-- it is the one that was shown -/
  | kept {r : Row} {loaded : Option Condition} (hold : old = some (r, loaded)) :
      RowOrigin catalog policy edit old r loaded
  /-- another field was chosen -/
  | field {r r' : Row} {loaded : Option Condition} {field : Field} (hold : old = some (r, loaded))
      (hr : r.chooseField? catalog policy field = some r') :
      RowOrigin catalog policy edit old r' loaded
  /-- another operator was chosen -/
  | operator {r r' : Row} {loaded : Option Condition} {op : Operator}
      (hold : old = some (r, loaded)) (hr : r.chooseOperator? op = some r') :
      RowOrigin catalog policy edit old r' loaded
  /-- a value was entered -/
  | value {r r' : Row} {loaded : Option Condition} {value : String}
      (hold : old = some (r, loaded)) (hr : r.enterValue? value = some r') :
      RowOrigin catalog policy edit old r' loaded
  /-- whether it can be removed was set last -/
  | controls {r : Row} {loaded : Option Condition} (enabled : Bool)
      (h : RowOrigin catalog policy edit old r loaded) :
      RowOrigin catalog policy edit old { r with removeEnabled := enabled } loaded

namespace Editor

/-! ## Rows under handles -/

variable {e : Editor}

theorem row?_of_mem {id : RowId} (hid : id ∈ e.rows) : e.row? id = e.pool.get? id := if_pos hid

theorem row?_of_not_mem {id : RowId} (hid : id ∉ e.rows) : e.row? id = none := if_neg hid

theorem mem_rows_of_row? {id : RowId} {r : Row} (h : e.row? id = some r) : id ∈ e.rows := by
  by_contra hid
  rw [row?_of_not_mem hid] at h
  exact absurd h (by simp)

theorem row?_syncRemoveControls (e : Editor) (id : RowId) :
    e.syncRemoveControls.row? id =
      (e.row? id).map fun r => { r with removeEnabled := e.isMultiRow } := by
  have hrows : e.syncRemoveControls.rows = e.rows := rfl
  by_cases hid : id ∈ e.rows
  · rw [row?_of_mem hid, row?_of_mem (hrows ▸ hid), syncRemoveControls, get?_modifyAll, if_pos hid]
  · rw [row?_of_not_mem hid, row?_of_not_mem (hrows ▸ hid), Option.map_none]

/-- A row that is handed out and put on display is blank, and the others stay as they are. -/
theorem row?_insert {rows : List RowId} (h : e.pool.Partition e.rows)
    (hrows : ∀ k, k ∈ rows ↔ k = e.pool.alloc.1 ∨ k ∈ e.rows) (id : RowId) :
    ({ e with pool := e.pool.alloc.2, rows } : Editor).row? id =
      if id = e.pool.alloc.1 then some Row.blank else e.row? id := by
  obtain ⟨-, hblank, hsame⟩ := alloc_spec h
  split
  · next hnew =>
      rw [hnew, row?_of_mem ((hrows _).2 (Or.inl rfl)), hblank]
  · next hnew =>
      by_cases hid : id ∈ e.rows
      · rw [row?_of_mem ((hrows id).2 (Or.inr hid)), row?_of_mem hid, hsame id hid]
      · have hnot : id ∉ rows := by
          rw [hrows]
          exact not_or.2 ⟨hnew, hid⟩
        rw [row?_of_not_mem hnot, row?_of_not_mem hid]

/-- A row that is taken off display is gone, and the others stay as they are. -/
theorem row?_erase (h : e.pool.Partition e.rows) {id : RowId} (hid : id ∈ e.rows) (k : RowId) :
    ({ e with
        pool := e.pool.release e.config.rowCacheLimit id
        rows := e.rows.erase id } : Editor).row? k =
      if k = id then none else e.row? k := by
  obtain ⟨-, hsame⟩ :=
    release_spec e.config.rowCacheLimit (h.perm (List.perm_cons_erase hid))
  have hmem := h.nodup_rows.mem_erase_iff (a := k) (b := id)
  split
  · next hk =>
      exact row?_of_not_mem fun hleft => (hmem.1 hleft).1 hk
  · next hk =>
      by_cases hshown : k ∈ e.rows
      · have hleft := hmem.2 ⟨hk, hshown⟩
        rw [row?_of_mem hshown, row?_of_mem hleft, hsame k hleft]
      · rw [row?_of_not_mem hshown, row?_of_not_mem fun hleft => hshown (hmem.1 hleft).2]

/-- A row that is put in the place of another is shown there, and the others stay as they are. -/
theorem row?_update (h : e.pool.Partition e.rows) {id : RowId} (hid : id ∈ e.rows) (r : Row)
    (k : RowId) : (e.update id r).editor.row? k = if k = id then some r else e.row? k := by
  have hrows : (e.update id r).editor.rows = e.rows := rfl
  split
  · next hk =>
      rw [hk, row?_of_mem (hrows ▸ hid), update, get?_put_self (h.lt_length hid)]
  · next hk =>
      by_cases hshown : k ∈ e.rows
      · rw [row?_of_mem hshown, row?_of_mem (hrows ▸ hshown), update, get?_put_of_ne hk]
      · rw [row?_of_not_mem hshown, row?_of_not_mem (hrows ▸ hshown)]

/-! ## The origin of rows, operation by operation -/

variable {s : PlainEditor} {catalog : Catalog} {policy : BssidPolicy} {id : RowId} {r : Row}

theorem rowOrigin_addAfter (h : Simulates e s) (loaded : RowId → Option Condition) {after : RowId}
    (hr : (e.addAfter after).editor.row? id = some r) :
    RowOrigin catalog policy (.addAfter after) ((e.row? id).map (·, loaded id)) r
      ((e.addAfter after).loaded (.addAfter after) loaded id) := by
  have hloaded : (e.addAfter after).loaded (.addAfter after) loaded id =
      if id = e.pool.alloc.1 then none else loaded id := by
    simp only [addAfter, Change.loaded]
    split <;> rfl
  rw [addAfter, row?_syncRemoveControls, Option.map_eq_some_iff] at hr
  obtain ⟨shown, hshown, rfl⟩ := hr
  rw [row?_insert h.partition
    fun k => List.mem_insertIdx (Simulates.placeAfter_le e after)] at hshown
  rw [hloaded]
  apply RowOrigin.controls
  split at hshown
  · next hnew =>
      rw [if_pos hnew, ← Option.some.inj hshown]
      exact .blank
  · next hold =>
      rw [if_neg hold]
      exact .kept (by rw [hshown, Option.map_some])

theorem rowOrigin_remove (h : Simulates e s) (loaded : RowId → Option Condition)
    {removed : RowId} (hr : (e.remove removed).editor.row? id = some r) :
    RowOrigin catalog policy (.remove removed) ((e.row? id).map (·, loaded id)) r
      ((e.remove removed).loaded (.remove removed) loaded id) := by
  by_cases hmem : removed ∈ e.rows
  · by_cases hempty : (e.rows.erase removed).isEmpty
    · -- The only row was removed, so the one that is shown is its substitute.
      have herase := (release_spec e.config.rowCacheLimit
        (h.partition.perm (List.perm_cons_erase hmem))).1
      rw [List.isEmpty_iff.1 hempty] at herase
      simp only [remove, if_pos hmem, if_pos hempty] at hr ⊢
      rw [row?_syncRemoveControls, Option.map_eq_some_iff] at hr
      obtain ⟨shown, hshown, rfl⟩ := hr
      have hid := mem_rows_of_row? hshown
      rw [row?_of_mem hid, List.mem_singleton.1 hid, (alloc_spec herase).2.1] at hshown
      simp only [Change.loaded, List.foldl_cons, List.foldl_nil, Event.loaded,
        if_pos (List.mem_singleton.1 hid)]
      rw [← Option.some.inj hshown]
      exact .controls _ .blank
    · have hloaded : (e.remove removed).loaded (.remove removed) loaded = loaded := by
        simp only [remove, if_pos hmem, if_neg hempty, Change.loaded]
        split <;> rfl
      rw [hloaded]
      simp only [remove, if_pos hmem, if_neg hempty] at hr
      rw [row?_syncRemoveControls, Option.map_eq_some_iff] at hr
      obtain ⟨shown, hshown, rfl⟩ := hr
      rw [row?_erase h.partition hmem] at hshown
      split at hshown
      · exact absurd hshown (by simp)
      · exact .controls _ (.kept (by rw [hshown, Option.map_some]))
  · simp only [remove, if_neg hmem] at hr ⊢
    exact .kept (by rw [hr]; rfl)

/-- An edited row has the origin that the edit gives it. -/
theorem rowOrigin_edit (h : Simulates e s) (loaded : RowId → Option Condition) {edit : Edit}
    {edited : RowId} {f : Row → Option Row}
    (hf : ∀ {old : Option (Row × Option Condition)} {r r' : Row} {l : Option Condition},
      old = some (r, l) → f r = some r' → RowOrigin catalog policy edit old r' l)
    (hr : (e.edit edited f).editor.row? id = some r) :
    RowOrigin catalog policy edit ((e.row? id).map (·, loaded id)) r
      ((e.edit edited f).loaded edit loaded id) := by
  rw [Editor.edit] at hr ⊢
  split at hr
  · next r' hr' =>
      obtain ⟨old, hold, hfold⟩ := Option.bind_eq_some_iff.1 hr'
      have hloaded : (e.update edited r').loaded edit loaded = loaded := rfl
      rw [hloaded]
      rw [row?_update h.partition (mem_rows_of_row? hold)] at hr
      split at hr
      · next hid =>
          rw [hid, hold, Option.map_some, ← Option.some.inj hr]
          exact hf rfl hfold
      · rw [hr]
        exact .kept rfl
  · have hloaded : e.unchanged.loaded edit loaded = loaded := rfl
    have hsame : e.row? id = some r := hr
    rw [hloaded, hsame]
    exact .kept rfl

theorem rowOrigin_load (h : Simulates e s) (loaded : RowId → Option Condition) {x : EntityView}
    {force : Bool} (hr : (e.load catalog x).editor.row? id = some r) :
    RowOrigin catalog e.config.bssidPolicy (.refresh x force) ((e.row? id).map (·, loaded id)) r
      ((e.load catalog x).loaded (.refresh x force) loaded id) := by
  have hsim := (h.refresh catalog x true).simulates
  have hid := mem_rows_of_row? hr
  obtain ⟨i, hi⟩ : ∃ i, (e.load catalog x).editor.rows.idxOf? id = some i := by
    obtain ⟨i, hlt, hget⟩ := List.getElem_of_mem hid
    exact ⟨i, idxOf?_of_nodup hsim.partition.nodup_rows (List.getElem?_eq_some_iff.2 ⟨hlt, hget⟩)⟩
  have hloaded : (e.load catalog x).loaded (.refresh x force) loaded id =
      x.staged.conditions[i]? := by
    have hfold : (e.load catalog x).loaded (.refresh x force) loaded id =
        ((e.load catalog x).editor.rows.idxOf? id).bind (x.staged.conditions[·]?) := by
      simp only [load, Change.loaded]
      split <;> rfl
    rw [hfold, hi, Option.bind_some]
  have hrow : (e.load catalog x).editor.row? id = _ := hsim.row?_eq hi
  rw [hloaded]
  rw [hr] at hrow
  have hplain : (s.refresh catalog e.config.bssidPolicy x true).editor.rows =
    PlainEditor.withControls (if x.staged.conditions.isEmpty then [Row.blank] else
        x.staged.conditions.map fun c => Row.blank.bind catalog e.config.bssidPolicy c) := rfl
  rw [hplain, PlainEditor.withControls, List.getElem?_map, eq_comm, Option.map_eq_some_iff] at hrow
  obtain ⟨shown, hshown, rfl⟩ := hrow
  apply RowOrigin.controls
  split at hshown
  · next hempty =>
      rw [List.isEmpty_iff.1 hempty, List.getElem?_nil]
      have hblank := List.mem_singleton.1 (List.mem_of_getElem? hshown)
      rw [hblank]
      exact .blank
  · rw [List.getElem?_map, Option.map_eq_some_iff] at hshown
    obtain ⟨c, hc, rfl⟩ := hshown
    rw [hc]
    exact .bound rfl (List.mem_of_getElem? hc)

/-- **Every row that is shown after an operation has an origin.** -/
theorem rowOrigin_perform (h : Simulates e s) (loaded : RowId → Option Condition) {edit : Edit}
    (hr : (e.perform catalog edit).editor.row? id = some r) :
    RowOrigin catalog e.config.bssidPolicy edit ((e.row? id).map (·, loaded id)) r
      ((e.perform catalog edit).loaded edit loaded id) := by
  cases edit with
  | addAfter after => exact rowOrigin_addAfter h loaded hr
  | remove removed => exact rowOrigin_remove h loaded hr
  | setField edited field => exact rowOrigin_edit h loaded .field hr
  | setOperator edited op => exact rowOrigin_edit h loaded .operator hr
  | setValue edited value => exact rowOrigin_edit h loaded .value hr
  | setMode mode =>
      have hsame : e.row? id = some r := hr
      rw [hsame]
      exact .kept rfl
  | refresh x force =>
      simp only [perform, refresh] at hr ⊢
      split at hr
      · next hskip =>
          have hsame : e.row? id = some r := hr
          rw [if_pos hskip, hsame]
          exact .kept rfl
      · next hload =>
          rw [if_neg hload]
          exact rowOrigin_load h loaded hr

end Editor

end NetActivation
