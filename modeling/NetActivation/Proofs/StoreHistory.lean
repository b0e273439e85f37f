import Mathlib.Data.List.Induction
import NetActivation.Proofs.Lists
import NetActivation.Proofs.StoreRun
import NetActivation.Store.History

set_option autoImplicit false

/-! # Stores as ordered maps

A store keeps its entries in a list, which it searches from the front, writes over in place, and
puts back as it was where a save fails. Here that list is shown to say no more and no less than the
history of the store, in which there are no places: an entity has the set that was stored for it
last, if it was not removed since, and it comes before all that were first stored after it.

`Records` is the invariant that ties a list of entries to a history. A single change keeps it
(`Records.make`). An operation makes its change where it goes well and leaves all entries where they
were if not, which is what `Settles` says of it, so a step of a run keeps the invariant
(`Records.perform`), and so does a run (`Records.after`). All that a store presents is then read off
the history. -/

namespace NetActivation

open StoreChange

/-! ## What a history says -/

namespace StoreChange

variable {history : List StoreChange} {key : EntityKind × String}

theorem isSome_since? (key : EntityKind × String) (history : List StoreChange) :
    (since? key history).isSome = (lastSet? key history).isSome := by
  induction history with
  | nil => rfl
  | cons change older ih =>
      cases change with
      | stored k set =>
          simp only [since?, lastSet?]
          split
          · rfl
          · exact ih
      | removed k =>
          simp only [since?, lastSet?]
          split
          · rfl
          · exact ih

theorem since?_lt {i : Nat} (h : since? key history = some i) : i < history.length := by
  induction history generalizing i with
  | nil => simp [since?] at h
  | cons change older ih =>
      rw [List.length_cons]
      cases change with
      | stored k set =>
          simp only [since?] at h
          split at h
          · cases hsince : since? key older with
            | none =>
                simp only [hsince, Option.getD_none, Option.some.injEq] at h
                omega
            | some j =>
                have := ih hsince
                simp only [hsince, Option.getD_some, Option.some.injEq] at h
                omega
          · have := ih h
            omega
      | removed k =>
          simp only [since?] at h
          split at h
          · exact absurd h (by simp)
          · have := ih h
            omega

/-- Changes of other entities do not matter to an entity. -/
theorem lastSet?_of_ne {change : StoreChange} (h : change.key ≠ key) :
    lastSet? key (change :: history) = lastSet? key history := by
  cases change with
  | stored k set => exact if_neg h
  | removed k => exact if_neg h

theorem since?_of_ne {change : StoreChange} (h : change.key ≠ key) :
    since? key (change :: history) = since? key history := by
  cases change with
  | stored k set => exact if_neg h
  | removed k => exact if_neg h

/-- Whatever is stored, an entity that is there came when it came. -/
theorem since?_stored {i : Nat} (h : since? key history = some i) (k : EntityKind × String)
    (set : ConditionSet) : since? key (.stored k set :: history) = some i := by
  by_cases hk : k = key
  · rw [since?, if_pos hk, h, Option.getD_some]
  · rw [since?, if_neg hk, h]

theorem inOrder_stored {k l : EntityKind × String} (h : InOrder history k l)
    (key : EntityKind × String) (set : ConditionSet) :
    InOrder (.stored key set :: history) k l := by
  obtain ⟨i, j, hi, hj, hlt⟩ := h
  exact ⟨i, j, since?_stored hi key set, since?_stored hj key set, hlt⟩

theorem inOrder_of_ne {change : StoreChange} {k l : EntityKind × String}
    (h : InOrder history k l) (hk : change.key ≠ k) (hl : change.key ≠ l) :
    InOrder (change :: history) k l := by
  obtain ⟨i, j, hi, hj, hlt⟩ := h
  exact ⟨i, j, by rw [since?_of_ne hk, hi], by rw [since?_of_ne hl, hj], hlt⟩

/-- An entity that is stored anew comes after all that are there. -/
theorem inOrder_new {k : EntityKind × String} (hk : (lastSet? k history).isSome = true)
    (hnew : lastSet? key history = none) (set : ConditionSet) :
    InOrder (.stored key set :: history) k key := by
  rw [← isSome_since?, Option.isSome_iff_exists] at hk
  obtain ⟨i, hi⟩ := hk
  have hnone : since? key history = none := by
    rw [← Option.not_isSome_iff_eq_none, isSome_since?, hnew]
    simp
  refine ⟨i, history.length, since?_stored hi key set, ?_, since?_lt hi⟩
  rw [since?, if_pos rfl, hnone, Option.getD_none]

theorem not_inOrder_self : ¬InOrder history key key := by
  rintro ⟨i, j, hi, hj, hlt⟩
  rw [hi, Option.some.injEq] at hj
  omega

end StoreChange

/-! ## Entries that record a history -/

namespace Store

/-- The entries of a store record its history: each key has the set that its entity got last, and
    the keys are in the order in which their entities came. -/
structure Records (s : Store) (history : List StoreChange) : Prop where
  set_eq : ∀ kind name,
    (s.find? kind name).map (·.set) = lastSet? (kind, name) history
  inOrder : (s.entries.map Entry.key).Pairwise (InOrder history)

variable {s : Store} {history : List StoreChange}

/-- No two entries that record a history have the same key. -/
theorem Records.nodup (h : s.Records history) : (s.entries.map Entry.key).Nodup := by
  apply h.inOrder.imp
  rintro k l hlt rfl
  exact not_inOrder_self hlt

theorem Records.isSome_find? (h : s.Records history) (kind : EntityKind) (name : String) :
    (s.find? kind name).isSome = (lastSet? (kind, name) history).isSome := by
  rw [← h.set_eq kind name, Option.isSome_map]

theorem Records.isSome_of_mem (h : s.Records history) {e : Entry} (he : e ∈ s.entries) :
    (lastSet? e.key history).isSome = true := by
  have hfound : (s.find? e.kind e.name).isSome = true :=
    List.find?_isSome.2 ⟨e, he, beq_self_eq_true e.key⟩
  rwa [h.isSome_find?] at hfound

/-! ## Changes of entries -/

/-- A store with a change made to its entries. -/
def make (s : Store) : StoreChange → Store
  | .stored (kind, name) set => (s.upsert ⟨kind, name, set⟩).2
  | .removed key => { s with entries := s.entries.eraseP (·.key == key) }

theorem find?_eq_none_iff {kind : EntityKind} {name : String} :
    s.find? kind name = none ↔ s.indexOf? kind name = none := by
  rw [indexOf?_eq_none_iff, find?, List.find?_eq_none]
  simp

/-- Another member in a place does not matter to a search that passes over both. -/
theorem find?_upsert (s : Store) (e : Entry) (kind : EntityKind) (name : String) :
    (s.upsert e).2.find? kind name =
      if e.key = (kind, name) then some e else s.find? kind name := by
  rw [upsert]
  split
  · next i hi =>
      obtain ⟨hlt, hkey, -⟩ := indexOf?_eq_some_iff.1 hi
      by_cases hsame : e.key = (kind, name)
      · obtain ⟨rfl, rfl⟩ := Prod.mk.inj hsame
        rw [if_pos hsame, ← getElem?_indexOf? (indexOf?_set hi), List.getElem?_set_self hlt]
      · rw [if_neg hsame]
        have hother : s.entries[i].key ≠ (kind, name) := fun h => hsame (hkey.symm.trans h)
        exact find?_set_of_ne (by simpa using hsame) hlt (by simpa using hother)
  · next hi =>
      have hnew := find?_eq_none_iff.2 hi
      simp only [find?, List.find?_append, List.find?_singleton, beq_iff_eq] at hnew ⊢
      by_cases hsame : e.key = (kind, name)
      · obtain ⟨rfl, rfl⟩ := Prod.mk.inj hsame
        rw [if_pos hsame, if_pos hsame, hnew, Option.none_or]
      · rw [if_neg hsame, if_neg hsame, Option.or_none]

theorem find?_removed (h : (s.entries.map Entry.key).Nodup) (key : EntityKind × String)
    (kind : EntityKind) (name : String) :
    (s.make (.removed key)).find? kind name =
      if key = (kind, name) then none else s.find? kind name := by
  simp only [make, find?, eraseP_eq_filter h, List.find?_filter]
  split
  · next hkey =>
      rw [List.find?_eq_none]
      intro e _
      simp [hkey]
  · next hkey =>
      congr 1
      funext e
      by_cases he : e.key = (kind, name)
      · simp [he, Ne.symm hkey]
      · simp [he]

/-! ## Recording a change -/

theorem Records.stored (h : s.Records history) (kind : EntityKind) (name : String)
    (set : ConditionSet) :
    (s.make (.stored (kind, name) set)).Records (.stored (kind, name) set :: history) := by
  constructor
  · intro kind' name'
    rw [make, find?_upsert, lastSet?]
    show (if (kind, name) = (kind', name') then some (⟨kind, name, set⟩ : Entry)
      else s.find? kind' name').map (·.set) = _
    split
    · rfl
    · exact h.set_eq kind' name'
  · have hold := h.inOrder.imp fun hlt => inOrder_stored hlt (kind, name) set
    rw [make, upsert]
    split
    · next i hi =>
        obtain ⟨hlt, hkey, -⟩ := indexOf?_eq_some_iff.1 hi
        rw [map_key_set hlt hkey]
        exact hold
    · next hi =>
        -- The entity is new, and so comes after all the others.
        have hnone : lastSet? (kind, name) history = none := by
          rw [← h.set_eq, find?_eq_none_iff.2 hi, Option.map_none]
        rw [List.map_append, List.pairwise_append]
        refine ⟨hold, List.pairwise_singleton _ _, ?_⟩
        intro k hk l hl
        obtain ⟨e, he, rfl⟩ := List.mem_map.1 hk
        rw [List.mem_singleton.1 hl]
        exact inOrder_new (h.isSome_of_mem he) hnone set

theorem Records.removed (h : s.Records history) (key : EntityKind × String) :
    (s.make (.removed key)).Records (.removed key :: history) := by
  constructor
  · intro kind name
    rw [find?_removed h.nodup, lastSet?]
    split
    · rfl
    · exact h.set_eq kind name
  · have hsub : ((s.entries.filter (·.key != key)).map Entry.key).Pairwise (InOrder history) :=
      h.inOrder.sublist (List.filter_sublist.map _)
    have hne : ∀ k ∈ (s.entries.filter (·.key != key)).map Entry.key, key ≠ k := by
      intro k hk
      obtain ⟨e, he, rfl⟩ := List.mem_map.1 hk
      exact (bne_iff_ne.1 (List.mem_filter.1 he).2).symm
    simp only [make, eraseP_eq_filter h.nodup]
    exact hsub.imp_of_mem fun hk hl hlt => inOrder_of_ne hlt (hne _ hk) (hne _ hl)

theorem Records.make (h : s.Records history) (change : StoreChange) :
    (s.make change).Records (change :: history) := by
  cases change with
  | stored key set => exact h.stored key.1 key.2 set
  | removed key => exact h.removed key

/-- Entries that were loaded record that they were. -/
theorem records_loaded (path : String) {es : List Entry} (h : (es.map Entry.key).Nodup) :
    (⟨path, es⟩ : Store).Records (⟨path, es⟩ : Store).loaded := by
  induction es using List.reverseRecOn with
  | nil => exact ⟨fun _ _ => rfl, List.Pairwise.nil⟩
  | append_singleton es e ih =>
      rw [List.map_append, List.nodup_append] at h
      have hnew : (⟨path, es⟩ : Store).indexOf? e.kind e.name = none := by
        rw [indexOf?_eq_none_iff]
        intro d hd hkey
        exact h.2.2 d.key (List.mem_map_of_mem hd) e.key (by simp) hkey
      have hnext := (ih h.1).stored e.kind e.name e.set
      simp only [Store.make, upsert, hnew] at hnext
      rw [loaded, List.map_append, List.reverse_append]
      exact hnext

/-! ## Operations in memory -/

section Operations

variable {σ : Type}

/-- What an operation does to a store in memory is said by its outcome: it becomes `next` if all
    went well, and stays as it was if not. -/
def Settles {ε α : Type} (s next : Store) (r : StoreRun σ ε α) : Prop :=
  r.store = if r.outcome.isOk then next else s

/-- Telling an outcome in other words, a failure as a failure, changes nothing about it. -/
theorem Settles.mapOutcome {ε ε' α β : Type} {next : Store} {r : StoreRun σ ε α}
    {f : Except ε α → Except ε' β} (h : Settles s next r)
    (hf : ∀ outcome, (f outcome).isOk = outcome.isOk) : Settles s next (r.mapOutcome f) := by
  rw [Settles, StoreRun.mapOutcome, hf]
  exact h

variable [FileSystem σ]

theorem settles_saveRun (s : Store) (disk : σ) : Settles s s (s.saveRun disk) := by
  rw [Settles, store_saveRun, ite_self]

theorem settles_putRun (s : Store) (disk : σ) (e : Entry) :
    Settles s (s.upsert e).2 (s.putRun disk e) := by
  have hstore := store_saveRun (s.upsert e).2 disk
  cases hsave : ((s.upsert e).2.saveRun disk).outcome with
  | ok _ =>
      simp only [Settles, putRun, hsave]
      exact hstore
  | error error =>
      simp only [Settles, putRun, hsave, hstore, restore_upsert]
      rfl

/-- What a store is without an entity, by the place of its entry. -/
theorem make_removed (s : Store) (kind : EntityKind) (name : String) :
    s.make (.removed (kind, name)) =
      (s.indexOf? kind name).elim s fun i => { s with entries := s.entries.eraseIdx i } := by
  simp only [make, List.eraseP_eq_eraseIdx, indexOf?]
  cases s.entries.findIdx? (·.key == (kind, name)) <;> rfl

/-- Removing an entity goes well without a save if it is not there. -/
theorem removeRun_of_not_found {s : Store} {kind : EntityKind} {name : String}
    (h : s.find? kind name = none) (disk : σ) :
    s.removeRun disk kind name = ⟨.ok false, s, disk, []⟩ := by
  rw [removeRun, h, find?_eq_none_iff.1 h]

/-- Removing an entity that is there says that it was, if the store could be saved without it. -/
theorem removeRun_of_found {s : Store} {kind : EntityKind} {name : String} {e : Entry}
    (h : s.find? kind name = some e) (disk : σ) :
    (∀ found, (s.removeRun disk kind name).outcome = .ok found → found = true) ∧
      Settles s (s.make (.removed (kind, name))) (s.removeRun disk kind name) := by
  cases hi : s.indexOf? kind name with
  | none => exact absurd (h.symm.trans (find?_eq_none_iff.2 hi)) (by simp)
  | some i =>
      have hstore := store_saveRun { s with entries := s.entries.eraseIdx i } disk
      rw [Settles, make_removed, hi, Option.elim_some]
      simp only [removeRun, hi, h]
      split
      · exact ⟨fun found hfound => (Except.ok.inj hfound).symm, hstore⟩
      · refine ⟨fun found hfound => absurd hfound (by simp), ?_⟩
        simp only [hstore, insertIdx_eraseIdx hi h]
        rfl

theorem settles_removeRun (s : Store) (disk : σ) (kind : EntityKind) (name : String) :
    Settles s (s.make (.removed (kind, name))) (s.removeRun disk kind name) := by
  cases hfind : s.find? kind name with
  | none =>
      rw [removeRun_of_not_found hfind, Settles, make_removed, find?_eq_none_iff.1 hfind,
        Option.elim_none, ite_self]
  | some e => exact (removeRun_of_found hfind disk).2

theorem settles_commitRun (x : StoredEntity σ) :
    Settles x.store (x.store.make (.stored (x.kind, x.name) x.staged)) x.commitRun := by
  rw [StoredEntity.commitRun]
  split
  · rfl
  · split
    · rfl
    · next set hset =>
        obtain ⟨rfl, -⟩ := ConditionSet.build_eq_ok_iff.1 hset
        apply (settles_putRun x.store x.disk _).mapOutcome
        intro outcome
        cases outcome <;> rfl

/-- A commit through a handle, whatever has gone through it before, is an operation on its store. -/
theorem perform_commit (x : StoredEntity σ) :
    x.store.perform x.disk (.commit x.kind x.name x.staged) =
      x.commitRun.mapOutcome (·.mapError .commit) := rfl

/-- An operation makes its change if it goes well, and none if not. -/
theorem settles_perform (s : Store) (disk : σ) (op : StoreOperation) :
    Settles s (op.change?.elim s s.make) (s.perform disk op) := by
  cases op with
  | commit kind name staged =>
      rw [perform_commit ⟨disk, s, kind, name, staged⟩]
      apply (settles_commitRun ⟨disk, s, kind, name, staged⟩).mapOutcome
      intro outcome
      cases outcome <;> rfl
  | remove kind name =>
      apply (settles_removeRun s disk kind name).mapOutcome
      intro outcome
      cases outcome <;> rfl
  | save =>
      apply (settles_saveRun s disk).mapOutcome
      intro outcome
      cases outcome <;> rfl

theorem store_perform (s : Store) (disk : σ) (op : StoreOperation) :
    (s.perform disk op).store =
      (StoreStep.change? ⟨s, disk, op, s.perform disk op⟩).elim s s.make := by
  have hsettles := settles_perform s disk op
  rw [Settles] at hsettles
  rw [hsettles, StoreStep.change?]
  cases (s.perform disk op).outcome <;> rfl

theorem Records.perform (h : s.Records history) (disk : σ) (op : StoreOperation) :
    (s.perform disk op).store.Records
      ((StoreStep.change? ⟨s, disk, op, s.perform disk op⟩).toList ++ history) := by
  rw [store_perform]
  cases StoreStep.change? ⟨s, disk, op, s.perform disk op⟩ with
  | none => exact h
  | some change => exact h.make change

/-- The entries record what happened over a whole run. -/
theorem Records.after (h : s.Records history) (disk : σ) (ops : List StoreOperation) :
    (s.after disk ops).1.Records
      (((s.trace disk ops).filterMap StoreStep.change?).reverse ++ history) := by
  induction ops generalizing s disk history with
  | nil => exact h
  | cons op ops ih =>
      have hnext := ih (h.perform disk op) (s.perform disk op).disk
      rw [trace, List.filterMap_cons]
      cases hchange : StoreStep.change? ⟨s, disk, op, s.perform disk op⟩ with
      | none =>
          rw [hchange] at hnext
          exact hnext
      | some change =>
          rw [hchange] at hnext
          rw [List.reverse_cons, List.append_assoc]
          exact hnext

theorem records_history {disk : σ} {path : String} (hopen : openAt disk path = .ok s)
    (ops : List StoreOperation) : (s.after disk ops).1.Records (s.history disk ops) :=
  (records_loaded s.path (openAt_eq_ok hopen).2.1).after disk ops

end Operations

/-! ## What a store presents -/

theorem mem_names_iff (s : Store) (kind : EntityKind) (name : String) :
    name ∈ s.names kind ↔ (s.find? kind name).isSome = true := by
  rw [names, List.mem_map, find?, List.find?_isSome]
  constructor
  · rintro ⟨e, he, rfl⟩
    obtain ⟨he, hkind⟩ := List.mem_filter.1 he
    exact ⟨e, he, by simpa [Entry.key] using hkind⟩
  · rintro ⟨e, he, hkey⟩
    obtain ⟨rfl, rfl⟩ := Prod.mk.inj (beq_iff_eq.1 hkey)
    exact ⟨e, List.mem_filter.2 ⟨he, beq_self_eq_true e.kind⟩, rfl⟩

/-- The names of a kind are in the order in which their entities came. -/
theorem Records.pairwise_names (h : s.Records history) (kind : EntityKind) :
    (s.names kind).Pairwise fun m n => InOrder history (kind, m) (kind, n) := by
  have hkeys := List.pairwise_map.1 h.inOrder
  rw [names, List.pairwise_map]
  refine (hkeys.filter (·.kind == kind)).imp_of_mem ?_
  intro d e hd he hlt
  have hkey : ∀ x ∈ s.entries.filter (·.kind == kind), x.key = (kind, x.name) := by
    intro x hx
    rw [Entry.key, beq_iff_eq.1 (List.mem_filter.1 hx).2]
  rwa [hkey d hd, hkey e he] at hlt

theorem references_catalog (s : Store) (kind : EntityKind) :
    s.catalog.references kind = s.names kind := by
  cases kind <;> rfl

theorem Records.setOf_eq (h : s.Records history) (kind : EntityKind) (name : String) :
    s.setOf kind name = (lastSet? (kind, name) history).getD .manual := by
  rw [setOf, ← h.set_eq kind name]
  cases s.find? kind name <;> rfl

section Runs

variable {σ : Type} [FileSystem σ]

/-- Whether an entity was there is what removing it says, if it says anything, and it does so for
    one that was not. -/
theorem Records.remove_eq (h : s.Records history) (disk : σ) (kind : EntityKind) (name : String) :
    (∀ found, (s.remove disk kind name).1 = .ok found →
      found = (lastSet? (kind, name) history).isSome) ∧
    (lastSet? (kind, name) history = none → (s.remove disk kind name).1 = .ok false) := by
  rw [← h.set_eq, remove, Option.isSome_map, Option.map_eq_none_iff]
  cases hfind : s.find? kind name with
  | none =>
      rw [removeRun_of_not_found hfind]
      exact ⟨fun found hfound => (Except.ok.inj hfound).symm, fun _ => rfl⟩
  | some e => exact ⟨(removeRun_of_found hfind disk).1, fun hnone => absurd hnone (by simp)⟩

/-- An operation on one entity leaves what is presented of another as it is. -/
theorem Records.perform_of_ne (h : s.Records history) (disk : σ) {op : StoreOperation}
    {kind : EntityKind} {name : String} (hne : op.key? ≠ some (kind, name)) :
    (s.perform disk op).store.setOf kind name = s.setOf kind name ∧
      (s.perform disk op).store.contains kind name = s.contains kind name := by
  have hafter := h.perform disk op
  have hsame : lastSet? (kind, name)
      ((StoreStep.change? ⟨s, disk, op, s.perform disk op⟩).toList ++ history) =
        lastSet? (kind, name) history := by
    cases hchange : StoreStep.change? ⟨s, disk, op, s.perform disk op⟩ with
    | none => rfl
    | some change =>
        apply lastSet?_of_ne
        intro hkey
        exact hne (StoreStep.key?_of_change? hchange |>.trans (congrArg some hkey))
  rw [hafter.setOf_eq, h.setOf_eq, contains, contains, hafter.isSome_find?, h.isSome_find?, hsame]
  exact ⟨rfl, rfl⟩

/-- **A store is an ordered map.** Whatever was loaded, and whatever went well or failed since, an
    entity presents the set that was stored for it last since it was removed last, and manual
    activation without conditions if there is none. Whether there is one is what `contains` tells,
    and what removing the entity tells where it tells anything. The names of a kind, and with them
    the references that the catalog offers, are those of the entities that are there, in the order
    in which they were first stored since they were removed last. An operation on one entity shows
    in no other, and keys stay unique.

    A `commit` among the operations is one through any handle, by `perform_commit`. -/
theorem store_refines_ordered_map {disk : σ} {path : String} {s : Store}
    (hopen : openAt disk path = .ok s) (ops : List StoreOperation) :
    let history := s.history disk ops
    let now := (s.after disk ops).1
    let disk' := (s.after disk ops).2
    (∀ kind name,
      Entity.view (now.entity disk' kind name) =
        ⟨kind, name, (lastSet? (kind, name) history).getD .manual⟩ ∧
      now.contains kind name = (lastSet? (kind, name) history).isSome ∧
      (∀ found, (now.remove disk' kind name).1 = .ok found →
        found = (lastSet? (kind, name) history).isSome) ∧
      (lastSet? (kind, name) history = none → (now.remove disk' kind name).1 = .ok false)) ∧
    (∀ kind,
      (∀ name, name ∈ now.names kind ↔ (lastSet? (kind, name) history).isSome = true) ∧
      (now.names kind).Pairwise (fun m n => InOrder history (kind, m) (kind, n)) ∧
      now.catalog.references kind = now.names kind) ∧
    (∀ op kind name, op.key? ≠ some (kind, name) →
      (now.perform disk' op).store.setOf kind name = now.setOf kind name ∧
      (now.perform disk' op).store.contains kind name = now.contains kind name) ∧
    (now.entries.map Entry.key).Nodup := by
  have h := records_history hopen ops
  refine ⟨?_, ?_, ?_, h.nodup⟩
  · intro kind name
    refine ⟨?_, h.isSome_find? kind name, h.remove_eq _ kind name⟩
    show (⟨kind, name, (s.after disk ops).1.setOf kind name⟩ : EntityView) = _
    rw [h.setOf_eq]
  · intro kind
    refine ⟨?_, h.pairwise_names kind, references_catalog _ kind⟩
    intro name
    rw [mem_names_iff, h.isSome_find?]
  · intro op kind name hne
    exact h.perform_of_ne _ hne

end Runs

/-- A location and an interface of one name. -/
def namesakeStore : Store :=
  ⟨"nwam.db", [⟨.location, "home", ⟨.system, []⟩⟩, ⟨.ncu, "home", ⟨.manual, []⟩⟩]⟩

/-- A disk with the file of that store, which is full when the third save writes. -/
def homeDisk : Faulty Disk :=
  ⟨⟨[(["nwam.db"], .file (StoreFile.encode namesakeStore.entries))]⟩,
    [none, none, none, none, some (.other "full")]⟩

/-- Adds an entity, changes one that is there, fails to remove it, removes it and adds it again. -/
def homeOperations : List StoreOperation :=
  [.commit .location "work" ⟨.system, []⟩,
    .commit .location "home" ⟨.any, [⟨.essid, .contains, "café #1"⟩]⟩,
    .remove .location "home", .remove .location "home", .commit .location "home" ⟨.manual, []⟩]

theorem store_refines_ordered_map_home :
    openAt homeDisk "nwam.db" = .ok namesakeStore ∧
    namesakeStore.history homeDisk homeOperations =
      [.stored (.location, "home") ⟨.manual, []⟩, .removed (.location, "home"),
        .stored (.location, "home") ⟨.any, [⟨.essid, .contains, "café #1"⟩]⟩,
        .stored (.location, "work") ⟨.system, []⟩, .stored (.ncu, "home") ⟨.manual, []⟩,
        .stored (.location, "home") ⟨.system, []⟩] ∧
    let now := (namesakeStore.after homeDisk homeOperations).1
    let disk := (namesakeStore.after homeDisk homeOperations).2
    Entity.view (now.entity disk .location "home") = ⟨.location, "home", ⟨.manual, []⟩⟩ ∧
      now.contains .enm "home" = false ∧ (now.remove disk .enm "home").1 = .ok false ∧
      (now.remove disk .location "home").1 = .ok true ∧ now.names .location = ["work", "home"] ∧
      (now.perform disk (.remove .location "home")).store.setOf .ncu "home" =
        now.setOf .ncu "home" := by
  have hopen : openAt homeDisk "nwam.db" = .ok namesakeStore := by
    have hread : FileSystem.read homeDisk "nwam.db" =
        .ok (StoreFile.encode namesakeStore.entries) := by
      rfl
    have hes : Entry.WellFormed namesakeStore.entries :=
      ⟨by decide, by simp [namesakeStore, ConditionSet.Valid, Mode.isConditional]⟩
    rw [openAt, hread]
    simp only [StoreFile.decode_encode hes (by decide +kernel)]
    rfl
  have hhistory : namesakeStore.history homeDisk homeOperations =
      [.stored (.location, "home") ⟨.manual, []⟩, .removed (.location, "home"),
        .stored (.location, "home") ⟨.any, [⟨.essid, .contains, "café #1"⟩]⟩,
        .stored (.location, "work") ⟨.system, []⟩, .stored (.ncu, "home") ⟨.manual, []⟩,
        .stored (.location, "home") ⟨.system, []⟩] := by
    decide +kernel
  have hmap := store_refines_ordered_map hopen homeOperations
  rw [hhistory] at hmap
  obtain ⟨hpresent, -, hframe, -⟩ := hmap
  obtain ⟨hview, -, hremove, -⟩ := hpresent .location "home"
  obtain ⟨-, hcontains, -, habsent⟩ := hpresent .enm "home"
  have hremoved : ((namesakeStore.after homeDisk homeOperations).1.remove
      (namesakeStore.after homeDisk homeOperations).2 .location "home").1.isOk = true := by
    decide +kernel
  refine ⟨hopen, hhistory, hview, hcontains, habsent (by decide), ?_, by decide +kernel, ?_⟩
  · cases houtcome : ((namesakeStore.after homeDisk homeOperations).1.remove
        (namesakeStore.after homeDisk homeOperations).2 .location "home").1 with
    | error e =>
        rw [houtcome] at hremoved
        cases hremoved
    | ok found =>
        rw [hremove found houtcome]
        rfl
  · exact (hframe (.remove .location "home") .ncu "home" (by decide)).1

end Store

end NetActivation
