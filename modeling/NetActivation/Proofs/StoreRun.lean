import NetActivation.Files.Faulty
import NetActivation.Proofs.DiskFiles
import NetActivation.Proofs.StoreEntries
import NetActivation.Proofs.StoreFile
import NetActivation.Store.Operation

set_option autoImplicit false

/-! # Disk and memory agree

A store and its file are in step if opening the file gives the store. An operation changes the
entries first and saves them then, and each of the steps of saving may fail; `transactional_perform`
says once what an operation can do: either the store and the bytes of its file are left alone, or
the file is written anew from the entries that the store has by then, and up to the last step of
saving the file is as it was. The file systems that an operation passes through are told with its
run, and none of them is left out (`passes_perform`, `mem_passed_saveRun_iff`). As every operation
keeps the entries fit, what was written reads back, so that store and file stay in step over whole
runs (`store_agrees_with_file`). -/

namespace NetActivation.Store

open FileSystem (Replaceable)

variable {σ : Type} [FileSystem σ]

/-! ## The file systems on the way -/

/-- A step that saving a store at a path may take, whether it succeeds or fails. -/
inductive SavingStep (path : String) : σ → σ → Prop where
  | write {disk next : σ} (bytes : Codec.Bytes)
      (h : (FileSystem.write disk (FileSystem.staging path) bytes).2 = next) :
      SavingStep path disk next
  | rename {disk next : σ}
      (h : (FileSystem.rename disk (FileSystem.staging path) path).2 = next) :
      SavingStep path disk next
  | remove {disk next : σ}
      (h : (FileSystem.remove disk (FileSystem.staging path)).2 = next) :
      SavingStep path disk next

/-- A way from one file system to another that takes one step at a time, with every file system in
    front of a step, the latest first. -/
inductive Passes (path : String) (first : σ) : List σ → σ → Prop where
  | start : Passes path first [] first
  | step {passed : List σ} {disk next : σ} (h : Passes path first passed disk)
      (hstep : SavingStep path disk next) : Passes path first (disk :: passed) next

/-- Saving leaves out no file system on its way. -/
theorem passes_saveRun (s : Store) (disk : σ) :
    Passes s.path disk (s.saveRun disk).passed (s.saveRun disk).disk := by
  rw [saveRun]
  split
  · next e staged hw => exact .step .start (.write _ (congrArg Prod.snd hw))
  · next staged hw =>
      have hstaged : Passes s.path disk [disk] staged :=
        .step .start (.write _ (congrArg Prod.snd hw))
      split
      · next replaced hr => exact .step hstaged (.rename (congrArg Prod.snd hr))
      · next e refused hr =>
          exact .step (.step hstaged (.rename (congrArg Prod.snd hr))) (.remove rfl)

/-- What saving passes through: the file system that it starts from, the one with the file beside
    once that is written, and the one after a refused renaming. -/
theorem mem_passed_saveRun_iff {s : Store} {disk d : σ} :
    d ∈ (s.saveRun disk).passed ↔ d = disk ∨
      FileSystem.write disk (FileSystem.staging s.path) (StoreFile.encode s.entries) =
        (.ok (), d) ∨
      ∃ staged e,
        FileSystem.write disk (FileSystem.staging s.path) (StoreFile.encode s.entries) =
          (.ok (), staged) ∧
        FileSystem.rename staged (FileSystem.staging s.path) s.path = (.error e, d) := by
  rw [saveRun]
  split
  · next e staged hw => simp [hw]
  · next staged hw =>
      split
      · next replaced hr => simp [hw, hr, eq_comm, or_comm]
      · next e refused hr =>
          have hpassed : d ∈ [refused, staged, disk] ↔ d = disk ∨ staged = d ∨ refused = d := by
            grind
          simpa [hw, hr] using hpassed

theorem passes_putRun (s : Store) (disk : σ) (e : Entry) :
    Passes s.path disk (s.putRun disk e).passed (s.putRun disk e).disk := by
  have hsave := passes_saveRun (s.upsert e).2 disk
  rw [path_upsert] at hsave
  simp only [putRun]
  split
  · exact hsave
  · exact hsave

theorem passes_removeRun (s : Store) (disk : σ) (kind : EntityKind) (name : String) :
    Passes s.path disk (s.removeRun disk kind name).passed (s.removeRun disk kind name).disk := by
  rw [removeRun]
  split
  · next i removed hi hremoved =>
      have hsave := passes_saveRun { s with entries := s.entries.eraseIdx i } disk
      simp only
      split
      · exact hsave
      · exact hsave
  · exact .start

/-- No operation leaves out a file system on its way. -/
theorem passes_perform (s : Store) (disk : σ) (op : StoreOperation) :
    Passes s.path disk (s.perform disk op).passed (s.perform disk op).disk := by
  cases op with
  | commit kind name staged =>
      simp only [perform, StoreRun.mapOutcome, StoredEntity.commitRun]
      split
      · exact .start
      · split
        · exact .start
        · exact passes_putRun s disk _
  | remove kind name => exact passes_removeRun s disk kind name
  | save => exact passes_saveRun s disk

theorem passes_of_mem_trace {s : Store} {disk : σ} {ops : List StoreOperation} :
    ∀ t ∈ s.trace disk ops, Passes t.store.path t.disk t.run.passed t.run.disk := by
  induction ops generalizing s disk with
  | nil => simp [trace]
  | cons op ops ih =>
      intro t ht
      rw [trace] at ht
      rcases List.mem_cons.1 ht with rfl | ht
      · exact passes_perform s disk op
      · exact ih t ht

/-! ## Saving -/

theorem store_saveRun (s : Store) (disk : σ) : (s.saveRun disk).store = s := by
  rw [saveRun]
  split
  · rfl
  · split <;> rfl

/-- On the way of saving, the file is as it was. -/
theorem read_of_mem_passed {s : Store} (h : Replaceable σ s.path) {disk d : σ}
    (hd : d ∈ (s.saveRun disk).passed) :
    FileSystem.read d s.path = FileSystem.read disk s.path := by
  have hwrite := h.read_write disk (StoreFile.encode s.entries)
  rcases mem_passed_saveRun_iff.1 hd with rfl | hw | ⟨staged, e, hw, hr⟩
  · rfl
  · rwa [hw] at hwrite
  · rw [hw] at hwrite
    exact (h.read_rename_error hr).trans hwrite

/-- What saving can do: the file is written anew if it goes well and left alone if not, and the
    last step of it is the only one that touches the file. -/
theorem saveRun_spec {s : Store} (h : Replaceable σ s.path) (disk : σ) :
    (s.saveRun disk).store = s ∧
    (∀ d ∈ (s.saveRun disk).passed, FileSystem.read d s.path = FileSystem.read disk s.path) ∧
    FileSystem.read (s.saveRun disk).disk s.path =
      match (s.saveRun disk).outcome with
      | .ok () => .ok (StoreFile.encode s.entries)
      | .error _ => FileSystem.read disk s.path := by
  have hwrite := h.read_write disk (StoreFile.encode s.entries)
  refine ⟨store_saveRun s disk, fun d => read_of_mem_passed h, ?_⟩
  rw [saveRun]
  split
  · -- The file beside could not be written.
    next e staged hw => rwa [hw] at hwrite
  · next staged hw =>
      rw [hw] at hwrite
      split
      · next replaced hr =>
          simp only
          rw [h.read_renamed hr, h.read_written hw]
      · -- It was written, but did not take the place of the file, and is removed.
        next e refused hr =>
          exact (h.read_remove refused).trans ((h.read_rename_error hr).trans hwrite)

/-! ## What an operation can do -/

/-- An operation on a store either leaves the store and the bytes of its file alone, as it does
    whenever it fails, or it writes the file anew from the entries that the store has by then. On
    the way there the file is as it was. -/
structure Transactional {ε α : Type} (s : Store) (disk : σ) (r : StoreRun σ ε α) : Prop where
  passed : ∀ d ∈ r.passed, FileSystem.read d s.path = FileSystem.read disk s.path
  failed : ∀ e, r.outcome = .error e →
    r.store = s ∧ FileSystem.read r.disk s.path = FileSystem.read disk s.path
  succeeded : ∀ a, r.outcome = .ok a →
    (r.store = s ∧ FileSystem.read r.disk s.path = FileSystem.read disk s.path) ∨
    (r.store.path = s.path ∧ (Entry.WellFormed s.entries → Entry.WellFormed r.store.entries) ∧
      FileSystem.read r.disk s.path = .ok (StoreFile.encode r.store.entries))

theorem transactional_saveRun {s : Store} (h : Replaceable σ s.path) (disk : σ) :
    Transactional s disk (s.saveRun disk) := by
  obtain ⟨hstore, hpassed, hread⟩ := saveRun_spec h disk
  refine ⟨hpassed, ?_, ?_⟩
  · intro e he
    rw [he] at hread
    exact ⟨hstore, hread⟩
  · intro a ha
    rw [ha] at hread
    rw [hstore]
    exact Or.inr ⟨rfl, id, hread⟩

/-- An operation that does not come to the point of saving. -/
theorem transactional_of_unsaved {ε α : Type} (s : Store) (disk : σ) (outcome : Except ε α) :
    Transactional s disk ⟨outcome, s, disk, []⟩ :=
  ⟨by simp, fun _ _ => ⟨rfl, rfl⟩, fun _ _ => Or.inl ⟨rfl, rfl⟩⟩

theorem transactional_putRun {s : Store} (h : Replaceable σ s.path) (disk : σ) {e : Entry}
    (he : e.set.Valid) : Transactional s disk (s.putRun disk e) := by
  have hnext : Replaceable σ (s.upsert e).2.path := by rwa [path_upsert]
  obtain ⟨hstore, hpassed, hread⟩ := saveRun_spec hnext disk
  rw [path_upsert] at hpassed hread
  simp only [putRun]
  -- Saving is that of the store with the new entry, which a failure undoes.
  split
  · next hok =>
      rw [hok] at hread
      refine ⟨hpassed, ?_, ?_⟩
      · intro error herror
        rw [hok] at herror
        exact absurd herror (by simp)
      · intro _ _
        rw [hstore]
        exact Or.inr ⟨path_upsert s e, fun hs => wellFormed_upsert hs he, hread⟩
  · next error herror =>
      rw [herror] at hread
      refine ⟨hpassed, ?_, ?_⟩
      · intro _ _
        simp only [hstore, restore_upsert]
        exact ⟨trivial, hread⟩
      · intro a ha
        simp only [herror] at ha
        exact absurd ha (by simp)

theorem transactional_removeRun {s : Store} (h : Replaceable σ s.path) (disk : σ)
    (kind : EntityKind) (name : String) : Transactional s disk (s.removeRun disk kind name) := by
  rw [removeRun]
  split
  · next i removed hi hremoved =>
      obtain ⟨hstore, hpassed, hread⟩ :=
        saveRun_spec (s := { s with entries := s.entries.eraseIdx i }) h disk
      simp only
      split
      · next hok =>
          rw [hok] at hread
          refine ⟨hpassed, by simp, ?_⟩
          intro _ _
          simp only [hstore]
          exact Or.inr ⟨trivial, fun hs => wellFormed_eraseIdx hs i, hread⟩
      · next error herror =>
          rw [herror] at hread
          refine ⟨hpassed, ?_, by simp⟩
          intro _ _
          simp only [hstore, insertIdx_eraseIdx hi hremoved]
          exact ⟨trivial, hread⟩
  · exact transactional_of_unsaved s disk (.ok false)

/-- Telling an outcome in other words, a failure as a failure, changes nothing about it. -/
theorem Transactional.mapOutcome {ε ε' α β : Type} {s : Store} {disk : σ} {r : StoreRun σ ε α}
    {f : Except ε α → Except ε' β} (h : Transactional s disk r)
    (hf : ∀ outcome, (f outcome).isOk = outcome.isOk) : Transactional s disk (r.mapOutcome f) := by
  have hsame := hf r.outcome
  refine ⟨h.passed, ?_, ?_⟩
  · intro e he
    simp only [StoreRun.mapOutcome] at he
    cases hr : r.outcome with
    | error error => exact h.failed error hr
    | ok a =>
        rw [he, hr] at hsame
        simp [Except.isOk, Except.toBool] at hsame
  · intro b hb
    simp only [StoreRun.mapOutcome] at hb
    cases hr : r.outcome with
    | error error =>
        rw [hb, hr] at hsame
        simp [Except.isOk, Except.toBool] at hsame
    | ok a => exact h.succeeded a hr

theorem transactional_commitRun {x : StoredEntity σ} (h : Replaceable σ x.store.path) :
    Transactional x.store x.disk x.commitRun := by
  rw [StoredEntity.commitRun]
  split
  · exact transactional_of_unsaved _ _ _
  · split
    · exact transactional_of_unsaved _ _ _
    · next set hset =>
        apply (transactional_putRun h x.disk (ConditionSet.build_eq_ok_iff.1 hset).2).mapOutcome
        intro outcome
        cases outcome <;> rfl

/-- **What an operation can do**, whichever it is and wherever it fails. -/
theorem transactional_perform {s : Store} (h : Replaceable σ s.path) (disk : σ)
    (op : StoreOperation) : Transactional s disk (s.perform disk op) := by
  cases op with
  | commit kind name staged =>
      have hcommit := transactional_commitRun
        (x := Entity.setMode (Entity.setConditions (s.entity disk kind name) staged.conditions)
          staged.mode) h
      apply hcommit.mapOutcome
      intro outcome
      cases outcome <;> rfl
  | remove kind name =>
      rw [perform]
      apply (transactional_removeRun h disk kind name).mapOutcome
      intro outcome
      cases outcome <;> rfl
  | save =>
      rw [perform]
      apply (transactional_saveRun h disk).mapOutcome
      intro outcome
      cases outcome <;> rfl

/-! ## Store and file in step -/

/-- A store and its file are in step: opening the file gives the store. -/
def InStep (s : Store) (disk : σ) : Prop := openAt disk s.path = .ok s

/-- Opening a store depends on the bytes of its file alone. -/
theorem openAt_congr {disk disk' : σ} {path : String}
    (h : FileSystem.read disk' path = FileSystem.read disk path) :
    openAt disk' path = openAt disk path := by
  rw [openAt, openAt, h]

/-- A store that was opened remembers its path, and its entries are fit. -/
theorem openAt_eq_ok {disk : σ} {path : String} {s : Store} (h : openAt disk path = .ok s) :
    s.path = path ∧ Entry.WellFormed s.entries := by
  rw [openAt] at h
  split at h
  · next file _ =>
      cases hfile : StoreFile.decode file with
      | error e => simp [hfile, Except.map] at h
      | ok entries =>
          simp only [hfile, Except.map, Except.ok.injEq] at h
          rw [← h]
          exact ⟨rfl, StoreFile.wellFormed_of_decode hfile⟩
  · simp only [Except.ok.injEq] at h
    rw [← h]
    exact ⟨rfl, by simp [Entry.WellFormed]⟩
  · exact absurd h (by simp)

/-- A store is in step with a file that was written from its entries. -/
theorem inStep_of_read {s : Store} {disk : σ} (hs : Entry.WellFormed s.entries)
    (hfits : StoreFile.Fits s.entries)
    (hread : FileSystem.read disk s.path = .ok (StoreFile.encode s.entries)) :
    InStep s disk := by
  rw [InStep, openAt, hread]
  simp only [StoreFile.decode_encode hs hfits]
  rfl

/-- Store and file stay in step over an operation. -/
theorem inStep_of_transactional {ε α : Type} {s : Store} {disk : σ} {r : StoreRun σ ε α}
    (hs : InStep s disk) (h : Transactional s disk r) (hfits : StoreFile.Fits r.store.entries) :
    InStep r.store r.disk ∧ r.store.path = s.path := by
  have hkept : r.store = s ∧ FileSystem.read r.disk s.path = FileSystem.read disk s.path →
      InStep r.store r.disk ∧ r.store.path = s.path := by
    rintro ⟨hstore, hread⟩
    rw [hstore]
    exact ⟨(openAt_congr hread).trans hs, rfl⟩
  cases hr : r.outcome with
  | error e => exact hkept (h.failed e hr)
  | ok a =>
      rcases h.succeeded a hr with hsame | ⟨hpath, hfit, hread⟩
      · exact hkept hsame
      · rw [← hpath] at hread
        exact ⟨inStep_of_read (hfit (openAt_eq_ok hs).2) hfits hread, hpath⟩

/-- In each step of a run, store and file are in step before and after it, and the step is one
    that an operation can do. -/
theorem inStep_of_mem_trace {s : Store} {disk : σ} (hpath : Replaceable σ s.path)
    (hs : InStep s disk) {ops : List StoreOperation}
    (hfits : ∀ t ∈ s.trace disk ops, StoreFile.Fits t.run.store.entries) :
    ∀ t ∈ s.trace disk ops, t.store.path = s.path ∧ InStep t.store t.disk ∧
      Transactional t.store t.disk t.run ∧ InStep t.run.store t.run.disk ∧
      t.run.store.path = s.path := by
  induction ops generalizing s disk with
  | nil => simp [trace]
  | cons op ops ih =>
      have hop := transactional_perform hpath disk op
      rw [trace] at hfits ⊢
      -- The path of the store is an invariant as well: without it the next operation would write
      -- another file.
      have hnext := inStep_of_transactional hs hop (hfits _ (List.mem_cons_self ..))
      have hpath' : Replaceable σ (s.perform disk op).store.path := by rwa [hnext.2]
      intro t ht
      rcases List.mem_cons.1 ht with rfl | ht
      · exact ⟨rfl, hs, hop, hnext⟩
      · rw [← hnext.2]
        exact ih hpath' hnext.1 (fun t ht => hfits t (List.mem_cons_of_mem _ ht)) t ht

/-- **Disk and memory agree over whole runs.** From opening a store on, after every operation its
    file opens to the store as it is in memory. An operation that fails, wherever it does, leaves
    both the entries and the bytes of the file as they were. And if an operation is cut short
    between two steps on the file system, the file still opens to the store as it was before. -/
theorem store_agrees_with_file {disk : σ} {path : String} {s : Store}
    (hpath : Replaceable σ path) (hopen : openAt disk path = .ok s) (ops : List StoreOperation)
    (hfits : ∀ t ∈ s.trace disk ops, StoreFile.Fits t.run.store.entries) :
    ∀ t ∈ s.trace disk ops,
      openAt t.run.disk path = .ok t.run.store ∧
      (∀ e, t.run.outcome = .error e → t.run.store.entries = t.store.entries ∧
        FileSystem.read t.run.disk path = FileSystem.read t.disk path) ∧
      ∀ d ∈ t.run.passed, openAt d path = .ok t.store := by
  obtain rfl := (openAt_eq_ok hopen).1
  intro t ht
  obtain ⟨hpathBefore, hbefore, hstep, hafter, hpathAfter⟩ :=
    inStep_of_mem_trace hpath hopen hfits t ht
  rw [InStep] at hbefore hafter
  rw [hpathBefore] at hbefore
  rw [hpathAfter] at hafter
  refine ⟨hafter, ?_, ?_⟩
  · intro e he
    obtain ⟨hstore, hread⟩ := hstep.failed e he
    rw [hpathBefore] at hread
    exact ⟨by rw [hstore], hread⟩
  · intro d hd
    have hread := hstep.passed d hd
    rw [hpathBefore] at hread
    exact (openAt_congr hread).trans hbefore

/-- A disk on which the second save fails when it writes, and the third and the fourth when they
    rename; the file that the fourth leaves behind cannot be removed either. -/
def faultyDisk : Faulty Disk :=
  ⟨{}, [none, none, some (.other "full"), none, some .busy, none, none, some .busy, some .busy]⟩

/-- Adds an entity, changes it, adds another, and removes the first one twice. -/
def faultyOperations : List StoreOperation :=
  [.commit .location "home" ⟨.any, [⟨.essid, .contains, "café #1"⟩]⟩,
    .commit .location "home" ⟨.manual, []⟩, .commit .enm "home" ⟨.system, []⟩,
    .remove .location "home", .remove .location "home"]

theorem store_agrees_with_file_faulty :
    Replaceable (Faulty Disk) "nwam.db" ∧
    openAt faultyDisk "nwam.db" = .ok ⟨"nwam.db", []⟩ ∧
    (Store.trace ⟨"nwam.db", []⟩ faultyDisk faultyOperations).map (·.run.outcome.isOk) =
      [true, false, false, false, true] ∧
    (∀ t ∈ Store.trace ⟨"nwam.db", []⟩ faultyDisk faultyOperations,
      StoreFile.Fits t.run.store.entries) ∧
    ∀ t ∈ Store.trace ⟨"nwam.db", []⟩ faultyDisk faultyOperations,
      openAt t.run.disk "nwam.db" = .ok t.run.store ∧
      (∀ e, t.run.outcome = .error e → t.run.store.entries = t.store.entries ∧
        FileSystem.read t.run.disk "nwam.db" = FileSystem.read t.disk "nwam.db") ∧
      ∀ d ∈ t.run.passed, openAt d "nwam.db" = .ok t.store := by
  have hpath := Faulty.replaceable_faulty (Disk.replaceable_disk "nwam.db")
  have hopen : openAt faultyDisk "nwam.db" = .ok ⟨"nwam.db", []⟩ := by rfl
  have hfits : ∀ t ∈ Store.trace ⟨"nwam.db", []⟩ faultyDisk faultyOperations,
      StoreFile.Fits t.run.store.entries := by decide +kernel
  exact ⟨hpath, hopen, by decide +kernel, hfits,
    store_agrees_with_file hpath hopen faultyOperations hfits⟩

end NetActivation.Store
