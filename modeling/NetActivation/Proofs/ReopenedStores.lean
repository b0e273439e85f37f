import NetActivation.Proofs.RefusedEdits

set_option autoImplicit false

/-! # From an editor to a file and back

A set goes through many hands between two sessions: the rows of an editor that are not unset, the
validation of the entity that it is applied to, the entry of a store, the bytes of a file, and in
the next session the same way back to the rows of another editor. Nothing of it is lost or altered
on the way. A store that was opened keeps its entries fit, whatever was done to it since
(`Store.fit_after`), a commit of a valid set goes well if the file can be replaced
(`StoredEntity.commitRun_of_replaces`), and the file then opens to the store with that one entry
stored (`Store.inStep_of_read`). Main statement: `Editor.applied_set_returns`. -/

namespace NetActivation

variable {σ : Type} [FileSystem σ]

/-! ## Replacing a file -/

/-- Whether the file at a path is replaced by one with the given bytes, if that is tried: the file
    beside it can be written, and can take its place. -/
def FileSystem.Replaces (disk : σ) (path : String) (bytes : Codec.Bytes) : Prop :=
  ∃ staged replaced, FileSystem.write disk (staging path) bytes = (.ok (), staged) ∧
    FileSystem.rename staged (staging path) path = (.ok (), replaced)

open FileSystem (Replaceable Replaces)

namespace Store

variable {s : Store} {disk : σ}

theorem saveRun_of_replaces (h : Replaces disk s.path (StoreFile.encode s.entries)) :
    (s.saveRun disk).outcome = .ok () := by
  obtain ⟨staged, replaced, hwrite, hrename⟩ := h
  simp only [saveRun, hwrite, hrename]

/-- Storing an entry goes well if the file can be replaced by one that holds it. -/
theorem putRun_of_replaces {e : Entry}
    (h : Replaces disk s.path (StoreFile.encode (s.upsert e).2.entries)) :
    s.putRun disk e = (s.upsert e).2.saveRun disk := by
  rw [← path_upsert s e] at h
  simp only [putRun, saveRun_of_replaces h]

/-! ## Stores that were opened -/

/-- Operations leave a store at its path, and its entries fit. -/
theorem fit_after (hpath : Replaceable σ s.path) (hs : Entry.WellFormed s.entries) (disk : σ)
    (ops : List StoreOperation) :
    (s.after disk ops).1.path = s.path ∧ Entry.WellFormed (s.after disk ops).1.entries := by
  induction ops generalizing s disk with
  | nil => exact ⟨rfl, hs⟩
  | cons op ops ih =>
      have hop := transactional_perform hpath disk op
      have hnext : (s.perform disk op).store.path = s.path ∧
          Entry.WellFormed (s.perform disk op).store.entries := by
        cases houtcome : (s.perform disk op).outcome with
        | error e =>
            rw [(hop.failed e houtcome).1]
            exact ⟨rfl, hs⟩
        | ok a =>
            rcases hop.succeeded a houtcome with ⟨hsame, -⟩ | ⟨hsame, hfit, -⟩
            · rw [hsame]
              exact ⟨rfl, hs⟩
            · exact ⟨hsame, hfit hs⟩
      obtain ⟨hafter, hfit⟩ := ih (hnext.1.symm ▸ hpath) hnext.2 (s.perform disk op).disk
      exact ⟨hafter.trans hnext.1, hfit⟩

/-! ## A store with one entity stored -/

variable (s) (kind : EntityKind) (name : String) (set : ConditionSet)

theorem find?_make_stored (kind' : EntityKind) (name' : String) :
    (s.make (.stored (kind, name) set)).find? kind' name' =
      if (kind, name) = (kind', name') then some ⟨kind, name, set⟩ else s.find? kind' name' :=
  find?_upsert s ⟨kind, name, set⟩ kind' name'

/-- The keys stay as they are, but for a new one at the end. -/
theorem keys_make_stored :
    (s.make (.stored (kind, name) set)).entries.map Entry.key =
      if s.contains kind name = true then s.entries.map Entry.key
      else s.entries.map Entry.key ++ [(kind, name)] := by
  rw [make, upsert, contains]
  split
  · next i hi =>
      obtain ⟨hlt, hkey, -⟩ := indexOf?_eq_some_iff.1 hi
      have hfound : (s.find? kind name).isSome = true := by
        rw [← getElem?_indexOf? hi, List.getElem?_eq_getElem hlt, Option.isSome_some]
      rw [if_pos hfound]
      exact map_key_set hlt hkey
  · next hi =>
      rw [find?_eq_none_iff.2 hi, if_neg (by simp), List.map_append]
      rfl

theorem names_eq_keys (s : Store) (kind : EntityKind) :
    s.names kind = ((s.entries.map Entry.key).filter (·.1 == kind)).map (·.2) := by
  rw [names, List.filter_map, List.map_map]
  rfl

/-- So do the names of each kind. -/
theorem names_make_stored (kind' : EntityKind) :
    (s.make (.stored (kind, name) set)).names kind' =
      if kind' = kind ∧ s.contains kind name = false then s.names kind' ++ [name]
      else s.names kind' := by
  rw [names_eq_keys, keys_make_stored, names_eq_keys]
  cases hcontains : s.contains kind name with
  | true => simp
  | false =>
      by_cases hkind : kind' = kind
      · simp [hkind]
      · simp [hkind, Ne.symm hkind]

end Store

/-! ## Committing -/

/-- A valid set that is staged under a name is stored if the file can be replaced. -/
theorem StoredEntity.commitRun_of_replaces {x : StoredEntity σ}
    (hname : ¬Text.AllWhite x.name.toList) (hset : x.staged.Valid)
    (hreplaces : Replaces x.disk x.store.path
      (StoreFile.encode (x.store.make (.stored (x.kind, x.name) x.staged)).entries)) :
    x.commitRun.outcome = .ok () ∧
      x.commitRun.disk =
        ((x.store.make (.stored (x.kind, x.name) x.staged)).saveRun x.disk).disk := by
  have hnamed : (Text.trim x.name.toList).isEmpty = false := by
    rw [List.isEmpty_eq_false_iff, ne_eq, Text.trim_eq_nil_iff]
    exact hname
  have hput := Store.putRun_of_replaces (e := ⟨x.kind, x.name, x.staged⟩) hreplaces
  rw [← Store.path_upsert x.store ⟨x.kind, x.name, x.staged⟩] at hreplaces
  simp only [commitRun, hnamed, ConditionSet.build_self_iff.2 hset, hput, StoreRun.mapOutcome,
    Store.saveRun_of_replaces hreplaces]
  exact ⟨rfl, rfl⟩

namespace Editor

variable {e : Editor} {set : ConditionSet} {x : StoredEntity σ}

theorem apply_of_replaces (hset : e.conditionSet = .ok set) (hname : ¬Text.AllWhite x.name.toList)
    (hreplaces : Replaces x.disk x.store.path
      (StoreFile.encode (x.store.make (.stored (x.kind, x.name) set)).entries)) :
    (e.apply x).1 = .ok () ∧ (e.apply x).2.disk =
      ((x.store.make (.stored (x.kind, x.name) set)).saveRun x.disk).disk := by
  obtain ⟨houtcome, hdisk⟩ := StoredEntity.commitRun_of_replaces (x := { x with staged := set })
    hname (valid_of_conditionSet hset) hreplaces
  have hcommit : Entity.commit (Entity.setMode (Entity.setConditions x set.conditions) set.mode) =
      (.ok (), (StoredEntity.commit { x with staged := set }).2) :=
    Prod.ext houtcome rfl
  rw [apply_of_commit hset hcommit]
  exact ⟨rfl, hdisk⟩

/-- **What is applied returns.** Take an editor that shows a set, a store that was opened and worked
    with since, and a handle on one of its entities under a name that is not blank. If the file of
    the store can be replaced, applying the editor goes well, and the file opens to a store that has
    exactly this set for the entity. All other entities have what they had, and names are in the
    order in which they were, a new one at the end. Any editor that loads the entity from then on
    displays the set, and it evaluates as it did. -/
theorem applied_set_returns {path : String} (hpath : Replaceable σ path) {disk : σ} {s : Store}
    (hopen : Store.openAt disk path = .ok s) (ops : List StoreOperation)
    (hx : x.store = (s.after disk ops).1) (hname : ¬Text.AllWhite x.name.toList)
    (hset : e.conditionSet = .ok set)
    (hfits : StoreFile.Fits (x.store.make (.stored (x.kind, x.name) set)).entries)
    (hreplaces : Replaces x.disk path
      (StoreFile.encode (x.store.make (.stored (x.kind, x.name) set)).entries)) :
    (e.apply x).1 = .ok () ∧
    ∃ reopened, Store.openAt (e.apply x).2.disk path = .ok reopened ∧
      let y := Entity.view (reopened.entity (e.apply x).2.disk x.kind x.name)
      y = ⟨x.kind, x.name, set⟩ ∧ reopened.contains x.kind x.name = true ∧
      (∀ kind name, (kind, name) ≠ (x.kind, x.name) →
        reopened.setOf kind name = x.store.setOf kind name ∧
        reopened.contains kind name = x.store.contains kind name) ∧
      (∀ kind, reopened.names kind =
        if kind = x.kind ∧ x.store.contains x.kind x.name = false
        then x.store.names kind ++ [x.name] else x.store.names kind) ∧
      (∀ (e' : Editor) (catalog : Catalog), e'.Reachable →
        (e'.refresh catalog y true).editor.Displays set) ∧
      ∀ snapshot, y.staged.evaluate snapshot = set.evaluate snapshot := by
  obtain ⟨hsame, hopened⟩ := Store.openAt_eq_ok hopen
  subst hsame
  obtain ⟨hstore, hfit⟩ := Store.fit_after hpath hopened disk ops
  rw [← hx] at hstore hfit
  rw [← hstore] at hpath hreplaces ⊢
  obtain ⟨hok, hdisk⟩ := apply_of_replaces hset hname hreplaces
  -- The file was written from the store with the entity stored, so it opens to that store.
  generalize hnext : x.store.make (.stored (x.kind, x.name) set) = next at *
  have hnextPath : next.path = x.store.path := by
    rw [← hnext]
    exact Store.path_upsert _ _
  have hnextFit : Entry.WellFormed next.entries := by
    rw [← hnext]
    exact Store.wellFormed_upsert hfit (valid_of_conditionSet hset)
  have hread : FileSystem.read (e.apply x).2.disk x.store.path =
      .ok (StoreFile.encode next.entries) := by
    have hsave := (Store.saveRun_spec (s := next) (hnextPath ▸ hpath) x.disk).2.2
    rw [← hnextPath] at hreplaces ⊢
    rwa [Store.saveRun_of_replaces hreplaces, ← hdisk] at hsave
  have hstep : Store.InStep next (e.apply x).2.disk :=
    Store.inStep_of_read hnextFit hfits (hnextPath ▸ hread)
  rw [Store.InStep, hnextPath] at hstep
  have hview : Entity.view (next.entity (e.apply x).2.disk x.kind x.name) =
      ⟨x.kind, x.name, set⟩ := by
    show (⟨x.kind, x.name, next.setOf x.kind x.name⟩ : EntityView) = _
    rw [← hnext, Store.setOf_make_stored]
  refine ⟨hok, next, hstep, hview, ?_, ?_, ?_, ?_, ?_⟩
  · rw [Store.contains, ← hnext, Store.find?_make_stored, if_pos rfl, Option.isSome_some]
  · intro kind name hne
    rw [Store.setOf, Store.contains, ← hnext, Store.find?_make_stored, if_neg (Ne.symm hne)]
    exact ⟨rfl, rfl⟩
  · intro kind
    rw [← hnext]
    exact Store.names_make_stored x.store x.kind x.name set kind
  · intro e' catalog he'
    have hshown := he'.displays_refresh catalog
      (Entity.view (next.entity (e.apply x).2.disk x.kind x.name))
    rw [hview] at hshown ⊢
    exact hshown
  · intro snapshot
    rw [hview]

/-- A store with a location and an interface of one name. -/
def officeStore : Store :=
  ⟨"nwam.db", [⟨.location, "office", ⟨.system, []⟩⟩, ⟨.ncu, "office", ⟨.manual, []⟩⟩]⟩

/-- A disk with the file of that store. -/
def officeDisk : Disk := ⟨[(["nwam.db"], .file (StoreFile.encode officeStore.entries))]⟩

/-- A handle on the location, after the interface was removed. -/
def officeHandle : StoredEntity Disk :=
  let (store, disk) := officeStore.after officeDisk [.remove .ncu "office"]
  store.entity disk .location "office"

/-- An editor with a value that needs quotes, and with a row that was left blank. -/
def officeEditor : Editor :=
  (Editor.new {}).run [({}, .addAfter ⟨0⟩), ({}, .setField ⟨0⟩ .essid),
    ({}, .setValue ⟨0⟩ "5\" floor #2"), ({}, .setMode .any)]

/-- What the editor shows. -/
def officeSet : ConditionSet := ⟨.any, [⟨.essid, .contains, "5\" floor #2"⟩]⟩

/-- The file that the store with this set is saved in. -/
def officeFile : Codec.Bytes :=
  StoreFile.encode (officeHandle.store.make (.stored (.location, "office") officeSet)).entries

theorem applied_set_returns_office :
    Store.openAt officeDisk "nwam.db" = .ok officeStore ∧
      officeEditor.conditionSet = .ok officeSet ∧
      Replaces officeHandle.disk "nwam.db" officeFile ∧
      (officeEditor.apply officeHandle).1 = .ok () ∧
      ∃ reopened, Store.openAt (officeEditor.apply officeHandle).2.disk "nwam.db" = .ok reopened ∧
        reopened.setOf .location "office" = officeSet ∧
        reopened.contains .ncu "office" = false ∧ reopened.names .location = ["office"] := by
  have hopen : Store.openAt officeDisk "nwam.db" = .ok officeStore := by
    have hread : FileSystem.read officeDisk "nwam.db" =
        .ok (StoreFile.encode officeStore.entries) := by
      rfl
    have hes : Entry.WellFormed officeStore.entries :=
      ⟨by decide, by simp [officeStore, ConditionSet.Valid, Mode.isConditional]⟩
    rw [Store.openAt, hread]
    simp only [StoreFile.decode_encode hes (by decide +kernel)]
    rfl
  have hname : ¬Text.AllWhite officeHandle.name.toList := by
    intro hwhite
    exact absurd (hwhite 'o' (by decide)) (by decide)
  have hset : officeEditor.conditionSet = .ok officeSet := by rfl
  have hreplaces : Replaces officeHandle.disk "nwam.db" officeFile := by
    have hwrite : (FileSystem.write officeHandle.disk "nwam.db.tmp" officeFile).1 = .ok () := by
      decide +kernel
    have hrename : (FileSystem.rename (FileSystem.write officeHandle.disk "nwam.db.tmp"
        officeFile).2 "nwam.db.tmp" "nwam.db").1 = .ok () := by
      decide +kernel
    exact ⟨_, _, Prod.ext hwrite rfl, Prod.ext hrename rfl⟩
  obtain ⟨hok, reopened, hreopen, hview, -, hothers, hnames, -, -⟩ :=
    applied_set_returns (Disk.replaceable_disk "nwam.db") hopen [.remove .ncu "office"]
      (x := officeHandle) rfl hname hset (by decide +kernel) hreplaces
  refine ⟨hopen, hset, hreplaces, hok, reopened, hreopen, congrArg (·.staged) hview, ?_, ?_⟩
  · rw [(hothers .ncu "office" (by decide)).2]
    decide +kernel
  · rw [hnames]
    decide +kernel

end Editor

end NetActivation
