import NetActivation.Files.Disk
import NetActivation.Proofs.Lists

set_option autoImplicit false

/-! # Files on a disk can be replaced

The path of a file and that of the file beside it lead through the same directories and part at the
last name. A change to the file beside it takes no directory away, so that the path of the file
still leads to the same place, and it changes nothing there. This holds of paths with any names and
separators in them (`replaceable_disk`). -/

namespace NetActivation.Disk

/-! ## Locations -/

theorem get?_erase_of_ne {d : Disk} {k l : Location} (h : k ≠ l) :
    (d.erase l).get? k = d.get? k := by
  simp only [get?, erase, lookup_filter_ne d.nodes h]

theorem get?_put_of_ne {d : Disk} {k l : Location} {n : FileNode} (h : k ≠ l) :
    (d.put l n).get? k = d.get? k := by
  have hk : (k == l) = false := by simpa using h
  simp only [get?, put, erase, List.lookup_cons, hk, lookup_filter_ne d.nodes h]

theorem get?_put_self {d : Disk} {l : Location} {n : FileNode} (h : Location.isOuter l = false) :
    (d.put l n).get? l = some n := by
  simp [get?, put, h]

/-! ## Keeping directories -/

/-- Whether everything that is a directory on one disk is one on another. -/
def Keeps (d d' : Disk) : Prop := ∀ k, d.get? k = some .directory → d'.get? k = some .directory

theorem keeps_erase {d : Disk} {l : Location} (h : d.get? l ≠ some .directory) :
    Keeps d (d.erase l) := by
  intro k hk
  have hne : k ≠ l := by
    rintro rfl
    exact h hk
  rw [get?_erase_of_ne hne]
  exact hk

theorem Keeps.refl (d : Disk) : Keeps d d := fun _ hk => hk

theorem Keeps.put {d d' : Disk} {l : Location} {n : FileNode} (h : Keeps d d')
    (hl : d.get? l ≠ some .directory) : Keeps d (d'.put l n) := by
  intro k hk
  have hne : k ≠ l := by
    rintro rfl
    exact hl hk
  rw [get?_put_of_ne hne]
  exact h k hk

/-- A step into a directory that is kept leads to the same place. -/
theorem Keeps.enter {d d' : Disk} (h : Keeps d d') {l r : Location} {name : String}
    (hr : d.enter l name = .ok r) : d'.enter l name = .ok r := by
  simp only [Disk.enter] at hr ⊢
  split
  · next hhere => simpa [hhere] using hr
  · next hhere =>
      rw [if_neg hhere] at hr
      split
      · next hup => simpa [hup] using hr
      · next hup =>
          rw [if_neg hup] at hr
          cases hname : checkName name with
          | error e => simp [hname, bind, Except.bind] at hr
          | ok u =>
              simp only [hname, bind, Except.bind] at hr ⊢
              split at hr
              · next hdir => rw [h _ hdir]; exact hr
              · exact absurd hr (by simp)
              · exact absurd hr (by simp)

theorem Keeps.follow {d d' : Disk} (h : Keeps d d') {names : List String} {l r : Location}
    (hr : names.foldlM d.enter l = .ok r) : names.foldlM d'.enter l = .ok r := by
  induction names generalizing l with
  | nil => simpa using hr
  | cons name names ih =>
      simp only [List.foldlM_cons] at hr ⊢
      cases hname : d.enter l name with
      | error e => simp [hname, bind, Except.bind] at hr
      | ok m =>
          simp only [hname, bind, Except.bind] at hr
          simp only [h.enter hname, bind, Except.bind]
          exact ih hr

/-! ## Paths -/

/-- No name can be one that holds the character with the number zero. -/
def HasNul (names : List String) : Prop := (names.any fun n => n.toList.contains '\x00') = true

/-- A path without names leads to the directory that it starts from. -/
theorem locate_nil (d : Disk) (closed : Bool) : d.locate ⟨[], closed⟩ = .ok none := rfl

/-- Where a path with a last name leads, if it leads anywhere. -/
theorem locate_concat_eq_ok_iff {d : Disk} {around : List String} {name : String} {closed : Bool}
    {x : Option Location} :
    d.locate ⟨around ++ [name], closed⟩ = .ok x ↔
      ¬HasNul (around ++ [name]) ∧ ∃ l, around.foldlM d.enter [] = .ok l ∧
        if name = Path.here ∨ name = Path.up then x = none
        else checkName name = .ok () ∧ x = some (l ++ [name]) := by
  by_cases hnul : HasNul (around ++ [name])
  · simp only [hnul, not_true_eq_false, false_and, iff_false]
    rw [HasNul] at hnul
    simp only [locate, hnul, if_true]
    intro h
    exact absurd h (by simp [bind, Except.bind, throw, throwThe, MonadExceptOf.throw])
  · simp only [hnul, not_false_eq_true, true_and]
    rw [HasNul] at hnul
    simp only [locate, hnul, if_false, List.getLast?_concat, List.dropLast_concat, bind,
      Except.bind, pure, Except.pure, Bool.false_eq_true, Bool.or_eq_true, decide_eq_true_eq]
    cases hl : around.foldlM d.enter [] with
    | error e => simp
    | ok l =>
        by_cases hname : name = Path.here ∨ name = Path.up
        · simp only [if_pos hname, Except.ok.injEq, exists_eq_left']
          exact eq_comm
        · cases hcheck : checkName name with
          | error e => simp [hname]
          | ok u =>
              simp only [if_neg hname, Except.ok.injEq, exists_eq_left', true_and]
              exact eq_comm

/-- The way of a path that leads somewhere stays as it is when directories are kept. -/
theorem Keeps.locate {d d' : Disk} (h : Keeps d d') {p : Path} {x : Option Location}
    (hx : d.locate p = .ok x) : d'.locate p = .ok x := by
  obtain ⟨names, closed⟩ := p
  rcases List.eq_nil_or_concat names with rfl | ⟨around, name, rfl⟩
  · exact hx
  · rw [List.concat_eq_append, locate_concat_eq_ok_iff] at hx ⊢
    obtain ⟨hnul, l, hl, hrest⟩ := hx
    exact ⟨hnul, l, h.follow hl, hrest⟩

/-- The place of a path's last name is no directory around another place. -/
theorem isOuter_of_locate {d : Disk} {p : Path} {l : Location} (h : d.locate p = .ok (some l)) :
    Location.isOuter l = false := by
  obtain ⟨names, closed⟩ := p
  rcases List.eq_nil_or_concat names with rfl | ⟨around, name, rfl⟩
  · rw [locate_nil] at h
    exact absurd h (by simp)
  · rw [List.concat_eq_append, locate_concat_eq_ok_iff] at h
    obtain ⟨-, m, -, hrest⟩ := h
    split at hrest
    · exact absurd hrest (by simp)
    · next hname =>
        obtain ⟨-, hl⟩ := hrest
        rw [Option.some.injEq] at hl
        rw [not_or] at hname
        simp [hl, Location.isOuter, hname.2]

/-- What is read at a path depends on where the path leads and on what is there. -/
theorem read_congr {d d' : Disk} {p : Path} {x : Option Location} (hx : d.locate p = .ok x)
    (hx' : d'.locate p = .ok x) (hsame : ∀ l, x = some l → d'.get? l = d.get? l) :
    d'.read p = d.read p := by
  rw [Disk.read, Disk.read, file, file, hx, hx']
  cases x with
  | none => rfl
  | some l => simp only [bind, Except.bind, hsame l rfl]

/-! ## The file beside a file -/

/-- What is written behind a text goes to its last field, if it holds no separator. -/
theorem exists_fields_append {sep : Char} {t : List Char} (ht : sep ∉ t) (s : List Char) :
    ∃ front last, Text.fields sep s = front ++ [last] ∧
      Text.fields sep (s ++ t) = front ++ [last ++ t] := by
  -- The last field is found from the front, so the induction carries the fields before it along.
  induction s with
  | nil => exact ⟨[], [], rfl, Text.fields_of_not_mem ht⟩
  | cons c s ih =>
      obtain ⟨front, last, hs, hst⟩ := ih
      by_cases hc : c = sep
      · refine ⟨[] :: front, last, ?_, ?_⟩
        · rw [Text.fields, if_pos hc, hs]
          rfl
        · rw [List.cons_append, Text.fields, if_pos hc, hst]
          rfl
      · have hcons {u f : List Char} {fs : List (List Char)} (hu : Text.fields sep u = f :: fs) :
            Text.fields sep (c :: u) = (c :: f) :: fs := by
          rw [Text.fields, if_neg hc, hu]
        cases front with
        | nil => exact ⟨[], c :: last, hcons hs, hcons hst⟩
        | cons f front => exact ⟨(c :: f) :: front, last, hcons hs, hcons hst⟩

/-- The path of a file and of the file beside it: the ending goes to the last name, or it is a name
    of its own behind a separator. -/
theorem ofText_staging (path : String) :
    ∃ around, Path.ofText path = ⟨around, true⟩ ∧
        Path.ofText (FileSystem.staging path) = ⟨around ++ [".tmp"], false⟩ ∨
      ∃ name, Path.ofText path = ⟨around ++ [name], false⟩ ∧
        Path.ofText (FileSystem.staging path) = ⟨around ++ [name ++ ".tmp"], false⟩ := by
  obtain ⟨front, last, hs, hst⟩ :=
    exists_fields_append (show '/' ∉ ".tmp".toList by decide) path.toList
  refine ⟨(front.filter (!·.isEmpty)).map String.ofList, ?_⟩
  have htext : (FileSystem.staging path).toList = path.toList ++ ".tmp".toList := by
    simp [FileSystem.staging]
  cases last with
  | nil =>
      left
      simp only [Path.ofText, htext, hs, hst]
      simp
  | cons c last =>
      right
      refine ⟨String.ofList (c :: last), ?_⟩
      simp only [Path.ofText, htext, hs, hst]
      simp [String.append_assoc]

theorem hasNul_concat {around : List String} {name : String} :
    HasNul (around ++ [name]) ↔ HasNul around ∨ '\x00' ∈ name.toList := by
  simp [HasNul]

theorem checkName_of_append {name ending : String} (h : checkName (name ++ ending) = .ok ()) :
    checkName name = .ok () := by
  simp only [checkName, String.utf8ByteSize_append] at h ⊢
  split at h
  · exact absurd h (by simp)
  · rw [if_neg (by omega)]

/-- A step into a directory by its own name. -/
theorem enter_eq_ok {d : Disk} {l r : Location} {name : String} (h : d.enter l name = .ok r)
    (hname : ¬(name = Path.here ∨ name = Path.up)) :
    checkName name = .ok () ∧ r = l ++ [name] ∧ d.get? r = some .directory := by
  rw [not_or] at hname
  rw [enter, if_neg hname.1, if_neg hname.2] at h
  cases hcheck : checkName name with
  | error e => simp [hcheck, bind, Except.bind] at h
  | ok u =>
      simp only [hcheck, bind, Except.bind] at h
      split at h
      · next hdir =>
          simp only [Except.ok.injEq] at h
          subst h
          exact ⟨rfl, rfl, hdir⟩
      · exact absurd h (by simp)
      · exact absurd h (by simp)

/-- A path whose names can all be followed leads where they lead, unless its last name is a way to
    another directory. -/
theorem exists_locate_of_follow {d : Disk} {names : List String} {m : Location} (closed : Bool)
    (hnul : ¬HasNul names) (hm : names.foldlM d.enter [] = .ok m) :
    ∃ x, d.locate ⟨names, closed⟩ = .ok x ∧ ∀ k, x = some k → k = m := by
  rcases List.eq_nil_or_concat names with rfl | ⟨around, name, rfl⟩
  · exact ⟨none, locate_nil d closed, by simp⟩
  · rw [List.concat_eq_append] at hnul hm ⊢
    rw [List.foldlM_append] at hm
    cases hl : around.foldlM d.enter [] with
    | error e => simp [hl, bind, Except.bind] at hm
    | ok l =>
        have henter : d.enter l name = .ok m := by
          cases hn : d.enter l name with
          | error e => simp [hl, hn, bind, Except.bind] at hm
          | ok r => simpa [hl, hn, bind, Except.bind, pure, Except.pure] using hm
        by_cases hname : name = Path.here ∨ name = Path.up
        · exact ⟨none, locate_concat_eq_ok_iff.2 ⟨hnul, l, hl, by rw [if_pos hname]⟩, by simp⟩
        · obtain ⟨hcheck, rfl, -⟩ := enter_eq_ok henter hname
          refine ⟨some (l ++ [name]), locate_concat_eq_ok_iff.2 ⟨hnul, l, hl, ?_⟩, ?_⟩
          · rw [if_neg hname]
            exact ⟨hcheck, rfl⟩
          · intro k hk
            exact (Option.some.inj hk).symm

/-- Without an ending of the last name a path leads to the same directory. -/
theorem exists_locate_of_ending {d : Disk} {around : List String} {name ending : String}
    {closed : Bool} {l : Location}
    (h : d.locate ⟨around ++ [name ++ ending], closed⟩ = .ok (some l)) :
    ∃ x m, d.locate ⟨around ++ [name], closed⟩ = .ok x ∧ l = m ++ [name ++ ending] ∧
      ∀ k, x = some k → k = m ++ [name] := by
  obtain ⟨hnul, m, hm, hrest⟩ := locate_concat_eq_ok_iff.1 h
  have hnul' : ¬HasNul (around ++ [name]) := by
    intro h
    apply hnul
    rw [hasNul_concat] at h ⊢
    exact h.imp id fun h => by simp [h]
  split at hrest
  · exact absurd hrest (by simp)
  · obtain ⟨hcheck, hl⟩ := hrest
    rw [Option.some.injEq] at hl
    by_cases hname : name = Path.here ∨ name = Path.up
    · exact ⟨none, m, locate_concat_eq_ok_iff.2 ⟨hnul', m, hm, by rw [if_pos hname]⟩, hl, by simp⟩
    · refine ⟨some (m ++ [name]), m, locate_concat_eq_ok_iff.2 ⟨hnul', m, hm, ?_⟩, hl, ?_⟩
      · rw [if_neg hname]
        exact ⟨checkName_of_append hcheck, rfl⟩
      · intro k hk
        exact (Option.some.inj hk).symm

/-- If the path of the file beside a file leads somewhere, then so does the path of the file, and
    to another place. -/
theorem exists_locate_of_staging {d : Disk} {path : String} {l : Location}
    (h : d.locate (.ofText (FileSystem.staging path)) = .ok (some l)) :
    ∃ x, d.locate (.ofText path) = .ok x ∧ ∀ k, x = some k → k ≠ l := by
  obtain ⟨around, ⟨hpath, hstaging⟩ | ⟨name, hpath, hstaging⟩⟩ := ofText_staging path
  · -- The path ends in a separator: the file beside stands in the directory that it leads to.
    rw [hstaging, locate_concat_eq_ok_iff] at h
    obtain ⟨hnul, m, hm, hrest⟩ := h
    rw [if_neg (by decide), Option.some.injEq] at hrest
    have hnul' : ¬HasNul around := fun h => hnul (hasNul_concat.2 (Or.inl h))
    obtain ⟨x, hx, hm'⟩ := exists_locate_of_follow true hnul' hm
    refine ⟨x, by rw [hpath]; exact hx, ?_⟩
    intro k hk hkl
    rw [hm' k hk, hrest.2] at hkl
    simp at hkl
  · -- The path ends in a name: the file beside stands in the same directory.
    rw [hstaging] at h
    obtain ⟨x, m, hx, hl, hm⟩ := exists_locate_of_ending h
    refine ⟨x, by rw [hpath]; exact hx, ?_⟩
    intro k hk hkl
    rw [hm k hk, hl] at hkl
    have hname : name = name ++ ".tmp" := by simpa using hkl
    have hlength := congrArg String.length hname
    simp at hlength

/-- Changing what the path of the file beside a file leads to leaves the file as it is. -/
theorem read_of_staging {d d' : Disk} {path : String} {l : Location}
    (hl : d.locate (.ofText (FileSystem.staging path)) = .ok (some l)) (hkeeps : Keeps d d')
    (hsame : ∀ k, k ≠ l → d'.get? k = d.get? k) :
    d'.read (.ofText path) = d.read (.ofText path) := by
  obtain ⟨x, hx, hne⟩ := exists_locate_of_staging hl
  exact read_congr hx (hkeeps.locate hx) fun k hk => hsame k (hne k hk)

/-! ## Replacing -/

/-- A file is where its path leads, and the path does not insist on a directory. -/
theorem file_eq_ok_iff {d : Disk} {p : Path} {l : Location} {bytes : Codec.Bytes} :
    d.file p = .ok (l, bytes) ↔
      d.locate p = .ok (some l) ∧ d.get? l = some (.file bytes) ∧ p.closed = false := by
  rw [file]
  cases hx : d.locate p with
  | error e => simp [bind, Except.bind]
  | ok x =>
      cases x with
      | none => simp [bind, Except.bind, throw, throwThe, MonadExceptOf.throw]
      | some k =>
          simp only [bind, Except.bind, Except.ok.injEq, Option.some.injEq]
          constructor
          · intro h
            split at h
            · exact absurd h (by simp [throw, throwThe, MonadExceptOf.throw])
            · exact absurd h (by simp [throw, throwThe, MonadExceptOf.throw])
            · next content hfile =>
                split at h
                · exact absurd h (by simp [throw, throwThe, MonadExceptOf.throw])
                · next hclosed =>
                    simp only [pure, Except.pure, Except.ok.injEq, Prod.mk.injEq] at h
                    obtain ⟨rfl, rfl⟩ := h
                    exact ⟨rfl, hfile, by simpa using hclosed⟩
          · rintro ⟨rfl, hfile, hclosed⟩
            simp [hfile, hclosed, pure, Except.pure]

theorem read_of_file {d : Disk} {p : Path} {l : Location} {bytes : Codec.Bytes}
    (h : d.file p = .ok (l, bytes)) : d.read p = .ok bytes := by
  rw [Disk.read, h]
  rfl

/-- A path still leads to the same place behind a change that keeps directories, and so to the file
    that the change put there. -/
theorem read_put {d d' : Disk} {p : Path} {l : Location} {bytes : Codec.Bytes}
    (hl : d.locate p = .ok (some l)) (hclosed : p.closed = false)
    (hkeeps : Keeps d (d'.put l (.file bytes))) :
    (d'.put l (.file bytes)).read p = .ok bytes := by
  apply read_of_file (l := l)
  rw [file_eq_ok_iff]
  exact ⟨hkeeps.locate hl, get?_put_self (isOuter_of_locate hl), hclosed⟩

/-- What a write on a disk can do. -/
theorem write_cases (d : Disk) (p : Path) (bytes : Codec.Bytes) :
    (∃ e, d.write p bytes = (.error e, d)) ∨
    ∃ l, d.locate p = .ok (some l) ∧ p.closed = false ∧ d.get? l ≠ some .directory ∧
      d.write p bytes = (.ok (), d.put l (.file bytes)) := by
  rw [Disk.write]
  split
  · exact Or.inl ⟨_, rfl⟩
  · exact Or.inl ⟨_, rfl⟩
  · next l hl =>
      split
      · exact Or.inl ⟨_, rfl⟩
      · next h =>
          simp only [Bool.or_eq_true, beq_iff_eq, not_or, Bool.not_eq_true] at h
          exact Or.inr ⟨l, hl, h.1, h.2, rfl⟩

/-- What a renaming on a disk can do. -/
theorem rename_cases (d : Disk) (source target : Path) :
    (∃ e, d.rename source target = (.error e, d)) ∨
    ∃ old new bytes, d.file source = .ok (old, bytes) ∧ d.locate target = .ok (some new) ∧
      target.closed = false ∧ d.get? new ≠ some .directory ∧
      d.rename source target = (.ok (), (d.erase old).put new (.file bytes)) := by
  rw [Disk.rename]
  split
  · exact Or.inl ⟨_, rfl⟩
  · exact Or.inl ⟨_, rfl⟩
  · exact Or.inl ⟨_, rfl⟩
  · next old bytes new hold hnew =>
      split
      · exact Or.inl ⟨_, rfl⟩
      · next hclosed =>
          split
          · exact Or.inl ⟨_, rfl⟩
          · next hdir =>
              simp only [beq_iff_eq] at hdir
              exact Or.inr ⟨old, new, bytes, hold, hnew, by simpa using hclosed, hdir, rfl⟩

/-- **A file on a disk can be replaced**, whatever its path. -/
theorem replaceable_disk (path : String) : FileSystem.Replaceable Disk path where
  read_written := by
    intro d d' bytes h
    change Disk.write d _ bytes = _ at h
    change Disk.read d' _ = _
    rcases write_cases d (.ofText (FileSystem.staging path)) bytes with
      ⟨e, he⟩ | ⟨l, hl, hclosed, hdir, hok⟩
    · simp [he] at h
    · rw [hok, Prod.mk.injEq] at h
      rw [← h.2]
      exact read_put hl hclosed ((Keeps.refl d).put hdir)
  read_write := by
    intro d bytes
    change Disk.read (Disk.write d _ bytes).2 _ = Disk.read d _
    rcases write_cases d (.ofText (FileSystem.staging path)) bytes with
      ⟨e, he⟩ | ⟨l, hl, -, hdir, hok⟩
    · rw [he]
    · rw [hok]
      exact read_of_staging hl ((Keeps.refl d).put hdir) fun k hk => get?_put_of_ne hk
  read_renamed := by
    intro d d' h
    change Disk.rename d _ _ = _ at h
    change Disk.read d' _ = Disk.read d _
    rcases rename_cases d (.ofText (FileSystem.staging path)) (.ofText path) with
      ⟨e, he⟩ | ⟨old, new, bytes, hold, hnew, hclosed, hdir, hok⟩
    · simp [he] at h
    · rw [hok, Prod.mk.injEq] at h
      -- What is taken away is a file, so no directory on the way to the target is lost.
      have hfile := (file_eq_ok_iff.1 hold).2.1
      have herase : Keeps d (d.erase old) := keeps_erase (by simp [hfile])
      rw [← h.2, read_of_file hold]
      exact read_put hnew hclosed (herase.put hdir)
  read_rename_error := by
    intro d d' e h
    change Disk.rename d _ _ = _ at h
    change Disk.read d' _ = Disk.read d _
    rcases rename_cases d (.ofText (FileSystem.staging path)) (.ofText path) with
      ⟨e, he⟩ | ⟨old, new, bytes, -, -, -, -, hok⟩
    · rw [he, Prod.mk.injEq] at h
      rw [h.2]
    · simp [hok] at h
  read_remove := by
    intro d
    change Disk.read (Disk.remove d _).2 _ = Disk.read d _
    rw [Disk.remove]
    split
    · rfl
    · next l bytes hl =>
        obtain ⟨hlocate, hfile, -⟩ := file_eq_ok_iff.1 hl
        exact read_of_staging hlocate (keeps_erase (by simp [hfile]))
          fun k hk => get?_erase_of_ne hk

end NetActivation.Disk
