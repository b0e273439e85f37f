import NetActivation.Files.FileSystem

set_option autoImplicit false

/-! # File systems with faults

A file system on which operations fail as planned, whatever it would do by itself. A write that
fails leaves half of the bytes. Main statement: `replaceable_faulty`, no plan of faults endangers a
file that can be replaced. -/

namespace NetActivation

/-- A file system with the faults that are planned for the next operations, one each. -/
structure Faulty (σ : Type) where
  disk : σ
  plan : List (Option FileError)
  deriving DecidableEq, Repr

namespace Faulty

variable {σ : Type} [FileSystem σ]

/-- The fault that is planned for the next operation. -/
def fault? (f : Faulty σ) : Option FileError := f.plan.head?.join

/-- The file system with the next fault behind it. -/
def goOn (f : Faulty σ) (disk : σ) : Faulty σ := ⟨disk, f.plan.tail⟩

instance : FileSystem (Faulty σ) where
  read f path := FileSystem.read f.disk path
  write f path bytes :=
    match f.fault? with
    | some e => (.error e, f.goOn (FileSystem.write f.disk path (bytes.take (bytes.length / 2))).2)
    | none =>
      let (result, disk) := FileSystem.write f.disk path bytes
      (result, f.goOn disk)
  rename f source target :=
    match f.fault? with
    | some e => (.error e, f.goOn f.disk)
    | none =>
      let (result, disk) := FileSystem.rename f.disk source target
      (result, f.goOn disk)
  remove f path :=
    match f.fault? with
    | some e => (.error e, f.goOn f.disk)
    | none =>
      let (result, disk) := FileSystem.remove f.disk path
      (result, f.goOn disk)

/-- **Faults endanger no file that can be replaced.** -/
theorem replaceable_faulty {path : String} (h : FileSystem.Replaceable σ path) :
    FileSystem.Replaceable (Faulty σ) path where
  read_written := by
    intro f f' bytes hw
    simp only [FileSystem.write] at hw
    split at hw
    · exact absurd hw (by simp)
    · simp only [Prod.mk.injEq] at hw
      obtain ⟨hok, rfl⟩ := hw
      exact h.read_written (Prod.ext hok rfl)
  read_write := by
    intro f bytes
    simp only [FileSystem.write]
    split
    · exact h.read_write f.disk _
    · exact h.read_write f.disk bytes
  read_renamed := by
    intro f f' hr
    simp only [FileSystem.rename] at hr
    split at hr
    · exact absurd hr (by simp)
    · simp only [Prod.mk.injEq] at hr
      obtain ⟨hok, rfl⟩ := hr
      exact h.read_renamed (Prod.ext hok rfl)
  read_rename_error := by
    intro f f' e hr
    simp only [FileSystem.rename] at hr
    split at hr
    · simp only [Prod.mk.injEq] at hr
      obtain ⟨-, rfl⟩ := hr
      rfl
    · simp only [Prod.mk.injEq] at hr
      obtain ⟨herror, rfl⟩ := hr
      exact h.read_rename_error (Prod.ext herror rfl)
  read_remove := by
    intro f
    simp only [FileSystem.remove]
    split
    · rfl
    · exact h.read_remove f.disk

end Faulty

end NetActivation
