import NetActivation.Codec.Bytes

set_option autoImplicit false

/-! # File systems

What a store needs of a file system: to read a file, to write one whole, and to rename and remove
one. Any of these may fail at any time.

A store writes a file beside its own and gives it the path of its own. What it relies on is that a
file holds what was written to it, and that nothing of this touches its own file except a renaming
that succeeds. An operation that fails may leave anything in the file beside. -/

namespace NetActivation

/-- Why an operation on a file failed. -/
inductive FileError where
  | notFound
  | notADirectory
  | isADirectory
  | nameTooLong
  /-- the directory is in use by the path itself -/
  | busy
  /-- no name holds the character with the number zero -/
  | nameWithNul
  /-- any other reason, in the system's words -/
  | other (reason : String)
  deriving DecidableEq, Repr

/-- The system's words for a failure. -/
def FileError.message : FileError → String
  | .notFound => "No such file or directory (os error 2)"
  | .notADirectory => "Not a directory (os error 20)"
  | .isADirectory => "Is a directory (os error 21)"
  | .nameTooLong => "File name too long (os error 36)"
  | .busy => "Device or resource busy (os error 16)"
  | .nameWithNul => "file name contained an unexpected NUL byte"
  | .other reason => reason

class FileSystem (σ : Type) where
  /-- the bytes of a file -/
  read : σ → String → Except FileError Codec.Bytes
  /-- makes a file of bytes, in place of one that is there -/
  write : σ → String → Codec.Bytes → Except FileError Unit × σ
  /-- gives a file another path, in place of a file that is there -/
  rename : σ → String → String → Except FileError Unit × σ
  remove : σ → String → Except FileError Unit × σ

namespace FileSystem

/-- The path of the file that is written beside the one at a path, to take its place. -/
def staging (path : String) : String := path ++ ".tmp"

/-- Whether the file at a path can be replaced on file systems of a type. -/
structure Replaceable (σ : Type) [FileSystem σ] (path : String) : Prop where
  /-- the file beside holds what was written to it -/
  read_written : ∀ {disk disk' : σ} {bytes : Codec.Bytes},
    write disk (staging path) bytes = (.ok (), disk') → read disk' (staging path) = .ok bytes
  /-- writing the file beside leaves the file as it is, even if it fails -/
  read_write : ∀ (disk : σ) (bytes : Codec.Bytes),
    read (write disk (staging path) bytes).2 path = read disk path
  /-- the file beside takes the place of the file -/
  read_renamed : ∀ {disk disk' : σ},
    rename disk (staging path) path = (.ok (), disk') → read disk' path = read disk (staging path)
  /-- a renaming that fails leaves the file as it is -/
  read_rename_error : ∀ {disk disk' : σ} {e : FileError},
    rename disk (staging path) path = (.error e, disk') → read disk' path = read disk path
  /-- removing the file beside leaves the file as it is, even if it fails -/
  read_remove : ∀ disk : σ, read (remove disk (staging path)).2 path = read disk path

end FileSystem

end NetActivation
