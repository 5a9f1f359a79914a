import CartridgeFixture.FileSystem.Walk

/-!
# Writing files

A file is written in two steps. Opening it for writing makes the file if the path leads to a free name, and
empties it otherwise; then the bytes are added. Either step may fail, and each tells the file system that it
leaves behind, so that what a failure leaves behind is a question with an answer.
-/
namespace CartridgeFixture

/-- Something that has been opened for writing. -/
inductive Handle where
  | file (number : Nat)
  | device (kind : Device)
  deriving DecidableEq, Repr

/-- Whether a device takes some bytes. -/
def Device.accepts : Device → List UInt8 → Bool
  | .sink, _ => true
  | .full, bytes => bytes.isEmpty

namespace FileSystem

/-- Opens what a path leads to: a free name becomes an empty file, and a file loses its contents. -/
def openEmpty (fs : FileSystem) (path : String) : Except Fault Handle × FileSystem :=
  match fs.destination path with
  | .error fault => (.error fault, fs)
  | .ok (.directory _) => (.error .isADirectory, fs)
  | .ok (.vacant location) => (.ok (.file fs.freshNumber), fs.create location)
  | .ok (.file number) => (.ok (.file number), fs.overwrite number [])
  | .ok (.device kind) => (.ok (.device kind), fs)

/-- Adds bytes to what has been opened. -/
def append (fs : FileSystem) (bytes : List UInt8) : Handle → Except Fault Unit × FileSystem
  | .file number => (.ok (), fs.overwrite number (fs.content number ++ bytes))
  | .device kind => (if kind.accepts bytes then .ok () else .error .storageFull, fs)

/-- Creates or replaces the file at a path. -/
def writeFile (fs : FileSystem) (path : String) (bytes : List UInt8) : Except Fault Unit × FileSystem :=
  match fs.openEmpty path with
  | (.error fault, after) => (.error fault, after)
  | (.ok handle, after) => after.append bytes handle

end FileSystem

end CartridgeFixture
