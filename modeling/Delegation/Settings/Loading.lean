import Delegation.Settings.Reading
import Delegation.Log

/-!
# Loading settings

Settings are loaded from a file, which may be missing, be a directory or hold
bytes that are no text.  A successful load is logged.
-/

namespace Delegation

inductive FileFault where
  | notFound
  | notDirectory
  | isDirectory
  | notText
  deriving DecidableEq, Repr

def FileFault.message : FileFault → String
  | .notFound => "No such file or directory (os error 2)"
  | .notDirectory => "Not a directory (os error 20)"
  | .isDirectory => "Is a directory (os error 21)"
  | .notText => "stream did not contain valid UTF-8"

structure Loading where
  result : Except SettingsFault Settings
  log : List LogEntry

def Settings.readBytes (path : String) (content : Except FileFault ByteArray) :
    Except SettingsFault Settings := do
  let fail (fault : FileFault) : SettingsFault := .unreadable path fault.message
  let bytes ← content.mapError fail
  match String.fromUTF8? bytes with
  | none => .error (fail .notText)
  | some text => Settings.read text

def Settings.load (path : String) (content : Except FileFault ByteArray) : Loading :=
  let result := Settings.readBytes path content
  match result with
  | .ok settings => ⟨result, [.settingsLoaded path settings.strategies.length]⟩
  | .error _ => ⟨result, []⟩

end Delegation
