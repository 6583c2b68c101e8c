/-
The names under which vaults are stored.

A vault is stored under its plugin, a dash, its ECDSA key and an ending.  A plugin's
name may hold dashes and even the ending, a key never does, so the name is split at
its last dash.
-/
import QuorumVault.Encoding.Hex
import QuorumVault.Error
import QuorumVault.Text.Parts

namespace QuorumVault

/-- What the name of a stored vault says. -/
structure BackupName where
  pluginId : String
  publicKey : String
deriving DecidableEq, Repr

namespace BackupName

def ending : String := ".vult"

/-- The characters of a name. -/
def chars (n : BackupName) : List Char :=
  n.pluginId.toList ++ '-' :: n.publicKey.toList ++ ending.toList

def text (n : BackupName) : String :=
  String.ofList n.chars

/-- Why a name is not one of a stored vault. -/
inductive Fault where
  | ending
  | noDash
  | notKey
deriving DecidableEq, Repr

def Fault.error : Fault → Error
  | .ending => .of .validation ("backup file must end with '" ++ BackupName.ending ++ "'")
  | .noDash => .of .validation "backup file must be '<plugin>-<key>'"
  | .notKey => .of .validation "backup file must end with a hex public key"

/-- What stands in front of the ending. -/
def stem? (cs : List Char) : Option (List Char) :=
  if ending.toList.isSuffixOf cs then some (cs.take (cs.length - ending.toList.length)) else none

/-- A text that can be a key: hexadecimal and not empty. -/
def isKey (text : String) : Bool :=
  text ≠ "" && (Hex.decode text).isOk

def ofText (name : String) : Except Fault BackupName :=
  match stem? name.toList with
  | none => .error .ending
  | some stem =>
    match Text.splitLast? '-' stem with
    | none => .error .noDash
    | some (plugin, key) =>
      if isKey (String.ofList key) then .ok ⟨String.ofList plugin, String.ofList key⟩
      else .error .notKey

end BackupName

end QuorumVault
