/-
Tasks that send a new vault to its owner.
-/
import QuorumVault.Json.Decoder

namespace QuorumVault

/-- The task of sending a vault, exactly as it is stored. -/
structure EmailBackupTask where
  name : String
  email : String
  fileName : String
  fileContent : String
deriving DecidableEq, Repr

namespace EmailBackupTask

/-- How a queue calls such tasks. -/
def taskType : String := "vault:email_backup"

/-- The shape of a task. -/
def decoder : Json.Decoder EmailBackupTask :=
  open Json.Decoder in
  record "EmailBackupTask"
    [field "name" string fun x t => { t with name := x },
      field "email" string fun x t => { t with email := x },
      field "file_name" string fun x t => { t with fileName := x },
      field "file_content" string fun x t => { t with fileContent := x }]
    ⟨"", "", "", ""⟩

def toJson (t : EmailBackupTask) : Json :=
  .object [("name", .string t.name), ("email", .string t.email), ("file_name", .string t.fileName),
    ("file_content", .string t.fileContent)]

/-- What is handed to the queue. -/
def payload (t : EmailBackupTask) : Bytes :=
  t.toJson.bytes

end EmailBackupTask

end QuorumVault
