/-
Who takes part.

A session may only go on if the local member is among those who have met, and for
signing nobody else may be there than the members of the vault.
-/
import QuorumVault.Error
import QuorumVault.Text.Quoted

namespace QuorumVault.Committee

/-- What is wrong with those who have met. -/
inductive Fault where
  | absent (party : String) (committee : List String)
  | stranger (party : String)
deriving DecidableEq, Repr

def Fault.error : Fault → Error
  | .absent party committee =>
    .of .validation
      ("local party " ++ party ++ " is not part of committee " ++ Text.quoteList committee)
  | .stranger party => .of .validation ("party " ++ party ++ " is not a signer of this vault")

/-- Checks those who have met, for signing also against the members of the vault. -/
def check (committee : List String) (party : String) (signers : Option (List String)) :
    Except Fault Unit :=
  if party ∉ committee then .error (.absent party committee)
  else
    match signers.bind fun s => committee.find? fun p => p ∉ s with
    | some stranger => .error (.stranger stranger)
    | none => .ok ()

end QuorumVault.Committee
