import TxSubmission.Fault

/-!
Arguments by name. An operation has parameters, some of which may be left out. Arguments that name
no parameter, or leave one out that is needed, are refused before the operation begins.
-/

namespace TxSubmission

structure Signature where
  needed : List String := []
  optional : List String := []
deriving DecidableEq, Repr

namespace Signature

def admits (signature : Signature) (arguments : Members) : Bool :=
  signature.needed.all (fun name => (Members.get? name arguments).isSome) &&
    arguments.all fun (name, _) => name ∈ signature.needed ++ signature.optional

def check (signature : Signature) (arguments : Members) : Except Fault Unit :=
  if signature.admits arguments then .ok () else .error (.wrongType .arguments)

end Signature

end TxSubmission
