/-!
What is printed when a command fails.
-/

namespace DeviceCatalog.CommandLine

structure Failure where
  message : String
  /-- What led to the failure, the nearest cause first. -/
  causes : List String := []
  /-- What is said on the error output before the failure itself. -/
  remark : Option String := none
deriving DecidableEq

namespace Failure

def indented (indent text : String) : String :=
  String.intercalate ("\n" ++ indent) ((text.toList.splitOn '\n').map String.ofList)

/-- A number in front of a cause, set flush right. -/
def label (index : Nat) : String :=
  let digits := toString index
  String.ofList (List.replicate (5 - digits.length) ' ') ++ digits ++ ": "

def causeLines : List String → List String
  | [cause] => ["    " ++ indented "    " cause]
  | causes => causes.zipIdx.map fun (cause, index) => label index ++ indented "       " cause

def lines (failure : Failure) : List String :=
  failure.remark.toList ++ ["Error: " ++ failure.message] ++
    if failure.causes.isEmpty then [] else "" :: "Caused by:" :: causeLines failure.causes

end Failure

end DeviceCatalog.CommandLine
