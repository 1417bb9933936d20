import DeviceCatalog.CommandLine.Run

/-!
The program over the file system and the environment of its process.
-/

namespace DeviceCatalog.CommandLine

/-- Says why the file system refused to read a file. -/
def faultOf : IO.Error → FileFault
  | .noFileOrDirectory .. => .notFound
  | .inappropriateType _ code _ => if code = 21 then .isDirectory else .notDirectory
  | .permissionDenied .. => .other "Permission denied (os error 13)"
  | error => .other error.toString

def readTextFile (path : String) : IO (Except FileFault String) := do
  match ← (IO.FS.readBinFile path).toBaseIO with
  | .error error => return .error (faultOf error)
  | .ok bytes =>
    match String.fromUTF8? bytes with
    | some text => return .ok text
    | none => return .error (.other "stream did not contain valid UTF-8")

def host : Host IO := { fileText := readTextFile, environment := fun name => IO.getEnv name }

end DeviceCatalog.CommandLine

open DeviceCatalog.CommandLine in
def main (words : List String) : IO UInt32 := do
  let report ← run host words
  IO.print (Report.textOf report.output)
  IO.eprint (Report.textOf report.errors)
  return UInt32.ofNat report.status
