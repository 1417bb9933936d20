/-!
Why a file cannot be read.
-/

namespace DeviceCatalog

inductive FileFault where
  | notFound
  | notDirectory
  | isDirectory
  /-- Any other cause, with its wording. -/
  | other (reason : String)
deriving DecidableEq, Inhabited

def FileFault.message : FileFault → String
  | notFound => "No such file or directory (os error 2)"
  | notDirectory => "Not a directory (os error 20)"
  | isDirectory => "Is a directory (os error 21)"
  | other reason => reason

structure Files where
  contents : List (List String × String)

namespace Files

def parts (path : String) : List String := (path.toList.splitOn '/').map String.ofList

/-- The names on a path; a part that is empty or a single point leads nowhere else. -/
def names (path : String) : List String :=
  (parts path).filter fun part => part != "" && part != "."

def ofList (files : List (String × String)) : Files :=
  ⟨files.map fun file => (names file.1, file.2)⟩

def isDirectory (files : Files) (path : List String) : Bool :=
  path.isEmpty || files.contents.any fun file => path.isPrefixOf file.1 && path != file.1

/-- Walks along the parts of a path from a directory that is reached already. -/
def resolve (files : Files) (reached : List String) : List String → Except FileFault String
  | [] => .error .isDirectory
  | part :: rest =>
    if part = "" || part = "." then files.resolve reached rest
    else if part = ".." then files.resolve reached.dropLast rest
    else
      let path := reached ++ [part]
      if files.isDirectory path then files.resolve path rest
      else match files.contents.lookup path, rest with
        | some text, [] => .ok text
        | some _, _ => .error .notDirectory
        | none, _ => .error .notFound

def read (files : Files) (path : String) : Except FileFault String :=
  if path = "" then .error .notFound else files.resolve [] (parts path)

end Files

end DeviceCatalog
