/-!
Cutting a text at the first mark in it.
-/

namespace DeviceCatalog.Text

/-- What is before the first mark and, if there is one, what is after it. -/
def cut (mark : Char) (text : List Char) : List Char × Option (List Char) :=
  match text.span (· != mark) with
  | (before, []) => (before, none)
  | (before, _ :: after) => (before, some after)

end DeviceCatalog.Text
