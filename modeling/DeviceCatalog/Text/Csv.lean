/-!
Records of comma separated values. A value that holds a comma, a quote or a line feed stands in
quotes, with every quote in it written twice.
-/

namespace DeviceCatalog.Text.Csv

def isSpecial (char : Char) : Bool := char == ',' || char == '"' || char == '\n'

/-- Whether a text stands for itself, without quotes. -/
def isPlain (text : String) : Bool := !text.toList.any isSpecial

def doubleQuotes (value : List Char) : List Char :=
  value.flatMap fun char => if char = '"' then ['"', '"'] else [char]

def value (text : String) : List Char :=
  if isPlain text then text.toList else '"' :: doubleQuotes text.toList ++ ['"']

/-- One record, without the line feed that ends it. -/
def record (values : List String) : String :=
  String.ofList (List.intercalate [','] (values.map value))

end DeviceCatalog.Text.Csv
