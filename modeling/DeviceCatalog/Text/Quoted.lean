import DeviceCatalog.Text.Printable

/-!
Texts quoted for a message: in double quotes, with escapes for quotes, backslashes and what a
reader could not see.
-/

namespace DeviceCatalog.Text

/-- The hexadecimal digits of a number, in lower case and without leading zeros. -/
def hexDigits (number : Nat) : List Char := Nat.toDigits 16 number

def quotedChar (char : Char) : List Char :=
  match char with
  | '\x00' => ['\\', '0']
  | '\t' => ['\\', 't']
  | '\n' => ['\\', 'n']
  | '\r' => ['\\', 'r']
  | '"' => ['\\', '"']
  | '\\' => ['\\', '\\']
  | _ =>
    if isPrintable char then [char]
    else ['\\', 'u', '\x7b'] ++ hexDigits char.toNat ++ ['\x7d']

def quoted (text : String) : String :=
  String.ofList (['"'] ++ text.toList.flatMap quotedChar ++ ['"'])

end DeviceCatalog.Text
