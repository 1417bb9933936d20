import DeviceCatalog.Collection.IdMap
import DeviceCatalog.Text.Cut
import DeviceCatalog.Text.FormEncoded
import DeviceCatalog.Text.Quoted

/-!
Composite ids. A device or device type is addressed as a narrowed variant by a pure id, a dollar
sign and the encoded parameters of the narrowing: `plug$service_group_selection=socket`. Such ids
are never stored, so that whatever is handed out has to be understood when it comes back.
-/

namespace DeviceCatalog

/-- The values of each parameter, in order. -/
abbrev Parameters := IdMap (List String)

/-- Why a suffix is not an encoding of parameters; each case holds the offending segment. -/
inductive ModifierError where
  | semicolon (segment : String)
  | invalidEscape (segment : String)
  | emptyKey (segment : String)
deriving DecidableEq

def ModifierError.message : ModifierError → String
  | .semicolon segment => "invalid semicolon separator in " ++ Text.quoted segment
  | .invalidEscape segment => "invalid escape sequence in " ++ Text.quoted segment
  | .emptyKey segment => "empty modifier key in " ++ Text.quoted segment

namespace Parameters

def add (parameters : Parameters) (key value : String) : Parameters :=
  parameters.insert key ((parameters.get? key).getD [] ++ [value])

def addAll (parameters : Parameters) (pairs : List (String × String)) : Parameters :=
  pairs.foldl (fun result pair => result.add pair.1 pair.2) parameters

def decodeSegment (segment : List Char) : Except ModifierError (String × String) :=
  if segment.contains ';' then .error (.semicolon (String.ofList segment))
  else if !Text.FormEncoded.hasValidEscapes segment then
    .error (.invalidEscape (String.ofList segment))
  else
    let (key, value) := Text.cut '=' segment
    if key.isEmpty then .error (.emptyKey (String.ofList segment))
    else .ok (String.ofList (Text.FormEncoded.decode key),
      String.ofList (Text.FormEncoded.decode (value.getD [])))

/-- The segments between ampersands; empty ones mean nothing. -/
def segments (encoded : List Char) : List (List Char) :=
  (encoded.splitOn '&').filter (!·.isEmpty)

def decode (encoded : String) : Except ModifierError Parameters := do
  let pairs ← (segments encoded.toList).mapM decodeSegment
  return addAll IdMap.empty pairs

def encodePair (key value : String) : List Char :=
  Text.FormEncoded.encode key.toList ++ '=' :: Text.FormEncoded.encode value.toList

/-- One pair for each value, the keys in ascending order. -/
def encode (parameters : Parameters) : String :=
  String.ofList <| List.intercalate ['&'] <| parameters.entries.flatMap fun entry =>
    entry.2.map fun value => encodePair entry.1 value

end Parameters

namespace CompositeId

/-- The pure id and the parameters. A suffix that holds none, or cannot be decoded, is dropped. -/
def split (id : String) : String × Option Parameters :=
  match Text.cut '$' id.toList with
  | (_, none) => (id, none)
  | (pure, some suffix) =>
    match Parameters.decode (String.ofList suffix) with
    | .ok parameters =>
      (String.ofList pure, if parameters.isEmpty then none else some parameters)
    | .error _ => (String.ofList pure, none)

def pureId (id : String) : String := (split id).1

def join (pure : String) (parameters : Parameters) : String :=
  if parameters.isEmpty then pure else pure ++ "$" ++ parameters.encode

end CompositeId

inductive Modifier where
  /-- Keeps the services of one service group. -/
  | serviceGroup (key : String)
deriving DecidableEq

namespace Modifier

def key : Modifier → String
  | serviceGroup _ => "service_group_selection"

def value : Modifier → String
  | serviceGroup key => key

/-- The modifiers that parameters stand for. Parameters that are unknown or have no value are
passed over, and of several values the first counts. -/
def ofParameters (parameters : Parameters) : List Modifier :=
  parameters.entries.filterMap fun entry =>
    if entry.1 = "service_group_selection" then entry.2.head?.map serviceGroup else none

def toParameters (modifiers : List Modifier) : Parameters :=
  Parameters.addAll IdMap.empty (modifiers.map fun modifier => (modifier.key, modifier.value))

end Modifier

namespace CompositeId

def serviceGroup (pure key : String) : String :=
  join pure (Modifier.toParameters [.serviceGroup key])

end CompositeId

end DeviceCatalog
