import DeviceCatalog.Document.Plain

/-!
Records in documents. A record is an object, whose members come in any order and may include
others that nobody asks for, or the list of its fields in their declared order.
-/

namespace DeviceCatalog

abbrev Members := List (String × Document)

namespace Document

def isNull : Document → Bool
  | .null => true
  | _ => false

/-- Whether a part that may be absent is so. One that is tagged as null has to be spelled so. -/
def isAbsent? : Document → Option Bool
  | .null => some true
  | .plain value => some (Plain.isNull value)
  | .tagged .null (.plain value) =>
    if value ≠ "" && Plain.isNull value then some true else none
  | _ => some false

/-- The part without its tags. Where a certain kind is asked for, most tags say nothing. -/
def untagged : Document → Document
  | .tagged _ item => item.untagged
  | document => document

def text? (document : Document) : Option String :=
  match document.untagged with
  | .text value | .plain value => some value
  | _ => none

def bool? (document : Document) : Option Bool :=
  match document.untagged with
  | .bool value => some value
  | .plain value => Plain.bool? value
  | _ => none

def wordOf? (value : Int) : Option UInt64 :=
  if 0 ≤ value && value < 0x10000000000000000 then some (UInt64.ofNat value.toNat) else none

def word? : Document → Option UInt64
  | .number (.integer value _) => wordOf? value
  | .plain value => (Plain.integer? value.toList).bind wordOf?
  | _ => none

/-- A list; nothing at all is an empty one. -/
def listOf? {Item : Type} (read? : Document → Option Item) (document : Document) :
    Option (List Item) :=
  match document.untagged with
  | .list items => items.mapM read?
  | .plain "" => some []
  | _ => none

/-- One of the named cases, or a tag or an object that names the case and adds nothing to it. -/
def caseOf? {Case : Type} (read? : String → Option Case) : Document → Option Case
  | .text name | .plain name | .object [(name, .null)] => read? name
  | .tagged (.choice name) (.plain value) => if Plain.isNull value then read? name else none
  | .tagged (.choice _) _ => none
  | .tagged _ (.text name) | .tagged _ (.plain name) => read? name
  | _ => none

/-- The members of a record with these fields, none of which may occur twice. -/
def members? (fields : List String) : Document → Option Members
  | .object members =>
    if fields.all fun field => (members.map Prod.fst).count field ≤ 1 then some members else none
  | .list items => if items.length ≤ fields.length then some (fields.zip items) else none
  | .plain "" => some []
  | .tagged .sequence _ => none
  | .tagged .openEnded (.list items) => some (fields.zip items)
  | .tagged _ item => item.members? fields
  | _ => none

end Document

namespace Members

variable {Field : Type}

def required? (members : Members) (name : String) (read? : Document → Option Field) :
    Option Field :=
  (members.lookup name).bind read?

def defaulted? (members : Members) (name : String) (default : Field)
    (read? : Document → Option Field) : Option Field :=
  match members.lookup name with
  | some value => read? value
  | none => some default

/-- A field that is absent when it is missing or null. -/
def optional? (members : Members) (name : String) (read? : Document → Option Field) :
    Option (Option Field) :=
  match members.lookup name with
  | some value => do if ← value.isAbsent? then return none else (read? value).map some
  | none => some none

end Members

/-- A member that is written only when there is a value. -/
def optionalMember {Field : Type} (name : String) (write : Field → Document)
    (value : Option Field) : Members :=
  match value with
  | some present => [(name, write present)]
  | none => []

/-- A member that is written only when the list has items. -/
def listMember {Item : Type} (name : String) (write : Item → Document) (items : List Item) :
    Members :=
  if items.isEmpty then [] else [(name, .list (items.map write))]

namespace Document

def ofTexts (texts : List String) : Document := .list (texts.map .text)

def ofWord (value : UInt64) : Document := .number (.ofWord value)

/-- A count, which has 64 bits. -/
def ofNatural (value : Nat) : Document := ofWord (.ofNat value)

end Document

end DeviceCatalog
