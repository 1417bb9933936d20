import DeviceCatalog.Text.Cut

/-!
The words of a command line. An option is written with two dashes and its name or, where it has
one, with a dash and its letter; letters may share a dash. Each option changes what has been read
before it, so that words are judged in their order and the first that is wrong decides.
-/

namespace DeviceCatalog.CommandLine

inductive Misuse where
  | unexpected (word : String)
  | valueMissing (name : String)
  | valueRefused (name value : String)
  | repeated (name : String)
  | conflict (name other : String)
  | missing (what : String)
deriving DecidableEq

def Misuse.message : Misuse → String
  | unexpected word => "unexpected argument '" ++ word ++ "'"
  | valueMissing name => "a value is required for '--" ++ name ++ "'"
  | valueRefused name value => "invalid value '" ++ value ++ "' for '--" ++ name ++ "'"
  | repeated name => "'--" ++ name ++ "' cannot be used more than once"
  | conflict name other => "'--" ++ name ++ "' cannot be used with " ++ other
  | missing what => what ++ " is required"

/-- Why the words lead to no command that could be run. -/
inductive Stop where
  | misuse (misuse : Misuse)
  | help
  /-- The version was asked for, of the program or of one of its commands. -/
  | version (command : Option String)
deriving DecidableEq

inductive Effect (State : Type) where
  | flag (apply : State → Except Stop State)
  | value (apply : String → State → Except Stop State)

structure Rule (State : Type) where
  name : String
  letter : Option Char := none
  effect : Effect State

namespace Rule

variable {State Value : Type}

/-- An option without a value, which may be used once. -/
def flag (name : String) (letter : Option Char) (isSet : State → Bool) (set : State → State) :
    Rule State :=
  { name, letter
    effect := .flag fun state =>
      if isSet state then .error (.misuse (.repeated name)) else .ok (set state) }

def parsed (name : String) (parse? : String → Option Value) (text : String) :
    Except Stop Value :=
  match parse? text with
  | some value => .ok value
  | none => .error (.misuse (.valueRefused name text))

def value (name : String) (letter : Option Char) (parse? : String → Option Value)
    (get : State → Option Value) (set : Value → State → State) : Rule State :=
  { name, letter
    effect := .value fun text state =>
      if (get state).isSome then .error (.misuse (.repeated name))
      else do return set (← parsed name parse? text) state }

def values (name : String) (letter : Option Char) (parse? : String → Option Value)
    (add : Value → State → State) : Rule State :=
  { name, letter
    effect := .value fun text state => do return add (← parsed name parse? text) state }

def information (command : Option String) : List (Rule State) :=
  [{ name := "help", letter := some 'h', effect := .flag fun _ => .error .help },
    { name := "version", letter := some 'V', effect := .flag fun _ => .error (.version command) }]

def named? (rules : List (Rule State)) (name : List Char) : Option (Rule State) :=
  rules.find? (·.name.toList = name)

def lettered? (rules : List (Rule State)) (letter : Char) : Option (Rule State) :=
  rules.find? (·.letter = some letter)

end Rule

inductive Word where
  | operand
  /-- Two dashes alone: all that follows is operands. -/
  | optionsEnd
  | named (name : List Char) (value : Option (List Char))
  | letters (letters : List Char)
deriving DecidableEq

def Word.ofString (word : String) : Word :=
  match word.toList with
  | ['-', '-'] => .optionsEnd
  | '-' :: '-' :: rest =>
    let (name, value) := Text.cut '=' rest
    .named name value
  | '-' :: letter :: rest => .letters (letter :: rest)
  | _ => .operand

/-- What has been read, and the option at the end that is still without its value. -/
structure Awaiting (State : Type) where
  state : State
  pending : Option (String × (String → State → Except Stop State)) := none

variable {State : Type}

/-- Applies an option by its name, given the value that is written with it. -/
def readNamed (rules : List (Rule State)) (state : State) (name : List Char)
    (value? : Option (List Char)) : Except Stop (Awaiting State) :=
  match Rule.named? rules name, value? with
  | some ⟨_, _, .flag apply⟩, none => do return { state := ← apply state }
  | some ⟨_, _, .value apply⟩, some value => do
    return { state := ← apply (String.ofList value) state }
  | some ⟨name, _, .value apply⟩, none => .ok { state, pending := some (name, apply) }
  | none, _ | some ⟨_, _, .flag _⟩, some _ =>
    .error (.misuse (.unexpected ("--" ++ String.ofList name)))

/-- Applies letters one by one. A letter with a value takes the letters after it, without an equals
sign in front of them, as that value. -/
def readLetters (rules : List (Rule State)) (state : State) :
    List Char → Except Stop (Awaiting State)
  | [] => .ok { state }
  | letter :: rest =>
    match Rule.lettered? rules letter, rest with
    | none, _ => .error (.misuse (.unexpected (String.ofList ['-', letter])))
    | some ⟨_, _, .flag apply⟩, _ => do readLetters rules (← apply state) rest
    | some ⟨name, _, .value apply⟩, [] => .ok { state, pending := some (name, apply) }
    | some ⟨_, _, .value apply⟩, '=' :: value | some ⟨_, _, .value apply⟩, value => do
      return { state := ← apply (String.ofList value) state }

/-- Reads words. Without a use for operands it stops in front of the first of them, and returns it
with all words after it. -/
def readWords (rules : List (Rule State))
    (operand? : Option (String → State → Except Stop State)) (state : State) :
    List String → Except Stop (State × List String)
  | [] => .ok (state, [])
  | word :: rest => do
    let awaiting ← match Word.ofString word, operand? with
      | .operand, none => return (state, word :: rest)
      | .operand, some operand => pure { state := ← operand word state }
      | .optionsEnd, none => throw (.misuse (.unexpected word))
      | .optionsEnd, some operand =>
        return (← rest.foldlM (fun state word => operand word state) state, [])
      | .named name value?, _ => readNamed rules state name value?
      | .letters letters, _ => readLetters rules state letters
    match awaiting.pending, rest with
    | none, rest => readWords rules operand? awaiting.state rest
    | some (name, _), [] => throw (.misuse (.valueMissing name))
    | some (name, apply), next :: others => do
      unless Word.ofString next = .operand do throw (.misuse (.valueMissing name))
      readWords rules operand? (← apply next awaiting.state) others

end DeviceCatalog.CommandLine
