import DeviceCatalog.CommandLine.Command
import DeviceCatalog.CommandLine.Words

/-!
The options and commands that words can name. The options of the program stand before the name of
the command, and those of the command after it.
-/

namespace DeviceCatalog.CommandLine

structure ProgramOptions where
  catalog : Option String := none
  settings : Option String := none
  output : Option OutputFormat := none
  /-- Accepted for the sake of scripts; no output has colours. -/
  noColor : Bool := false
  quiet : Bool := false
  verbose : Bool := false

/-- Paths have at least one character. -/
def path? (text : String) : Option String := if text = "" then none else some text

def ProgramOptions.rules : List (Rule ProgramOptions) :=
  [.value "catalog" none path? (·.catalog) fun path options =>
      { options with catalog := some path },
    .value "config" (some 'c') path? (·.settings) fun path options =>
      { options with settings := some path },
    .value "output" (some 'o') OutputFormat.ofName? (·.output) fun format options =>
      { options with output := some format },
    .flag "no-color" none (·.noColor) fun options => { options with noColor := true },
    .flag "quiet" (some 'q') (·.quiet) fun options => { options with quiet := true },
    .flag "verbose" (some 'v') (·.verbose) fun options => { options with verbose := true }] ++
    Rule.information none

/-! ### Aspect nodes -/

structure AspectOptions where
  ids : List String := []
  measuring : Bool := false
  ancestors : Bool := false
  descendants : Bool := false

namespace AspectOptions

def rules : List (Rule AspectOptions) :=
  [.flag "measuring" none (·.measuring) fun options => { options with measuring := true },
    .flag "ancestors" none (·.ancestors) fun options => { options with ancestors := true },
    .flag "descendants" none (·.descendants) fun options => { options with descendants := true }] ++
    Rule.information (some "aspect-nodes")

def operand (id : String) (options : AspectOptions) : Except Stop AspectOptions :=
  .ok { options with ids := options.ids ++ [id] }

/-- Ids name nodes one by one, and the other options say more about which measured aspects. -/
def command (options : AspectOptions) : Except Stop CatalogCommand :=
  if options.measuring then
    if options.ids.isEmpty then
      .ok (.measuringAspects options.ancestors options.descendants)
    else .error (.misuse (.conflict "measuring" "ids"))
  else if options.ancestors || options.descendants then
    .error (.misuse (.missing "'--measuring'"))
  else .ok (.aspectNodes options.ids)

end AspectOptions

/-! ### Selectables -/

structure SelectableOptions where
  criteria : Option String := none
  pathLead : Option String := none
  interactions : List Interaction := []
  includeModified : Bool := false
  excludeUnmodified : Bool := false
  mustMatchAll : Bool := false
  order : Option ListOrder := none
  limit : Option UInt64 := none
  offset : Option UInt64 := none

/-- Reads a word of 64 bits, in front of which a plus sign may stand. -/
def word? (text : String) : Option UInt64 :=
  let digits := match text.toList with
    | '+' :: digits => digits
    | digits => digits
  if digits.isEmpty || !digits.all Char.isDigit then none
  else
    let value := digits.foldl (fun value digit => 10 * value + (digit.toNat - '0'.toNat)) 0
    if value < UInt64.size then some (UInt64.ofNat value) else none

namespace SelectableOptions

def rules : List (Rule SelectableOptions) :=
  [.value "criteria" (some 'c') some (·.criteria) fun criteria options =>
      { options with criteria := some criteria },
    .value "prefix" none some (·.pathLead) fun lead options =>
      { options with pathLead := some lead },
    .values "interaction" none Interaction.ofName? fun interaction options =>
      { options with interactions := options.interactions ++ [interaction] },
    .flag "include-modified" none (·.includeModified) fun options =>
      { options with includeModified := true },
    .flag "exclude-unmodified" none (·.excludeUnmodified) fun options =>
      { options with excludeUnmodified := true },
    .flag "must-match-all" none (·.mustMatchAll) fun options =>
      { options with mustMatchAll := true },
    .value "sort" none (fun text => (ListOrder.parse text).toOption) (·.order)
      fun order options => { options with order := some order },
    .value "limit" none word? (·.limit) fun limit options => { options with limit := some limit },
    .value "offset" none word? (·.offset) fun offset options =>
      { options with offset := some offset }] ++
    Rule.information (some "selectables")

def operand (word : String) (_ : SelectableOptions) : Except Stop SelectableOptions :=
  .error (.misuse (.unexpected word))

def query (options : SelectableOptions) (criteria : List FilterCriteria) : SelectableQuery :=
  { criteria
    interactions := options.interactions
    pathLead := options.pathLead.getD ""
    includeModified := options.includeModified
    includeUnmodified := !options.excludeUnmodified
    mustMatchAll := options.mustMatchAll
    order := options.order.getD .nameAscending
    limit := options.limit
    offset := options.offset.getD 0 }

def command (options : SelectableOptions) : Except Stop CatalogCommand :=
  match options.criteria with
  | some text => .ok (.selectables (.ofString text) options.query)
  | none => .error (.misuse (.missing "'--criteria'"))

end SelectableOptions

/-! ### Commands -/

def readCommandWords {Options : Type} (rules : List (Rule Options))
    (operand : String → Options → Except Stop Options) (options : Options)
    (words : List String) : Except Stop Options := do
  return (← readWords rules (some operand) options words).1

def readId (command : String) (words : List String) : Except Stop String := do
  let id? ← readCommandWords (Rule.information (some command))
    (fun word id? => if id?.isSome then .error (.misuse (.unexpected word)) else .ok (some word))
    none words
  match id? with
  | some id => return id
  | none => throw (.misuse (.missing "an id"))

def commandNames : List String :=
  ["aspect-nodes", "selectables", "device-type", "function", "device", "group-criteria",
    "validate-group", "split-id", "help"]

/-- The word after a request for help can only be the name of a command, and no more can follow. -/
def readHelp : List String → Except Stop Command
  | [] => .error .help
  | word :: rest =>
    if !commandNames.contains word then .error (.misuse (.unexpected word))
    else match rest with
      | [] => .error .help
      | extra :: _ => .error (.misuse (.unexpected extra))

def readCommand (name : String) (words : List String) : Except Stop Command := do
  match name with
  | "aspect-nodes" =>
    let options ← readCommandWords AspectOptions.rules AspectOptions.operand {} words
    return .ask (← options.command)
  | "selectables" =>
    let options ← readCommandWords SelectableOptions.rules SelectableOptions.operand {} words
    return .ask (← options.command)
  | "device-type" => return .ask (.deviceType (← readId name words))
  | "function" => return .ask (.function (← readId name words))
  | "device" => return .ask (.device (← readId name words))
  | "group-criteria" => return .ask (.groupCriteria (← readId name words))
  | "validate-group" => return .ask (.validateGroup (← readId name words))
  | "split-id" => return .splitId (← readId name words)
  | "help" => readHelp words
  | _ => throw (.misuse (.unexpected name))

/-- A path that is not given with an option may be given by the environment. -/
def orEnvironment (name : String) (given fallback : Option String) :
    Except Stop (Option String) :=
  match given, fallback with
  | some path, _ => .ok (some path)
  | none, some text => some <$> Rule.parsed name path? text
  | none, none => .ok none

structure PathDefaults where
  catalog : Option String := none
  settings : Option String := none

def Invocation.ofWords (defaults : PathDefaults) (words : List String) :
    Except Stop Invocation := do
  match ← readWords ProgramOptions.rules none {} words with
  | (_, []) => throw (.misuse (.missing "a command"))
  | (options, name :: rest) =>
    let command ← readCommand name rest
    return {
      catalog := ← orEnvironment "catalog" options.catalog defaults.catalog
      settings := ← orEnvironment "config" options.settings defaults.settings
      output := options.output
      quiet := options.quiet
      command }

end DeviceCatalog.CommandLine
