import Lineage.Inspection.Exchange
import Lineage.Text.Digits

/-! # The command line

    The program takes a file of facts, a command and options.  Arguments are read from left to
    right at two levels: that of the program, up to the name of a command, and
    that of the command.  Options that choose how to analyze may stand at both
    levels, and the command's own win.

    * A long option takes its value after `=` or from the next argument, a
      short one also right behind its letter.
    * A value from the next argument does not start with a hyphen, unless it
      is a hyphen alone.
    * After `--` everything is an operand.
    * Nothing is abbreviated, and nothing is given twice at one level. -/

namespace Lineage.Command

/-! ## Levels -/

/-- What the value of an argument has to be. -/
inductive ValueKind where
  /-- Any text. -/
  | text
  /-- A text that is not empty. -/
  | path
  /-- A size, with a plus sign if one likes. -/
  | size
  /-- The name of a filter for dangling nodes. -/
  | filter
  deriving DecidableEq, Repr

/-- An option of a level.  Without a kind it is a flag and takes no value. -/
structure OptionSpec where
  name : String
  short? : Option Char
  kind? : Option ValueKind
  deriving DecidableEq, Repr

/-- What may stand at a level. -/
structure LevelSpec where
  options : List OptionSpec
  operands : List ValueKind
  /-- The names of commands, which end the level. -/
  commands : List String

/-- What was read at a level. -/
structure Given where
  /-- The options with their values; the value of a flag is empty. -/
  options : List (String × String) := []
  operands : List String := []
  /-- The command that ended the level, and its arguments. -/
  command? : Option (String × List String) := none
  deriving DecidableEq, Repr

/-- How reading a level can end. -/
inductive Ending (α : Type) where
  /-- The version is asked for. -/
  | version
  /-- Help is asked for. -/
  | help
  | done (a : α)
  deriving DecidableEq, Repr

/-! ## Values -/

/-- The size that a text writes: digits, with a plus sign in front if one
    likes, and below 2^64. -/
def readSize (s : String) : Option Nat :=
  let digits := match s.toList with
    | '+' :: cs => cs
    | cs => cs
  let n := Text.ofDigits digits
  if digits.isEmpty || !digits.all Char.isDigit || n ≥ Text.sizeLimit then none else some n

/-- Whether a value is of its kind. -/
def ValueKind.accepts (s : String) : ValueKind → Bool
  | text => true
  | path => s != ""
  | size => (readSize s).isSome
  | filter => (DanglingFilter.names.lookup s).isSome

/-- Whether an argument stands for an option rather than for a value. -/
def looksLikeOption (arg : String) : Bool := "-".toList.isPrefixOf arg.toList && arg != "-"

namespace Given

/-- Takes an option, unless it was given before or its value is of the wrong
    kind. -/
def addOption (g : Given) (spec : OptionSpec) (value : String) : Option Given :=
  if g.options.any (·.1 = spec.name) || !spec.kind?.all (·.accepts value) then none
  else some { g with options := g.options ++ [(spec.name, value)] }

/-- Takes an operand, unless the level has no place for it or it is of the
    wrong kind. -/
def addOperand (g : Given) (level : LevelSpec) (value : String) : Option Given :=
  match level.operands[g.operands.length]? with
  | some kind =>
    if kind.accepts value then some { g with operands := g.operands ++ [value] } else none
  | none => none

/-- Whether a flag was given. -/
def has (g : Given) (name : String) : Bool := g.options.any (·.1 = name)

/-- The value of an option that was given. -/
def value? (g : Given) (name : String) : Option String := g.options.lookup name

end Given

/-! ## Reading a level -/

/-- Cuts an argument at its first `=`. -/
def cutEquals : List Char → List Char × Option (List Char)
  | [] => ([], none)
  | '=' :: cs => ([], some cs)
  | c :: cs => let (name, value?) := cutEquals cs; (c :: name, value?)

/-- An option as it stands in an argument, with the value it carries there. -/
structure Mention where
  spec : OptionSpec
  value? : Option String

/-- The option that an argument mentions, if the level has it. -/
def LevelSpec.mention? (level : LevelSpec) (arg : List Char) : Option Mention :=
  match arg with
  | '-' :: '-' :: long =>
      let (name, value?) := cutEquals long
      (level.options.find? (·.name = String.ofList name)).map (⟨·, value?.map String.ofList⟩)
  | '-' :: c :: rest =>
      (level.options.find? (·.short? = some c)).map fun spec =>
        ⟨spec, match rest with
          | [] => none
          | '=' :: value | value => some (String.ofList value)⟩
  | _ => none

/-- The option that prints the version. -/
def versionName : String := "version"

/-- The option, and the command, that print help. -/
def helpName : String := "help"

/-- What reading one option leads to. -/
inductive Step where
  /-- The level ends here. -/
  | stop (ending : Ending Given)
  /-- The level goes on; an option may still wait for its value. -/
  | more (g : Given) (waiting? : Option OptionSpec)

/-- Reads an argument that stands for an option. -/
def LevelSpec.readOption (level : LevelSpec) (g : Given) (arg : String) : Option Step := do
  let ⟨spec, attached?⟩ ← level.mention? arg.toList
  match spec.kind?, attached? with
  | some _, some value => return .more (← g.addOption spec value) none
  | some _, none => return .more g (some spec)
  | none, attached? =>
      if attached?.isSome && "--".toList.isPrefixOf arg.toList then none
      else if spec.name = versionName then return .stop .version
      else if spec.name = helpName then return .stop .help
      else if attached?.isSome then none
      else return .more (← g.addOption spec "") none

/-- Reads the arguments of a level; everything is an operand if `literal`. -/
def LevelSpec.read (level : LevelSpec) (literal : Bool) (waiting? : Option OptionSpec)
    (g : Given) : List String → Option (Ending Given)
  | [] => if waiting?.isSome then none else some (.done g)
  | arg :: args =>
      match waiting? with
      | some spec =>
          if looksLikeOption arg then none
          else do level.read literal none (← g.addOption spec arg) args
      | none =>
          if literal then do
            level.read true none (← g.addOperand level arg) args
          else if arg ∈ level.commands then
            some (.done { g with command? := some (arg, args) })
          else if arg = "--" then
            level.read true none g args
          else if looksLikeOption arg then
            match level.readOption g arg with
            | none => none
            | some (.stop ending) => some ending
            | some (.more g waiting?) => level.read false waiting? g args
          else do
            level.read false none (← g.addOperand level arg) args

/-! ## The commands -/

/-- A command with its arguments. -/
inductive Action where
  /-- Print how large the graph is. -/
  | summary
  /-- Print the types whose id contains a pattern. -/
  | search (pattern : String) (limit? : Option Nat)
  /-- Print a drawing, or write it to a file. -/
  | draw (request : RenderRequest) (output? : Option String)
  /-- Print the document of a neighborhood. -/
  | exportDocument (id : NodeId) (clusterByNamespace : Bool)
  deriving DecidableEq, Repr

/-- All that a command line asks for. -/
structure Invocation where
  facts : String
  ignoreStd : Bool
  stdNamespace? : Option String
  exclude? : Option String
  action : Action
  deriving DecidableEq, Repr

/-- The options that choose how to analyze. -/
def analysisOptions : List OptionSpec :=
  [⟨"ignore-std", none, none⟩, ⟨"std-namespace", none, some .text⟩, ⟨"exclude", none, some .text⟩,
    ⟨helpName, some 'h', none⟩]

/-- The options of drawings. -/
def drawingOptions : List OptionSpec :=
  [⟨"output", some 'o', some .path⟩, ⟨"cluster-by-namespace", none, none⟩,
    ⟨"drop-dangling", none, some .filter⟩, ⟨"ignore-style", none, none⟩,
    ⟨"fast-limit", none, some .size⟩]

/-- The commands with their levels. -/
def commandLevels : List (String × LevelSpec) :=
  [("summary", ⟨analysisOptions, [], []⟩),
    ("search", ⟨⟨"limit", some 'l', some .size⟩ :: analysisOptions, [.text], []⟩),
    ("dot", ⟨drawingOptions ++ analysisOptions, [.text], []⟩),
    ("graph", ⟨drawingOptions ++ analysisOptions, [], []⟩),
    ("export", ⟨⟨"cluster-by-namespace", none, none⟩ :: analysisOptions, [.text], []⟩)]

/-- The level of the program. -/
def programLevel : LevelSpec :=
  ⟨⟨versionName, some 'V', none⟩ :: analysisOptions, [.path],
    helpName :: commandLevels.map (·.1)⟩

/-- The request that the arguments of a drawing command make. -/
def requestOf (g : Given) (root? : Option NodeId) : RenderRequest where
  root? := root?
  clusterByNamespace := g.has "cluster-by-namespace"
  dropDangling := ((g.value? "drop-dangling").bind fun s => DanglingFilter.names.lookup s).getD none
  plain := g.has "ignore-style"
  fastLimit := (g.value? "fast-limit").bind readSize

/-- The action of a command. -/
def actionOf (command : String) (g : Given) : Option Action :=
  match command, g.operands with
  | "summary", [] => some .summary
  | "search", [pattern] => some (.search pattern ((g.value? "limit").bind readSize))
  | "dot", [id] => some (.draw (requestOf g (some id)) (g.value? "output"))
  | "graph", [] => some (.draw (requestOf g none) (g.value? "output"))
  | "export", [id] => some (.exportDocument id (g.has "cluster-by-namespace"))
  | _, _ => none

/-- Reads a command line; `none` if it asks for nothing that can be done. -/
def readLine (args : List String) : Option (Ending Invocation) := do
  match ← programLevel.read false none {} args with
  | .version => return .version
  | .help => return .help
  | .done outer =>
      let (command, args) ← outer.command?
      if command = helpName then
        match args with
        | [] => return .help
        | [topic] => if topic ∈ programLevel.commands then return .help else none
        | _ => none
      else
        match ← (← commandLevels.lookup command).read false none {} args with
        | .version => return .version
        | .help => return .help
        | .done inner =>
            match outer.operands with
            | [facts] =>
                return .done {
                  facts
                  ignoreStd := outer.has "ignore-std" || inner.has "ignore-std"
                  stdNamespace? := (inner.value? "std-namespace").or (outer.value? "std-namespace")
                  exclude? := (inner.value? "exclude").or (outer.value? "exclude")
                  action := ← actionOf command inner }
            | _ => none

end Lineage.Command
