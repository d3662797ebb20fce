import SchemaCodec.CommandLine.Arguments
import SchemaCodec.Formatter
import SchemaCodec.Text.Alphanumeric

/-! # Commands

There is a command that generates code and one that shows what would be generated. Arguments become
an invocation of one of them or a fault, which is reported on the page it belongs to.
-/
namespace SchemaCodec.CommandLine
open Text

inductive Command where
  | gen | plan
  deriving DecidableEq, Repr

namespace Command

def all : List Command := [gen, plan]

def name : Command → String
  | gen => "gen"
  | plan => "plan"

def ofName? (s : String) : Option Command := all.find? fun c => c.name == s

def description : Command → String
  | gen => "Generate Rust encoders and decoders from schema files."
  | plan => "Show emission order, imports and field kinds without generating code."

end Command

def helpOption : OptionSpec := ⟨.help,"--help",none,false,"Show this message and exit.",false⟩

def protoPathOption : OptionSpec :=
  ⟨.protoPath,"--proto-path",some 'I',true,"Directory searched for imports",false⟩

def Command.options : Command → List OptionSpec
  | .gen =>
    [⟨.input,"--input",some 'i',true,"Schema file to generate",true⟩, protoPathOption,
      ⟨.output,"--output",some 'o',true,"Output directory",false⟩,
      ⟨.noFormat,"--no-format",none,false,"Skip rustfmt",false⟩,
      ⟨.rustfmt,"--rustfmt",none,true,"rustfmt executable",false⟩,
      ⟨.edition,"--edition",none,true,"Rust edition passed to rustfmt",false⟩, helpOption]
  | .plan =>
    [⟨.input,"--input",some 'i',true,"Schema file to inspect",true⟩, protoPathOption,
      ⟨.json,"--json",none,false,"Output as JSON",false⟩, helpOption]

/-- What help and faults are about: the program or one of its commands. -/
inductive Page where
  | program
  | command (c : Command)
  deriving DecidableEq, Repr

namespace Page

def options : Page → List OptionSpec
  | program => [helpOption]
  | command c => c.options

def path : Page → String
  | program => "cli"
  | command c => "cli " ++ c.name

def usage : Page → String
  | program => "Usage: cli [OPTIONS] COMMAND [ARGS]..."
  | command c => "Usage: cli " ++ c.name ++ " [OPTIONS]"

def description : Page → String
  | program => "Polyglot Rust codec generator."
  | command c => c.description

end Page

structure UsageError where
  page : Page
  fault : UsageFault
  deriving DecidableEq, Repr

def Page.hint (page : Page) : String :=
  page.usage ++ "\nTry '" ++ page.path ++ " --help' for help.\n\n"

def UsageError.report (e : UsageError) : String :=
  (if e.fault.showsUsage then e.page.hint else "") ++ "Error: " ++ e.fault.message ++ "\n"

/-- Two columns, the second of which begins two blanks behind the longest text of the first. -/
def columns (rows : List (String × String)) : List String :=
  let width := (rows.map fun (a, _) => a.length).foldl max 0
  rows.map fun (a, b) =>
    "  " ++ a ++ String.ofList (List.replicate (width - a.length + 2) ' ') ++ b

def OptionSpec.helpRow (s : OptionSpec) : String × String :=
  let long := if s.takesValue then s.long ++ " TEXT" else s.long
  (match s.short with
    | some c => optionText c ++ ", " ++ long
    | none => long,
    if s.required then s.description ++ "  [required]" else s.description)

def Page.helpLines (page : Page) : List String :=
  [page.usage, "", "  " ++ page.description, "", "Options:"]
    ++ columns (page.options.map OptionSpec.helpRow)
    ++ match page with
      | program => "" :: "Commands:" :: columns (Command.all.map fun c => (c.name, c.description))
      | command _ => []

def Page.help (page : Page) : String := joinStrings "\n" page.helpLines ++ "\n"

structure GenSettings where
  inputs : List String
  protoPaths : List String
  output : String
  formatter : FormatChoice
  deriving DecidableEq, Repr

structure PlanSettings where
  inputs : List String
  protoPaths : List String
  asJson : Bool
  deriving DecidableEq, Repr

inductive Invocation where
  | nothing
  | help (page : Page)
  | gen (settings : GenSettings)
  | plan (settings : PlanSettings)
  deriving DecidableEq, Repr

def genSettings (r : Reading) : GenSettings :=
  ⟨r.values .input,r.values .protoPath,r.value .output ".",
    ⟨!r.has .noFormat,⟨r.value .rustfmt "rustfmt",r.value .edition "2021"⟩⟩⟩

def planSettings (r : Reading) : PlanSettings :=
  ⟨r.values .input,r.values .protoPath,r.has .json⟩

def missingOption? (specs : List OptionSpec) (r : Reading) : Option UsageFault :=
  (specs.find? fun s => s.required && !r.has s.name).map fun s => .missingOption s.long s.short

def Command.invocation (c : Command) (arguments : List String) :
    Except UsageFault Invocation := do
  let r ← readArguments c.options true arguments
  if r.has .help then return .help (.command c)
  match missingOption? c.options r with
  | some fault => throw fault
  | none =>
    if r.words ≠ [] then throw (.unexpectedArguments r.words)
    match c with
    | .gen => return .gen (genSettings r)
    | .plan => return .plan (planSettings r)

def onPage {α : Type} (page : Page) : Except UsageFault α → Except UsageError α
  | .ok a => .ok a
  | .error fault => .error ⟨page,fault⟩

/-- Whether a word begins like an option, with a character that no name begins with. -/
def looksLikeOption (word : String) : Bool :=
  match word.toList with
  | [] => false
  | c :: _ => !isAlphanumeric c

/-- What words ask for whose first one names no command. -/
def unknownCommand (name : String) (words : List String) : Except UsageError Invocation := do
  if looksLikeOption name then
    let r ← onPage .program (readArguments Page.program.options false words)
    if r.has .help then return .help .program
  throw ⟨.program,.noSuchCommand name (similar name (Command.all.map Command.name))⟩

def invocation (arguments : List String) : Except UsageError Invocation :=
  if arguments = [] then .ok .nothing
  else do
    let r ← onPage .program (readArguments Page.program.options false arguments)
    if r.has .help then return .help .program
    match r.words with
    | [] => throw ⟨.program,.missingCommand⟩
    | name :: rest =>
      match Command.ofName? name with
      | none => unknownCommand name (name :: rest)
      | some c => onPage (.command c) (c.invocation rest)

end SchemaCodec.CommandLine
