import SchemaCodec.CommandLine.Similar
import SchemaCodec.Text.Quoted
import SchemaCodec.Text.Split

/-! # Reading arguments

Options begin with a dash and may stand anywhere. A long option has its value behind an equals sign
or as the next argument; short options may share one argument, and the rest of that argument is the
value of the first of them that takes one. Behind two dashes nothing is an option.
-/
namespace SchemaCodec.CommandLine
open Text

inductive OptionName where
  | input | protoPath | output | noFormat | rustfmt | edition | json | help
  deriving DecidableEq, Repr

structure OptionSpec where
  name : OptionName
  long : String
  short : Option Char
  takesValue : Bool
  description : String
  required : Bool := false
  deriving DecidableEq, Repr

inductive UsageFault where
  | noSuchOption (option : String) (similar : List String)
  | missingValue (option : String)
  | unexpectedValue (option : String)
  | missingOption (long : String) (short : Option Char)
  | unexpectedArguments (arguments : List String)
  | noSuchCommand (name : String) (similar : List String)
  | missingCommand
  deriving DecidableEq, Repr

def optionText (short : Char) : String := String.ofList ['-', short]

def suggestion : List String → String
  | [] => ""
  | [word] => " Did you mean " ++ quote word ++ "?"
  | words => " (Did you mean one of: " ++ joinStrings ", " (words.map quote) ++ "?)"

namespace UsageFault

def message : UsageFault → String
  | noSuchOption option similar => "No such option " ++ quote option ++ "." ++ suggestion similar
  | missingValue option => "Option " ++ quote option ++ " requires an argument."
  | unexpectedValue option => "Option " ++ quote option ++ " does not take a value."
  | missingOption long none => "Missing option " ++ quote long ++ "."
  | missingOption long (some short) =>
    "Missing option " ++ quote long ++ " / " ++ quote (optionText short) ++ "."
  | unexpectedArguments [argument] => "Got unexpected extra argument (" ++ argument ++ ")"
  | unexpectedArguments arguments =>
    "Got unexpected extra arguments (" ++ joinStrings " " arguments ++ ")"
  | noSuchCommand name similar => "No such command " ++ quote name ++ "." ++ suggestion similar
  | missingCommand => "Missing command."

/-- Whether the usage is shown with the fault: not where only the value of an option is at fault. -/
def showsUsage : UsageFault → Bool
  | missingValue _ | unexpectedValue _ => false
  | _ => true

end UsageFault

structure Setting where
  name : OptionName
  value : String := ""
  deriving DecidableEq, Repr

structure Awaiting where
  name : OptionName
  written : String
  deriving DecidableEq, Repr

structure OptionReading where
  settings : List Setting
  awaiting : Option Awaiting := none
  deriving DecidableEq, Repr

/-- Short options that share one argument. -/
def readShort (specs : List OptionSpec) : List Char → Except UsageFault OptionReading
  | [] => .ok ⟨[],none⟩
  | c :: rest =>
    match specs.find? fun s => s.short == some c with
    | none => .error (.noSuchOption (optionText c) [])
    | some s =>
      if !s.takesValue then do
        let reading ← readShort specs rest
        .ok { reading with settings := ⟨s.name,""⟩ :: reading.settings }
      else if rest = [] then .ok ⟨[],some ⟨s.name,optionText c⟩⟩
      else .ok ⟨[⟨s.name,String.ofList rest⟩],none⟩

def cutValue (argument : String) : String × Option String :=
  match argument.toList.span (· ≠ '=') with
  | (name, []) => (String.ofList name, none)
  | (name, _ :: value) => (String.ofList name, some (String.ofList value))

def readLong (s : OptionSpec) (value : Option String) : Except UsageFault OptionReading :=
  match s.takesValue, value with
  | true, some value => .ok ⟨[⟨s.name,value⟩],none⟩
  | true, none => .ok ⟨[],some ⟨s.name,s.long⟩⟩
  | false, some _ => .error (.unexpectedValue s.long)
  | false, none => .ok ⟨[⟨s.name,""⟩],none⟩

def readOption (specs : List OptionSpec) (argument : String) : Except UsageFault OptionReading :=
  let (name, value) := cutValue argument
  match specs.find? fun s => s.long == name with
  | some s => readLong s value
  | none =>
    match argument.toList with
    | '-' :: '-' :: _ => .error (.noSuchOption name (similar name (specs.map (·.long))))
    | cs => readShort specs (cs.drop 1)

def isOption (argument : String) : Bool :=
  match argument.toList with
  | '-' :: _ :: _ => true
  | _ => false

structure Reading where
  settings : List Setting
  words : List String
  deriving DecidableEq, Repr

/-- Reads all arguments, or if `mixed` is false those before the first that is no option. -/
def readArguments (specs : List OptionSpec) (mixed : Bool) :
    List String → Except UsageFault Reading
  | [] => .ok ⟨[],[]⟩
  | argument :: rest =>
    if argument = "--" then .ok ⟨[],rest⟩
    else if isOption argument then do
      let reading ← readOption specs argument
      match reading.awaiting, rest with
      | none, rest => do
        let more ← readArguments specs mixed rest
        .ok { more with settings := reading.settings ++ more.settings }
      | some awaiting, [] => .error (.missingValue awaiting.written)
      | some awaiting, value :: rest => do
        let more ← readArguments specs mixed rest
        .ok { more with
          settings := reading.settings ++ ⟨awaiting.name,value⟩ :: more.settings }
    else if mixed then do
      let more ← readArguments specs mixed rest
      .ok { more with words := argument :: more.words }
    else .ok ⟨[],argument :: rest⟩

namespace Reading

def values (r : Reading) (name : OptionName) : List String :=
  (r.settings.filter (·.name = name)).map (·.value)

/-- The last value that an option was given. -/
def value (r : Reading) (name : OptionName) (default : String) : String :=
  (r.values name).getLast?.getD default

def has (r : Reading) (name : OptionName) : Bool := !(r.values name).isEmpty

end Reading

end SchemaCodec.CommandLine
