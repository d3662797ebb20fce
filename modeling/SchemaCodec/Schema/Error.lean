import SchemaCodec.Grammar.Token
import SchemaCodec.Schema.Draft
import SchemaCodec.Text.Quoted
import SchemaCodec.Text.Radix

/-! # Errors of schema files

Why a set of schema files is refused. Every cause that is a fault of the schema has a message that
begins with the path of the file; faults of literals, repeated statements, paths that cannot be used,
files that are not UTF-8 and faults of a number with too many digits have none.
-/
namespace SchemaCodec

inductive DeclarationError where
  | unknownType (ref : String)
  | invalidMapKey (ref : String)
  | numberOutOfRange (field : String) (number : Int)
  | reservedNumber (field : String) (number : Int)
  | reusedNumber (field : String) (number : Int) (owner : String)
  | duplicateField (field : String)
  | reservedField (field : String)
  | reservedValue (value : String)
  deriving DecidableEq, Repr

def DeclarationError.message? : DeclarationError → Option String
  | unknownType ref => some ("unknown type " ++ ref)
  | invalidMapKey ref => some ("invalid map key type " ++ ref)
  | numberOutOfRange field number => (Text.decimalText? number).map fun number =>
    "field " ++ field ++ " number " ++ number ++ " out of range"
  | reservedNumber field number => (Text.decimalText? number).map fun number =>
    "field " ++ field ++ " uses reserved number " ++ number
  | reusedNumber field number owner => (Text.decimalText? number).map fun number =>
    "field " ++ field ++ " reuses number " ++ number ++ " of " ++ owner
  | duplicateField field => some ("duplicate field name " ++ field)
  | reservedField field => some ("field " ++ field ++ " uses a reserved name or number")
  | reservedValue value => some ("enum value " ++ value ++ " is reserved")

inductive SchemaError where
  | unexpectedInput (path : String) (place : Grammar.Position)
  | malformedLiteral
  | repeatedSyntax
  | repeatedPackage
  | unsupportedSyntax (path value : String)
  | unreadable (path reason : String)
  | unusablePath (path : String)
  | undecodable (path : String)
  | importNotFound (path imported : String)
  | alreadyDefined (path name : String)
  | declaration (path : String) (line : Nat) (cause : DeclarationError)
  deriving DecidableEq, Repr

/-- The report of a fault of the schema. -/
def SchemaError.message? : SchemaError → Option String
  | unexpectedInput path place =>
    some (path ++ ":" ++ toString place.line ++ ":" ++ toString place.column
      ++ ": unexpected input")
  | malformedLiteral | repeatedSyntax | repeatedPackage | unusablePath _ | undecodable _ => none
  | unsupportedSyntax path value => some (path ++ ": unsupported syntax " ++ Text.quote value)
  | unreadable path reason => some ("Cannot read " ++ path ++ ": " ++ reason)
  | importNotFound path imported => some (path ++ ": import " ++ imported ++ " not found")
  | alreadyDefined path name => some (path ++ ": " ++ name ++ " is already defined")
  | declaration path line cause => cause.message?.map fun text =>
    path ++ ":" ++ toString line ++ ": " ++ text

end SchemaCodec
