import SchemaCodec.Schema.Basic
import SchemaCodec.Text.Radix

/-! # Enums that have a layout

A generated enum is laid out as an unsigned 32-bit number, one per value, and has a first value to
default to. An enum without values, with a number that does not fit, or with two values of one
number has no such layout.
-/
namespace SchemaCodec.Rendering

inductive EnumFault where
  | noValues (enum : String)
  | outOfRange (enum value : String) (number : Int)
  | sharedNumber (enum value earlier : String)
  deriving DecidableEq, Repr

/-- The report of a fault, unless the number in it has too many digits. -/
def EnumFault.message? : EnumFault → Option String
  | noValues enum => some ("enum " ++ enum ++ " has no values")
  | outOfRange enum value number => (Text.decimalText? number).map fun number =>
    "enum " ++ enum ++ " value " ++ value ++ " = " ++ number ++ " does not fit in u32"
  | sharedNumber enum value earlier =>
    some ("enum " ++ enum ++ " aliases " ++ value ++ " and " ++ earlier)

def maxEnumNumber : Int := 4294967295

/-- The first fault among the values that follow those in `before`. -/
def valuesFault? (enum : String) : (before rest : List EnumValue) → Option EnumFault
  | _, [] => none
  | before, v :: rest =>
    if v.number < 0 ∨ maxEnumNumber < v.number then some (.outOfRange enum v.name v.number)
    else match before.find? fun w => w.number == v.number with
      | some w => some (.sharedNumber enum v.name w.name)
      | none => valuesFault? enum (before ++ [v]) rest

def enumFault? (decl : EnumDecl) : Option EnumFault :=
  if decl.values.isEmpty then some (.noValues decl.fullName)
  else valuesFault? decl.fullName [] decl.values

def layoutFault? (file : SchemaFile) : Option EnumFault :=
  file.declarations.findSome? fun
    | .enum decl => enumFault? decl
    | .message _ => none

end SchemaCodec.Rendering
