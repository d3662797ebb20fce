import SchemaCodec.Identifier
import SchemaCodec.Schema.Basic
import SchemaCodec.Text.Split

/-! # Where generated code goes

A schema file's code is written beside it with another extension, and lives in a module named by
its package, or by its path where it has none.
-/
namespace SchemaCodec
open Text

def dropSuffix? (suffix s : List Char) : Option (List Char) :=
  if suffix.isSuffixOf s then some (s.take (s.length - suffix.length)) else none

def SchemaFile.stem (file : SchemaFile) : List Char :=
  (dropSuffix? ".proto".toList file.path.toList).getD file.path.toList

def SchemaFile.outputPath (file : SchemaFile) : String :=
  String.ofList (file.stem ++ ".rs".toList)

def SchemaFile.modulePath (file : SchemaFile) : String :=
  let parts := if file.package = "" then split '/' file.stem else split '.' file.package.toList
  joinStrings "::" ("crate" :: parts.map fun p => String.ofList (Identifier.snakeChars p))

/-- The name of a generated type: the full name without its package, run together. -/
def typeIdentifier (fullName package : String) : String :=
  let full := fullName.toList
  let scope := package.toList ++ ['.']
  if package ≠ "" ∧ scope.isPrefixOf full then
    String.ofList (Identifier.camelChars (full.drop scope.length))
  else Identifier.camel fullName

end SchemaCodec
