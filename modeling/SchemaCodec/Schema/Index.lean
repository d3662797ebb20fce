import SchemaCodec.Schema.Path

/-! # Index of declared types

All types that a set of files declares, by full name. A name that is declared again keeps its place
in the index and takes the later declaration.
-/
namespace SchemaCodec

structure TypeEntry where
  fullName : String
  file : SchemaFile
  declaration : Declaration
  identifier : String
  deriving Inhabited

/-- The declared types in the order in which their names first came up. -/
structure TypeIndex where
  entries : List TypeEntry
  deriving Inhabited

namespace TypeIndex

def empty : TypeIndex := ⟨[]⟩

def find? (index : TypeIndex) (fullName : String) : Option TypeEntry :=
  index.entries.find? fun e => e.fullName == fullName

def contains (index : TypeIndex) (fullName : String) : Bool := (index.find? fullName).isSome

/-- Puts an entry in the place of the one of its name, or at the end. -/
def insert (index : TypeIndex) (entry : TypeEntry) : TypeIndex :=
  if index.contains entry.fullName then
    ⟨index.entries.map fun e => if e.fullName = entry.fullName then entry else e⟩
  else ⟨index.entries ++ [entry]⟩

def entryOf (file : SchemaFile) (decl : Declaration) : TypeEntry :=
  ⟨decl.fullName,file,decl,typeIdentifier decl.fullName file.package⟩

def ofFiles (files : List SchemaFile) : TypeIndex :=
  (files.flatMap fun f => f.declarations.map (entryOf f)).foldl insert empty

end TypeIndex

end SchemaCodec
