import SchemaCodec.Proofs.Schema.Index

/-! # Schemas without their comments

Taking all comments off a schema leaves its declarations in their places, each without its comments.
So an index of the files finds the same types under the same names.
-/
namespace SchemaCodec

def Field.uncommented (f : Field) : Field := { f with comment := none }

def EnumValue.uncommented (v : EnumValue) : EnumValue := { v with comment := none }

def EnumDecl.uncommented (d : EnumDecl) : EnumDecl :=
  { d with values := d.values.map EnumValue.uncommented, comment := none }

mutual

/-- A message without its comments and those of all that is nested in it. -/
def Message.uncommented : Message → Message
  | ⟨name,fullName,fields,messages,enums,_⟩ =>
    ⟨name,fullName,fields.map Field.uncommented,Message.uncommentedAll messages,
      enums.map EnumDecl.uncommented,none⟩

def Message.uncommentedAll : List Message → List Message
  | [] => []
  | m :: rest => m.uncommented :: Message.uncommentedAll rest

end

def Declaration.uncommented : Declaration → Declaration
  | .enum d => .enum d.uncommented
  | .message m => .message m.uncommented

/-- The file as if it held no comment at all. -/
def SchemaFile.uncommented (file : SchemaFile) : SchemaFile :=
  { file with
    messages := Message.uncommentedAll file.messages
    enums := file.enums.map EnumDecl.uncommented }

def TypeEntry.uncommented (e : TypeEntry) : TypeEntry :=
  { e with file := e.file.uncommented, declaration := e.declaration.uncommented }

@[simp] theorem Message.fullName_uncommented (m : Message) :
    m.uncommented.fullName = m.fullName := by
  cases m
  rw [Message.uncommented]

@[simp] theorem Message.fields_uncommented (m : Message) :
    m.uncommented.fields = m.fields.map Field.uncommented := by
  cases m
  rw [Message.uncommented]

@[simp] theorem Message.comment_uncommented (m : Message) : m.uncommented.comment = none := by
  cases m
  rw [Message.uncommented]

@[simp] theorem Declaration.fullName_uncommented (d : Declaration) :
    d.uncommented.fullName = d.fullName := by
  cases d with
  | enum d => rfl
  | message m => exact m.fullName_uncommented

mutual

theorem Message.declarations_uncommented :
    ∀ m : Message, m.uncommented.declarations = m.declarations.map Declaration.uncommented
  | ⟨name,fullName,fields,messages,enums,comment⟩ => by
    rw [Message.uncommented,Message.declarations,Message.declarations,
      Message.declarationsOf_uncommented messages]
    simp [Declaration.uncommented,Message.uncommented,Function.comp_def]

theorem Message.declarationsOf_uncommented :
    ∀ ms : List Message, Message.declarationsOf (Message.uncommentedAll ms) =
      (Message.declarationsOf ms).map Declaration.uncommented
  | [] => by rw [Message.uncommentedAll,Message.declarationsOf,List.map_nil]
  | m :: rest => by
    rw [Message.uncommentedAll,Message.declarationsOf,Message.declarationsOf,List.map_append,
      Message.declarations_uncommented m,Message.declarationsOf_uncommented rest]

end

theorem SchemaFile.declarations_uncommented (file : SchemaFile) :
    file.uncommented.declarations = file.declarations.map Declaration.uncommented := by
  simp [SchemaFile.declarations,SchemaFile.uncommented,Message.declarationsOf_uncommented,
    Declaration.uncommented,Function.comp_def]

theorem SchemaFile.declaredNames_uncommented (file : SchemaFile) :
    file.uncommented.declaredNames = file.declaredNames := by
  simp [SchemaFile.declaredNames,SchemaFile.declarations_uncommented,Function.comp_def]

namespace TypeIndex

theorem entryOf_uncommented (file : SchemaFile) (d : Declaration) :
    entryOf file.uncommented d.uncommented = (entryOf file d).uncommented := by
  rw [entryOf,d.fullName_uncommented]
  rfl

theorem entriesOf_uncommented (files : List SchemaFile) :
    entriesOf (files.map SchemaFile.uncommented) =
      (entriesOf files).map TypeEntry.uncommented := by
  rw [entriesOf,entriesOf,List.flatMap_map,List.map_flatMap]
  refine List.flatMap_congr fun file _ => ?_
  rw [file.declarations_uncommented,List.map_map,List.map_map]
  exact List.map_congr_left fun d _ => entryOf_uncommented file d

/-- Without comments a name stands for the same declaration. -/
theorem find?_uncommented (files : List SchemaFile) (name : String) :
    (ofFiles (files.map SchemaFile.uncommented)).find? name =
      ((ofFiles files).find? name).map TypeEntry.uncommented := by
  rw [find?_ofFiles_eq,find?_ofFiles_eq,entriesOf_uncommented,← List.map_reverse,List.find?_map]
  rfl

end TypeIndex
end SchemaCodec
