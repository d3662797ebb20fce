/-! # Syntax trees of schema files

A tree holds all that a schema file says, as it is spelled: numbers and texts are kept as written,
and each declaration keeps the line of its first token.
-/
namespace SchemaCodec.Grammar

structure Dotted where
  head : String
  tail : List String
  deriving DecidableEq, Repr

def Dotted.extend (p : Dotted) (word : String) : Dotted := ⟨p.head,p.tail ++ [word]⟩

def Dotted.words (p : Dotted) : List String := p.head :: p.tail

/-- A reference to a type; a rooted one begins with a dot. -/
structure TypeRef where
  rooted : Bool
  path : Dotted
  deriving DecidableEq, Repr

def TypeRef.extend (r : TypeRef) (word : String) : TypeRef := ⟨r.rooted,r.path.extend word⟩

inductive Sign where
  | minus | plus
  deriving DecidableEq, Repr

inductive Number where
  | int (spelling : String)
  | float (spelling : String)
  deriving DecidableEq, Repr

inductive Constant where
  | path (p : Dotted)
  | number (sign : Option Sign) (value : Number)
  | text (literal : String)
  deriving DecidableEq, Repr

/-- A part of an option's name: a word, or an extension in parentheses. -/
inductive OptionPart where
  | word (w : String)
  | extension (ref : TypeRef)
  deriving DecidableEq, Repr

structure Setting where
  name : List OptionPart
  value : Constant
  deriving DecidableEq, Repr

inductive ImportModifier where
  | publicly | weakly
  deriving DecidableEq, Repr

inductive Label where
  | repeated | optional | required
  deriving DecidableEq, Repr

inductive RangeEnd where
  | number (spelling : String)
  | max
  deriving DecidableEq, Repr

/-- Reserved numbers, from the first to the last; alone, the first is the only one. -/
structure Range where
  first : String
  last : Option RangeEnd
  deriving DecidableEq, Repr

inductive Reserved where
  | ranges (rs : List Range)
  | names (literals : List String)
  deriving DecidableEq, Repr

/-- What every numbered declaration ends with: its name, its number as spelled, and its options. -/
structure Slot where
  name : String
  number : String
  settings : List Setting
  deriving DecidableEq, Repr

structure FieldTree where
  line : Nat
  label : Option Label
  type : TypeRef
  slot : Slot
  deriving DecidableEq, Repr

structure MapTree where
  line : Nat
  key : TypeRef
  value : TypeRef
  slot : Slot
  deriving DecidableEq, Repr

structure MemberTree where
  line : Nat
  type : TypeRef
  slot : Slot
  deriving DecidableEq, Repr

structure ValueTree where
  line : Nat
  negative : Bool
  slot : Slot
  deriving DecidableEq, Repr

inductive OneofItem where
  | member (m : MemberTree)
  | option (s : Setting)
  | empty
  deriving DecidableEq, Repr

inductive EnumItem where
  | value (v : ValueTree)
  | option (s : Setting)
  | reserved (r : Reserved)
  | empty
  deriving DecidableEq, Repr

structure EnumTree where
  line : Nat
  name : String
  items : List EnumItem
  deriving DecidableEq, Repr

inductive MessageItem where
  | field (f : FieldTree)
  | map (m : MapTree)
  | oneof (name : String) (items : List OneofItem)
  | message (line : Nat) (name : String) (items : List MessageItem)
  | enum (e : EnumTree)
  | option (s : Setting)
  | reserved (r : Reserved)
  | empty
  deriving Repr

inductive Statement where
  | syntaxIs (literal : String)
  | package (name : Dotted)
  | imports (modifier : Option ImportModifier) (literal : String)
  | option (s : Setting)
  | message (line : Nat) (name : String) (items : List MessageItem)
  | enum (e : EnumTree)
  | empty
  deriving Repr

end SchemaCodec.Grammar
