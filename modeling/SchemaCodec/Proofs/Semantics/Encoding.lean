import SchemaCodec.Codec.Binding
import SchemaCodec.Proofs.Semantics.Value

/-! # What encode code does

Encode code is run on the value of a message: it reads fields and the variables of loops and matches,
and its calls of the runtime leave a trace. A message is handed to its own method, which is given
here as `method`. Code that the generated language would refuse has no trace.
-/
namespace SchemaCodec.Codec

/-- What encode code can name: the slots of the message and the variables that are bound. -/
structure Scope where
  self : Slot → Value
  locals : Local → Option Value

namespace Scope

def bind (scope : Scope) (v : Local) (x : Value) : Scope :=
  { scope with locals := fun l => if l = v then some x else scope.locals l }

def get (scope : Scope) : Place → Option Value
  | .given _ _ => none
  | .field name => some (scope.self (.field name))
  | .bound v => scope.locals v

@[simp] theorem get_bind_self (scope : Scope) (v : Local) (x : Value) :
    (scope.bind v x).get (.bound v) = some x := by
  simp [bind,get]

theorem get_bind_of_ne {scope : Scope} {v l : Local} (h : l ≠ v) (x : Value) :
    (scope.bind v x).get (.bound l) = scope.get (.bound l) := by
  simp [bind,get,h]

end Scope

def writeDatum (type : Primitive) : Value → Option Trace
  | .datum d => if d.type = type then some [.token (.scalar d)] else none
  | _ => none

def writeNumber : Value → Option Trace
  | .variant _ number => some [.token (.scalar (.u32 number))]
  | _ => none

/-- A message is written by its method, which begins at once. -/
def writeMessage (method : Value → Option Trace) (guarded : Bool) (v : Value) : Option Trace :=
  (method v).map (.opened guarded :: ·)

def Writer.run (method : Value → Option Trace) : Writer → Scope → Option Trace
  | .primitive type source,scope => (scope.get source).bind (writeDatum type)
  | .enumNumber source,scope => (scope.get source).bind writeNumber
  | .message source,scope => (scope.get source).bind (writeMessage method false)
  | .array source element item body,scope => do
    let .array items ← scope.get source | none
    let parts ← items.mapM fun x => body.run method (scope.bind item x)
    some (.token (.array items.length element) :: parts.flatten)
  | .map source keyKind valueKind key item keyBody valueBody,scope => do
    let .map entries ← scope.get source | none
    let parts ← entries.mapM fun e => do
      let inner := (scope.bind key (.datum e.1)).bind item e.2
      some ((← keyBody.run method inner) ++ (← valueBody.run method inner))
    some (.token (.map entries.length keyKind valueKind) :: parts.flatten)

/-- What the code of a plain field writes; the arm of a match is no statement of its own. -/
def FieldWriter.run (method : Value → Option Trace) (self : Slot → Value) :
    FieldWriter → Option Trace
  | .optional field =>
    match self (.field field) with
    | .none => some [.token .none]
    | .some v => writeMessage method true v
    | _ => none
  | .member _ _ _ => none
  | .plain body => body.run method ⟨self,fun _ => none⟩

/-- The number and the code of an arm, if it is the one of a member. -/
def FieldWriter.arm? (member : String) : FieldWriter → Option (Int × Writer)
  | .member variant number body => if variant.member = member then some (number,body) else none
  | _ => none

def Run.write (method : Value → Option Trace) (self : Slot → Value) :
    Run FieldWriter → Option Trace
  | .plain b => b.code.run method self
  | .group name first more =>
    match self (.group name) with
    | .none => some [.token .none]
    | .member member v => do
      let (number,body) ← (first :: more).findSome? fun b => b.code.arm? member
      let written ← body.run method (Scope.bind ⟨self,fun _ => none⟩ (.item 1) v)
      some (.token (.scalar (.u32 number)) :: written)
    | _ => none

/-- The message that a name is declared as. -/
def messageOf? (index : TypeIndex) (name : String) : Option Message :=
  match index.find? name with
  | some ⟨_,_,.message m,_⟩ => some m
  | _ => none

/-- The trace of a message's encode method, in which methods may call each other `depth` deep. -/
def encodeRun (index : TypeIndex) : (depth : ℕ) → Value → Option Trace
  | 0,_ => none
  | depth + 1,.struct name self => do
    let m ← messageOf? index name
    let table ← (encodeTable index m).toOption
    let parts ← (runs table).mapM (Run.write (encodeRun index depth) self)
    some parts.flatten
  | _ + 1,_ => none

/-- The encode method leaves the trace, once calls may be nested as deep as it takes. -/
def Encodes (index : TypeIndex) (v : Value) (trace : Trace) : Prop :=
  ∃ least, ∀ depth ≥ least, encodeRun index depth v = some trace

theorem Encodes.unique {index : TypeIndex} {v : Value} {a b : Trace} (ha : Encodes index v a)
    (hb : Encodes index v b) : a = b := by
  obtain ⟨m,hm⟩ := ha
  obtain ⟨n,hn⟩ := hb
  have he := (hm (max m n) (Nat.le_max_left m n)).symm.trans (hn _ (Nat.le_max_right m n))
  exact Option.some.inj he

end SchemaCodec.Codec
