import SchemaCodec.Grammar.Token
import SchemaCodec.Grammar.Tree

/-! # Reading states

A schema file is read token by token. The state between two tokens holds the declarations that are
still open, each with what it holds so far, and how far the statement at hand has come. `step` says
what a token leads to and `expected` which tokens are acceptable.
-/
namespace SchemaCodec.Grammar

inductive TypeProgress where
  | start
  | rooted
  | word (ref : TypeRef)
  | dot (ref : TypeRef)
  deriving DecidableEq, Repr

inductive OptionProgress where
  | start (name : List OptionPart)
  | extension (name : List OptionPart) (type : TypeProgress)
  | part (name : List OptionPart)
  | equals (name : List OptionPart)
  | sign (name : List OptionPart) (sign : Sign)
  | path (name : List OptionPart) (p : Dotted)
  | pathDot (name : List OptionPart) (p : Dotted)
  | done (setting : Setting)
  deriving DecidableEq, Repr

/-- What stands before the name of a numbered declaration. -/
inductive Head where
  | field (label : Option Label) (type : TypeRef)
  | map (key value : TypeRef)
  | member (type : TypeRef)
  | value
  deriving DecidableEq, Repr

structure Numbered where
  line : Nat
  head : Head
  name : String
  negative : Bool
  number : String
  deriving DecidableEq, Repr

inductive TypeUse where
  | field (label : Option Label)
  | member
  | mapKey
  | mapValue (key : TypeRef)
  deriving DecidableEq, Repr

/-- What has ended just before an item; a declaration that can stand in several kinds of bodies is
followed by the words of all of them. -/
inductive Ended where
  | own
  | shared
  | reserved
  deriving DecidableEq, Repr

inductive Progress where
  | item (last : Ended)
  | syntaxWord
  | syntaxEquals
  | syntaxText (literal : String)
  | packageWord
  | package (name : Dotted)
  | packageDot (name : Dotted)
  | importWord
  | importKind (modifier : ImportModifier)
  | importText (modifier : Option ImportModifier) (literal : String)
  | messageWord (line : Nat)
  | messageName (line : Nat) (name : String)
  | enumWord (line : Nat)
  | enumName (line : Nat) (name : String)
  | oneofWord
  | oneofName (name : String)
  | mapWord (line : Nat)
  | type (line : Nat) (use : TypeUse) (progress : TypeProgress)
  | mapTypes (line : Nat) (key value : TypeRef)
  | named (line : Nat) (head : Head) (name : String)
  | equals (line : Nat) (head : Head) (name : String) (negative : Bool)
  | numbered (n : Numbered)
  | setting (n : Numbered) (done : List Setting) (progress : OptionProgress)
  | settingsClosed (n : Numbered) (settings : List Setting)
  | option (progress : OptionProgress)
  | reservedWord
  | rangeFirst (done : List Range) (first : String)
  | rangeTo (done : List Range) (first : String)
  | rangeDone (done : List Range)
  | rangeComma (done : List Range)
  | reservedName (names : List String)
  | reservedComma (names : List String)
  deriving DecidableEq, Repr

/-- A message whose body is open, with its items latest first. -/
structure OpenMessage where
  line : Nat
  name : String
  items : List MessageItem
  deriving Repr

/-- The body inside the innermost message or the file that is open, its items latest first. -/
inductive Inner where
  | none
  | oneof (name : String) (items : List OneofItem)
  | enum (line : Nat) (name : String) (items : List EnumItem)
  deriving DecidableEq, Repr

/-- All that is open: the file with its statements latest first, messages innermost first, and
perhaps a oneof or an enum. -/
structure Nest where
  statements : List Statement := []
  messages : List OpenMessage := []
  inner : Inner := .none
  deriving Repr

structure State where
  nest : Nest
  progress : Progress
  deriving Repr

namespace State

def start : State := ⟨{},.item .own⟩

end State

/-! ## What closes -/

namespace Nest

/-- Adds an item to the innermost message, or a statement to the file. -/
def addBlock (nest : Nest) (item : MessageItem) (statement : Statement) : Nest :=
  match nest.messages with
  | [] => { nest with statements := statement :: nest.statements, inner := .none }
  | m :: outer =>
    { nest with messages := { m with items := item :: m.items } :: outer, inner := .none }

def addStatement (nest : Nest) (statement : Statement) : Nest :=
  { nest with statements := statement :: nest.statements }

def addMessageItem (nest : Nest) (item : MessageItem) : Option Nest :=
  match nest.messages with
  | [] => none
  | m :: outer => some { nest with messages := { m with items := item :: m.items } :: outer }

def addOption (nest : Nest) (s : Setting) : Nest :=
  match nest.inner with
  | .none => nest.addBlock (.option s) (.option s)
  | .oneof name items => { nest with inner := .oneof name (.option s :: items) }
  | .enum line name items => { nest with inner := .enum line name (.option s :: items) }

def addEmpty (nest : Nest) : Nest :=
  match nest.inner with
  | .none => nest.addBlock .empty .empty
  | .oneof name items => { nest with inner := .oneof name (.empty :: items) }
  | .enum line name items => { nest with inner := .enum line name (.empty :: items) }

/-- Adds reserved numbers or names to the innermost message or enum. -/
def addReserved (nest : Nest) (r : Reserved) : Option Nest :=
  match nest.inner with
  | .none => nest.addMessageItem (.reserved r)
  | .oneof _ _ => none
  | .enum line name items => some { nest with inner := .enum line name (.reserved r :: items) }

def addNumbered (nest : Nest) (n : Numbered) (settings : List Setting) : Option Nest :=
  let slot : Slot := ⟨n.name,n.number,settings⟩
  match nest.inner, n.head with
  | .none, .field label type => nest.addMessageItem (.field ⟨n.line,label,type,slot⟩)
  | .none, .map key value => nest.addMessageItem (.map ⟨n.line,key,value,slot⟩)
  | .oneof name items, .member type =>
    some { nest with inner := .oneof name (.member ⟨n.line,type,slot⟩ :: items) }
  | .enum line name items, .value =>
    some { nest with inner := .enum line name (.value ⟨n.line,n.negative,slot⟩ :: items) }
  | _, _ => none

def close (nest : Nest) : Option (Nest × Ended) :=
  match nest.inner with
  | .enum line name items =>
    let tree : EnumTree := ⟨line,name,items.reverse⟩
    some (nest.addBlock (.enum tree) (.enum tree), .shared)
  | .oneof name items =>
    ({ nest with inner := .none }.addMessageItem (.oneof name items.reverse)).map (·, .own)
  | .none =>
    match nest.messages with
    | [] => none
    | m :: outer =>
      let items := m.items.reverse
      some ({ nest with messages := outer }.addBlock (.message m.line m.name items)
        (.message m.line m.name items), .shared)

end Nest

/-! ## Steps of the parts -/

namespace TypeProgress

def step : TypeProgress → Token → Option TypeProgress
  | start, ⟨.mark .dot,_,_⟩ => some rooted
  | start, ⟨.word,w,_⟩ => some (word ⟨false,⟨w,[]⟩⟩)
  | rooted, ⟨.word,w,_⟩ => some (word ⟨true,⟨w,[]⟩⟩)
  | word ref, ⟨.mark .dot,_,_⟩ => some (dot ref)
  | dot ref, ⟨.word,w,_⟩ => some (word (ref.extend w))
  | _, _ => none

def done? : TypeProgress → Option TypeRef
  | word ref => some ref
  | _ => none

def expected : TypeProgress → List Terminal
  | start => [.mark .dot, .word]
  | rooted => [.word]
  | word _ => [.mark .dot]
  | dot _ => [.word]

end TypeProgress

namespace OptionProgress

def signOf? : Terminal → Option Sign
  | .mark .minus => some .minus
  | .mark .plus => some .plus
  | _ => none

def numberOf? : Token → Option Number
  | ⟨.int,s,_⟩ => some (.int s)
  | ⟨.float,s,_⟩ => some (.float s)
  | _ => none

def stepValue (name : List OptionPart) (t : Token) : Option OptionProgress :=
  match t.terminal with
  | .word => some (path name ⟨t.text,[]⟩)
  | .text => some (done ⟨name,.text t.text⟩)
  | terminal =>
    match signOf? terminal with
    | some s => some (sign name s)
    | none => (numberOf? t).map fun n => done ⟨name,.number none n⟩

def step : OptionProgress → Token → Option OptionProgress
  | start name, t =>
    match t.terminal with
    | .word => some (part (name ++ [.word t.text]))
    | .mark .openParen => some (extension name .start)
    | _ => none
  | extension name type, t =>
    match type.step t with
    | some next => some (extension name next)
    | none =>
      match t.terminal, type.done? with
      | .mark .closeParen, some ref => some (part (name ++ [.extension ref]))
      | _, _ => none
  | part name, t =>
    match t.terminal with
    | .mark .dot => some (start name)
    | .mark .equals => some (equals name)
    | _ => none
  | equals name, t => stepValue name t
  | sign name s, t => (numberOf? t).map fun n => done ⟨name,.number (some s) n⟩
  | path name p, t => if t.terminal = .mark .dot then some (pathDot name p) else none
  | pathDot name p, t => if t.terminal = .word then some (path name (p.extend t.text)) else none
  | done _, _ => none

def done? : OptionProgress → Option Setting
  | path name p => some ⟨name,.path p⟩
  | done s => some s
  | _ => none

def expected : OptionProgress → List Terminal
  | start _ => [.word, .mark .openParen]
  | extension _ type =>
    type.expected ++ if type.done?.isSome then [.mark .closeParen] else []
  | part _ => [.mark .dot, .mark .equals]
  | equals _ => [.word, .mark .minus, .mark .plus, .float, .int, .text]
  | sign _ _ => [.float, .int]
  | path _ _ => [.mark .dot]
  | pathDot _ _ => [.word]
  | done _ => []

end OptionProgress

/-! ## Steps of a statement -/

def labelOf? : Keyword → Option Label
  | .repeatedKw => some .repeated
  | .optionalKw => some .optional
  | .requiredKw => some .required
  | _ => none

def stepItemKeyword (nest : Nest) (k : Keyword) (line : Nat) : Option Progress :=
  match nest.inner, nest.messages, k with
  | _, _, .optionKw => some (.option (.start []))
  | .enum _ _ _, _, .reservedKw => some .reservedWord
  | .none, _, .messageKw => some (.messageWord line)
  | .none, _, .enumKw => some (.enumWord line)
  | .none, [], .syntaxKw => some .syntaxWord
  | .none, [], .packageKw => some .packageWord
  | .none, [], .importKw => some .importWord
  | .none, _ :: _, .mapKw => some (.mapWord line)
  | .none, _ :: _, .oneofKw => some .oneofWord
  | .none, _ :: _, .reservedKw => some .reservedWord
  | .none, _ :: _, k => (labelOf? k).map fun l => .type line (.field (some l)) .start
  | _, _, _ => none

def typeUse? (nest : Nest) : Option TypeUse :=
  match nest.inner, nest.messages with
  | .none, _ :: _ => some (.field none)
  | .oneof _ _, _ => some .member
  | _, _ => none

def stepItem (nest : Nest) (t : Token) : Option State :=
  match t.terminal with
  | .keyword k => (stepItemKeyword nest k t.position.line).map (⟨nest,·⟩)
  | .mark .semicolon => some ⟨nest.addEmpty,.item .own⟩
  | .mark .closeBrace => nest.close.map fun (outer, ended) => ⟨outer,.item ended⟩
  | .word =>
    match nest.inner with
    | .enum _ _ _ => some ⟨nest,.named t.position.line .value t.text⟩
    | _ =>
      match typeUse? nest, TypeProgress.start.step t with
      | some use, some next => some ⟨nest,.type t.position.line use next⟩
      | _, _ => none
  | .mark .dot =>
    match typeUse? nest, TypeProgress.start.step t with
    | some use, some next => some ⟨nest,.type t.position.line use next⟩
    | _, _ => none
  | _ => none

def stepAfterType (line : Nat) (use : TypeUse) (ref : TypeRef) (t : Token) : Option Progress :=
  match use, t.terminal with
  | .field label, .word => some (.named line (.field label ref) t.text)
  | .member, .word => some (.named line (.member ref) t.text)
  | .mapKey, .mark .comma => some (.type line (.mapValue ref) .start)
  | .mapValue key, .mark .closeAngle => some (.mapTypes line key ref)
  | _, _ => none

/-- The state after the first `;` behind a numbered declaration. -/
def finishNumbered (nest : Nest) (n : Numbered) (settings : List Setting) : Option State :=
  (nest.addNumbered n settings).map (⟨·,.item .own⟩)

def finishReserved (nest : Nest) (r : Reserved) : Option State :=
  (nest.addReserved r).map (⟨·,.item .reserved⟩)

/-- The state that a token leads to; `none` if it cannot stand here. -/
def State.step (s : State) (t : Token) : Option State :=
  let nest := s.nest
  let go (p : Progress) : Option State := some ⟨nest,p⟩
  match s.progress, t.terminal with
  | .item _, _ => stepItem nest t
  | .syntaxWord, .mark .equals => go .syntaxEquals
  | .syntaxEquals, .text => go (.syntaxText t.text)
  | .syntaxText literal, .mark .semicolon =>
    some ⟨nest.addStatement (.syntaxIs literal),.item .own⟩
  | .packageWord, .word => go (.package ⟨t.text,[]⟩)
  | .package name, .mark .dot => go (.packageDot name)
  | .package name, .mark .semicolon => some ⟨nest.addStatement (.package name),.item .own⟩
  | .packageDot name, .word => go (.package (name.extend t.text))
  | .importWord, .keyword .publicKw => go (.importKind .publicly)
  | .importWord, .keyword .weakKw => go (.importKind .weakly)
  | .importWord, .text => go (.importText none t.text)
  | .importKind m, .text => go (.importText (some m) t.text)
  | .importText m literal, .mark .semicolon =>
    some ⟨nest.addStatement (.imports m literal),.item .own⟩
  | .messageWord line, .word => go (.messageName line t.text)
  | .messageName line name, .mark .openBrace =>
    some ⟨{ nest with messages := ⟨line,name,[]⟩ :: nest.messages },.item .own⟩
  | .enumWord line, .word => go (.enumName line t.text)
  | .enumName line name, .mark .openBrace =>
    some ⟨{ nest with inner := .enum line name [] },.item .own⟩
  | .oneofWord, .word => go (.oneofName t.text)
  | .oneofName name, .mark .openBrace => some ⟨{ nest with inner := .oneof name [] },.item .own⟩
  | .mapWord line, .mark .openAngle => go (.type line .mapKey .start)
  | .type line use progress, _ =>
    match progress.step t with
    | some next => go (.type line use next)
    | none => do go (← stepAfterType line use (← progress.done?) t)
  | .mapTypes line key value, .word => go (.named line (.map key value) t.text)
  | .named line head name, .mark .equals => go (.equals line head name false)
  | .equals line .value name false, .mark .minus => go (.equals line .value name true)
  | .equals line head name negative, .int => go (.numbered ⟨line,head,name,negative,t.text⟩)
  | .numbered n, .mark .openBracket => go (.setting n [] (.start []))
  | .numbered n, .mark .semicolon => finishNumbered nest n []
  | .setting n done progress, terminal =>
    match progress.step t with
    | some next => go (.setting n done next)
    | none =>
      match progress.done?, terminal with
      | some s, .mark .comma => go (.setting n (done ++ [s]) (.start []))
      | some s, .mark .closeBracket => go (.settingsClosed n (done ++ [s]))
      | _, _ => none
  | .settingsClosed n settings, .mark .semicolon => finishNumbered nest n settings
  | .option progress, terminal =>
    match progress.step t with
    | some next => go (.option next)
    | none =>
      match progress.done?, terminal with
      | some s, .mark .semicolon => some ⟨nest.addOption s,.item .shared⟩
      | _, _ => none
  | .reservedWord, .int => go (.rangeFirst [] t.text)
  | .reservedWord, .text => go (.reservedName [t.text])
  | .rangeFirst done first, .keyword .toKw => go (.rangeTo done first)
  | .rangeFirst done first, .mark .comma => go (.rangeComma (done ++ [⟨first,none⟩]))
  | .rangeFirst done first, .mark .semicolon =>
    finishReserved nest (.ranges (done ++ [⟨first,none⟩]))
  | .rangeTo done first, .int => go (.rangeDone (done ++ [⟨first,some (.number t.text)⟩]))
  | .rangeTo done first, .keyword .maxKw => go (.rangeDone (done ++ [⟨first,some .max⟩]))
  | .rangeDone done, .mark .comma => go (.rangeComma done)
  | .rangeDone done, .mark .semicolon => finishReserved nest (.ranges done)
  | .rangeComma done, .int => go (.rangeFirst done t.text)
  | .reservedName names, .mark .comma => go (.reservedComma names)
  | .reservedName names, .mark .semicolon => finishReserved nest (.names names)
  | .reservedComma names, .text => go (.reservedName (names ++ [t.text]))
  | _, _ => none

/-! ## Acceptable tokens -/

def fileKeywords : List Keyword :=
  [.syntaxKw, .packageKw, .importKw, .optionKw, .messageKw, .enumKw]

def messageKeywords : List Keyword :=
  [.repeatedKw, .optionalKw, .requiredKw, .mapKw, .oneofKw, .messageKw, .enumKw, .optionKw,
   .reservedKw]

/-- The keywords of the innermost body, and whether words stand there too. -/
def bodyVocabulary (nest : Nest) : List Keyword × Bool :=
  match nest.inner, nest.messages with
  | .oneof _ _, _ => ([.optionKw], true)
  | .enum _ _ _, _ => ([.optionKw, .reservedKw], true)
  | .none, [] => (fileKeywords, false)
  | .none, _ :: _ => (messageKeywords, true)

/-- The keywords told apart before an item, and whether words are read as such: behind a message, an
enum or an option all words of files and messages, behind reserved numbers all words of messages. -/
def itemVocabulary (nest : Nest) : Ended → List Keyword × Bool
  | .own => bodyVocabulary nest
  | .shared => (fileKeywords ++ messageKeywords, true)
  | .reserved => (messageKeywords, true)

def itemMarks (nest : Nest) : List Terminal :=
  let close := match nest.inner, nest.messages with
    | .none, [] => []
    | _, _ => [.mark .closeBrace]
  [.mark .semicolon] ++ close ++ if (typeUse? nest).isSome then [.mark .dot] else []

def afterType : TypeUse → List Terminal
  | .field _ | .member => [.word]
  | .mapKey => [.mark .comma]
  | .mapValue _ => [.mark .closeAngle]

def State.expected (s : State) : List Terminal :=
  match s.progress with
  | .item last =>
    let (keywords, words) := itemVocabulary s.nest last
    keywords.map .keyword ++ (if words then [.word] else []) ++ itemMarks s.nest
  | .syntaxWord => [.mark .equals]
  | .syntaxEquals => [.text]
  | .syntaxText _ => [.mark .semicolon]
  | .packageWord => [.word]
  | .package _ => [.mark .dot, .mark .semicolon]
  | .packageDot _ => [.word]
  | .importWord => [.keyword .publicKw, .keyword .weakKw, .text]
  | .importKind _ => [.text]
  | .importText _ _ => [.mark .semicolon]
  | .messageWord _ => [.word]
  | .messageName _ _ => [.mark .openBrace]
  | .enumWord _ => [.word]
  | .enumName _ _ => [.mark .openBrace]
  | .oneofWord => [.word]
  | .oneofName _ => [.mark .openBrace]
  | .mapWord _ => [.mark .openAngle]
  | .type _ use progress =>
    progress.expected ++ if progress.done?.isSome then afterType use else []
  | .mapTypes _ _ _ => [.word]
  | .named _ _ _ => [.mark .equals]
  | .equals _ .value _ false => [.mark .minus, .int]
  | .equals _ _ _ _ => [.int]
  | .numbered _ => [.mark .openBracket, .mark .semicolon]
  | .setting _ _ progress =>
    progress.expected ++
      if progress.done?.isSome then [.mark .comma, .mark .closeBracket] else []
  | .settingsClosed _ _ => [.mark .semicolon]
  | .option progress =>
    progress.expected ++ if progress.done?.isSome then [.mark .semicolon] else []
  | .reservedWord => [.int, .text]
  | .rangeFirst _ _ => [.keyword .toKw, .mark .comma, .mark .semicolon]
  | .rangeTo _ _ => [.int, .keyword .maxKw]
  | .rangeDone _ => [.mark .comma, .mark .semicolon]
  | .rangeComma _ => [.int]
  | .reservedName _ => [.mark .comma, .mark .semicolon]
  | .reservedComma _ => [.text]

def State.statements? (s : State) : Option (List Statement) :=
  match s.progress, s.nest.inner, s.nest.messages with
  | .item _, .none, [] => some s.nest.statements.reverse
  | _, _, _ => none

end SchemaCodec.Grammar
