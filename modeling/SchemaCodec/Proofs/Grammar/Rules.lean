import Mathlib.Computability.RegularExpressions
import SchemaCodec.Grammar.Token

/-! # The grammar of the schema language

Each rule has a regular expression over rules and kinds of tokens for its body. A derivation is a
tree of rules with lexemes at its leaves; it is valid if the roots below each rule match its body.
-/
namespace SchemaCodec.Grammar

/-- What a token says, apart from its place. -/
inductive Lexeme where
  | keyword (k : Keyword)
  | mark (m : Mark)
  | word (w : String)
  | int (digits : String)
  | float (digits : String)
  | text (literal : String)
  deriving DecidableEq, Repr

namespace Lexeme

def terminal : Lexeme → Terminal
  | keyword k => .keyword k
  | mark m => .mark m
  | word _ => .word
  | int _ => .int
  | float _ => .float
  | text _ => .text

def spelling : Lexeme → String
  | keyword k => k.spelling
  | mark m => String.singleton m.spelling
  | word s | int s | float s | text s => s

def token (l : Lexeme) (p : Position) : Token := ⟨l.terminal,l.spelling,p⟩

end Lexeme

def Token.lexeme (t : Token) : Lexeme :=
  match t.terminal with
  | .keyword k => .keyword k
  | .mark m => .mark m
  | .word => .word t.text
  | .int => .int t.text
  | .float => .float t.text
  | .text => .text t.text

@[simp] theorem Lexeme.lexeme_token (l : Lexeme) (p : Position) : (l.token p).lexeme = l := by
  cases l <;> rfl

@[simp] theorem Token.terminal_lexeme (t : Token) : t.lexeme.terminal = t.terminal := by
  rcases t with ⟨_ | _ | _ | _ | _ | _,_,_⟩ <;> rfl

/-! ## Rules -/

inductive Rule where
  | file | syntaxLine | package | imports | importModifier | option | message | field | label
  | mapField | oneof | oneofField | enum | enumValue | reserved | range | rangeEnd | fieldOptions
  | fieldOption | optionName | constant | typeRef | fullIdent | signedInt | signedNumber
  deriving DecidableEq, Repr

inductive Symbol where
  | rule (r : Rule)
  | terminal (t : Terminal)
  deriving DecidableEq, Repr

abbrev Pattern := RegularExpression Symbol

namespace Pattern
open RegularExpression

def rule (r : Rule) : Pattern := char (.rule r)
def keyword (k : Keyword) : Pattern := char (.terminal (.keyword k))
def mark (m : Mark) : Pattern := char (.terminal (.mark m))
def word : Pattern := char (.terminal .word)
def int : Pattern := char (.terminal .int)
def float : Pattern := char (.terminal .float)
def text : Pattern := char (.terminal .text)

def optional (p : Pattern) : Pattern := 1 + p

/-- One or more, with a mark between neighbours. -/
def separated (m : Mark) (p : Pattern) : Pattern := p * star (mark m * p)

def statement : Pattern :=
  rule .syntaxLine + rule .package + rule .imports + rule .option + rule .message + rule .enum
    + mark .semicolon

def messageItem : Pattern :=
  rule .field + rule .mapField + rule .oneof + rule .message + rule .enum + rule .option
    + rule .reserved + mark .semicolon

def oneofItem : Pattern := rule .oneofField + rule .option + mark .semicolon

def enumItem : Pattern := rule .enumValue + rule .option + rule .reserved + mark .semicolon

def optionPart : Pattern := word + mark .openParen * rule .typeRef * mark .closeParen

/-- What follows the type of a numbered declaration. -/
def slot : Pattern :=
  word * mark .equals * int * optional (rule .fieldOptions) * mark .semicolon

end Pattern

open Pattern RegularExpression in
/-- The body of a rule. -/
def Rule.pattern : Rule → Pattern
  | file => star statement
  | syntaxLine => keyword .syntaxKw * mark .equals * text * mark .semicolon
  | package => keyword .packageKw * rule .fullIdent * mark .semicolon
  | imports => keyword .importKw * optional (rule .importModifier) * text * mark .semicolon
  | importModifier => keyword .publicKw + keyword .weakKw
  | option => keyword .optionKw * rule .optionName * mark .equals * rule .constant
      * mark .semicolon
  | message => keyword .messageKw * word * mark .openBrace * star messageItem * mark .closeBrace
  | field => optional (rule .label) * rule .typeRef * slot
  | label => keyword .repeatedKw + keyword .optionalKw + keyword .requiredKw
  | mapField => keyword .mapKw * mark .openAngle * rule .typeRef * mark .comma * rule .typeRef
      * mark .closeAngle * slot
  | oneof => keyword .oneofKw * word * mark .openBrace * star oneofItem * mark .closeBrace
  | oneofField => rule .typeRef * slot
  | enum => keyword .enumKw * word * mark .openBrace * star enumItem * mark .closeBrace
  | enumValue => word * mark .equals * rule .signedInt * optional (rule .fieldOptions)
      * mark .semicolon
  | reserved => keyword .reservedKw * (separated .comma (rule .range) + separated .comma text)
      * mark .semicolon
  | range => int * optional (keyword .toKw * rule .rangeEnd)
  | rangeEnd => int + keyword .maxKw
  | fieldOptions => mark .openBracket * separated .comma (rule .fieldOption) * mark .closeBracket
  | fieldOption => rule .optionName * mark .equals * rule .constant
  | optionName => separated .dot optionPart
  | constant => rule .fullIdent + rule .signedNumber + text
  | typeRef => optional (mark .dot) * separated .dot word
  | fullIdent => separated .dot word
  | signedInt => optional (mark .minus) * int
  | signedNumber => optional (mark .minus + mark .plus) * (int + float)

/-! ## Derivations -/

inductive Derivation where
  | leaf (l : Lexeme)
  | node (r : Rule) (children : List Derivation)
  deriving Repr

namespace Derivation

def root : Derivation → Symbol
  | leaf l => .terminal l.terminal
  | node r _ => .rule r

mutual

/-- The lexemes at the leaves, in order. -/
def yield : Derivation → List Lexeme
  | leaf l => [l]
  | node _ children => yields children

def yields : List Derivation → List Lexeme
  | [] => []
  | d :: rest => d.yield ++ yields rest

end

@[simp] theorem yield_leaf (l : Lexeme) : (leaf l).yield = [l] := by rw [yield]

@[simp] theorem yield_node (r : Rule) (children : List Derivation) :
    (node r children).yield = yields children := by rw [yield]

@[simp] theorem yields_nil : yields [] = [] := by rw [yields]

@[simp] theorem yields_cons (d : Derivation) (ds : List Derivation) :
    yields (d :: ds) = d.yield ++ yields ds := by rw [yields]

@[simp] theorem yields_append (ds es : List Derivation) :
    yields (ds ++ es) = yields ds ++ yields es := by
  induction ds with
  | nil => simp
  | cons d rest ih => simp [ih]

theorem yields_eq_flatMap (ds : List Derivation) : yields ds = ds.flatMap yield := by
  induction ds with
  | nil => simp
  | cons d rest ih => rw [yields_cons,ih,List.flatMap_cons]

/-- What stands below each rule follows its body. -/
inductive Valid : Derivation → Prop
  | leaf (l : Lexeme) : Valid (leaf l)
  | node (r : Rule) (children : List Derivation)
      (hroots : children.map root ∈ r.pattern.matches') (hc : ∀ d ∈ children, Valid d) :
      Valid (node r children)

end Derivation

/-- Valid derivations whose roots follow a pattern. -/
def Phrase (p : Pattern) (ds : List Derivation) : Prop :=
  ds.map Derivation.root ∈ p.matches' ∧ ∀ d ∈ ds, d.Valid

section Phrase
open Grammar.Derivation

variable {p q : Pattern} {ds : List Derivation} {r : Rule}

theorem valid_node_iff : (node r ds).Valid ↔ Phrase r.pattern ds := by
  constructor
  · intro h
    cases h with
    | node _ _ hroots hc => exact ⟨hroots,hc⟩
  · exact fun ⟨hroots,hc⟩ => .node r ds hroots hc

@[simp] theorem phrase_one_iff : Phrase 1 ds ↔ ds = [] := by
  simp only [Phrase,RegularExpression.matches'_epsilon,Language.mem_one,List.map_eq_nil_iff]
  exact and_iff_left_of_imp (by simp +contextual)

@[simp] theorem phrase_add_iff : Phrase (p + q) ds ↔ Phrase p ds ∨ Phrase q ds := by
  simp only [Phrase,RegularExpression.matches'_add,Language.mem_add,or_and_right]

@[simp] theorem phrase_mul_iff :
    Phrase (p * q) ds ↔ ∃ xs ys, Phrase p xs ∧ Phrase q ys ∧ ds = xs ++ ys := by
  simp only [Phrase,RegularExpression.matches'_mul,Language.mem_mul]
  constructor
  · rintro ⟨⟨as,ha,bs,hb,he⟩,hv⟩
    obtain ⟨xs,ys,rfl,rfl,rfl⟩ := List.map_eq_append_iff.mp he.symm
    exact ⟨xs,ys,⟨ha,fun d hd => hv d (List.mem_append_left _ hd)⟩,
      ⟨hb,fun d hd => hv d (List.mem_append_right _ hd)⟩,rfl⟩
  · rintro ⟨xs,ys,⟨ha,hx⟩,⟨hb,hy⟩,rfl⟩
    refine ⟨⟨_,ha,_,hb,(List.map_append ..).symm⟩,fun d hd => ?_⟩
    exact (List.mem_append.mp hd).elim (hx d) (hy d)

@[simp] theorem phrase_optional_iff : Phrase (.optional p) ds ↔ ds = [] ∨ Phrase p ds := by
  rw [Pattern.optional,phrase_add_iff,phrase_one_iff]

theorem phrase_char_iff {s : Symbol} :
    Phrase (.char s) ds ↔ ∃ d : Derivation, d.Valid ∧ d.root = s ∧ ds = [d] := by
  simp only [Phrase,RegularExpression.matches'_char]
  constructor
  · rintro ⟨h,hv⟩
    obtain ⟨d,rfl,hd⟩ := List.map_eq_singleton_iff.mp h
    exact ⟨d,hv d (List.mem_singleton_self d),hd,rfl⟩
  · rintro ⟨d,hv,rfl,rfl⟩
    exact ⟨rfl,by simpa using hv⟩

/-- Where each match of a pattern is one of a family, its repetitions are rows of members. -/
theorem phrase_star_iff {α : Type} {Q : α → Prop} {f : α → List Derivation}
    (h : ∀ xs, Phrase p xs ↔ ∃ a, Q a ∧ xs = f a) :
    Phrase (.star p) ds ↔ ∃ as : List α, (∀ a ∈ as, Q a) ∧ ds = as.flatMap f := by
  constructor
  · rintro ⟨hm,hv⟩
    obtain ⟨L,he,hL⟩ := Language.mem_kstar.mp (RegularExpression.matches'_star p ▸ hm)
    induction L generalizing ds with
    | nil => exact ⟨[],by simp,by simpa using he⟩
    | cons x L ih =>
      obtain ⟨xs,ys,rfl,rfl,hys⟩ := List.map_eq_append_iff.mp he
      obtain ⟨hx,hrest⟩ := List.forall_mem_cons.mp hL
      obtain ⟨a,ha,rfl⟩ := (h xs).mp ⟨hx,fun d hd => hv d (List.mem_append_left _ hd)⟩
      have hm' : ys.map root ∈ (RegularExpression.star p).matches' := by
        rw [hys,RegularExpression.matches'_star]
        exact Language.join_mem_kstar hrest
      obtain ⟨as,has,rfl⟩ := ih hm' (fun d hd => hv d (List.mem_append_right _ hd)) hys hrest
      exact ⟨a :: as,List.forall_mem_cons.mpr ⟨ha,has⟩,rfl⟩
  · rintro ⟨as,has,rfl⟩
    have hp (a : α) (ha : a ∈ as) : Phrase p (f a) := (h _).mpr ⟨a,has a ha,rfl⟩
    constructor
    · rw [RegularExpression.matches'_star,List.map_flatMap,List.flatMap_def]
      refine Language.join_mem_kstar fun y hy => ?_
      obtain ⟨a,ha,rfl⟩ := List.mem_map.mp hy
      exact (hp a ha).1
    · intro d hd
      obtain ⟨a,ha,hda⟩ := List.mem_flatMap.mp hd
      exact (hp a ha).2 d hda

theorem phrase_rule_iff :
    Phrase (.rule r) ds ↔ ∃ children, Phrase r.pattern children ∧ ds = [node r children] := by
  rw [Pattern.rule,phrase_char_iff]
  constructor
  · rintro ⟨⟨⟩ | ⟨_,children⟩,hv,hr,rfl⟩
    · cases hr
    · cases hr
      exact ⟨children,valid_node_iff.mp hv,rfl⟩
  · rintro ⟨children,hp,rfl⟩
    exact ⟨_,valid_node_iff.mpr hp,rfl,rfl⟩

theorem phrase_terminal_iff {t : Terminal} :
    Phrase (.char (.terminal t)) ds ↔ ∃ l : Lexeme, l.terminal = t ∧ ds = [leaf l] := by
  rw [phrase_char_iff]
  constructor
  · rintro ⟨l | ⟨_,_⟩,_,hr,rfl⟩
    · exact ⟨l,Symbol.terminal.inj hr,rfl⟩
    · cases hr
  · rintro ⟨l,rfl,rfl⟩
    exact ⟨_,.leaf l,rfl,rfl⟩

@[simp] theorem phrase_keyword_iff {k : Keyword} :
    Phrase (.keyword k) ds ↔ ds = [leaf (.keyword k)] := by
  rw [Pattern.keyword,phrase_terminal_iff]
  constructor
  · rintro ⟨_ | _ | _ | _ | _ | _,⟨⟩,rfl⟩
    rfl
  · rintro rfl
    exact ⟨_,rfl,rfl⟩

@[simp] theorem phrase_mark_iff {m : Mark} : Phrase (.mark m) ds ↔ ds = [leaf (.mark m)] := by
  rw [Pattern.mark,phrase_terminal_iff]
  constructor
  · rintro ⟨_ | _ | _ | _ | _ | _,⟨⟩,rfl⟩
    rfl
  · rintro rfl
    exact ⟨_,rfl,rfl⟩

@[simp] theorem phrase_word_iff : Phrase .word ds ↔ ∃ w, ds = [leaf (.word w)] := by
  rw [Pattern.word,phrase_terminal_iff]
  constructor
  · rintro ⟨_ | _ | w | _ | _ | _,⟨⟩,rfl⟩
    exact ⟨w,rfl⟩
  · rintro ⟨w,rfl⟩
    exact ⟨_,rfl,rfl⟩

@[simp] theorem phrase_int_iff : Phrase .int ds ↔ ∃ s, ds = [leaf (.int s)] := by
  rw [Pattern.int,phrase_terminal_iff]
  constructor
  · rintro ⟨_ | _ | _ | s | _ | _,⟨⟩,rfl⟩
    exact ⟨s,rfl⟩
  · rintro ⟨s,rfl⟩
    exact ⟨_,rfl,rfl⟩

@[simp] theorem phrase_float_iff : Phrase .float ds ↔ ∃ s, ds = [leaf (.float s)] := by
  rw [Pattern.float,phrase_terminal_iff]
  constructor
  · rintro ⟨_ | _ | _ | _ | s | _,⟨⟩,rfl⟩
    exact ⟨s,rfl⟩
  · rintro ⟨s,rfl⟩
    exact ⟨_,rfl,rfl⟩

@[simp] theorem phrase_text_iff : Phrase .text ds ↔ ∃ s, ds = [leaf (.text s)] := by
  rw [Pattern.text,phrase_terminal_iff]
  constructor
  · rintro ⟨_ | _ | _ | _ | _ | s,⟨⟩,rfl⟩
    exact ⟨s,rfl⟩
  · rintro ⟨s,rfl⟩
    exact ⟨_,rfl,rfl⟩

end Phrase

end SchemaCodec.Grammar
