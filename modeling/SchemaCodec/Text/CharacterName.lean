import SchemaCodec.Text.CharacterName.Alias
import SchemaCodec.Text.CharacterName.Alphabets
import SchemaCodec.Text.CharacterName.Ancient
import SchemaCodec.Text.CharacterName.Notation
import SchemaCodec.Text.CharacterName.Syllabaries
import SchemaCodec.Text.CharacterName.Symbols
import SchemaCodec.Text.CodePoints
import SchemaCodec.Text.Radix
import SchemaCodec.Text.Split

/-! # Names of characters

Every character has a name of its own. Syllables of Hangul are named by their sounds, ideographs and
some other families by a number, and all others by tables. In a table a digit says how many words an
entry shares with the one before it, and its other words follow; the code point is given in base
sixteen where it does not follow the one before it. Names are found in capital and small letters,
except that the families of Hangul and of the unified ideographs are only found in capitals.
-/
namespace SchemaCodec.Text

/-! ## Hangul -/

def leadingSounds : List String :=
  ["G", "GG", "N", "D", "DD", "R", "M", "B", "BB", "S", "SS", "", "J", "JJ", "C", "K", "T", "P",
   "H"]

def vowelSounds : List String :=
  ["A", "AE", "YA", "YAE", "EO", "E", "YEO", "YE", "O", "WA", "WAE", "OE", "YO", "U", "WEO", "WE",
   "WI", "YU", "EU", "YI", "I"]

def trailingSounds : List String :=
  ["", "G", "GG", "GS", "N", "NJ", "NH", "D", "L", "LG", "LM", "LB", "LS", "LT", "LP", "LH", "M",
   "B", "BS", "S", "SS", "NG", "J", "C", "K", "T", "P", "H"]

/-- The position of the longest of some sounds that a text begins with, and what follows it. -/
def readSound? (sounds : List String) (cs : List Char) : Option (Nat × List Char) :=
  let found := (sounds.mapIdx fun i s => (i, s.toList)).filter fun (_, s) => s.isPrefixOf cs
  let longest? := found.foldl (fun best entry =>
    match best with
    | none => some entry
    | some (_, s) => if s.length < entry.2.length then some entry else best) none
  longest?.map fun (i, s) => (i, cs.drop s.length)

def hangulNamed? (sounds : List Char) : Option Nat := do
  let (l, rest) ← readSound? leadingSounds sounds
  let (v, rest) ← readSound? vowelSounds rest
  let (t, rest) ← readSound? trailingSounds rest
  if rest = [] then some (0xAC00 + (l * vowelSounds.length + v) * trailingSounds.length + t)
  else none

/-! ## Numbered families -/

def unifiedIdeographs : CodePoints :=
  [0x3400, 0x4DC0, 0x4E00, 0xA000, 0x20000, 0x2A6E0, 0x2A700, 0x2B739, 0x2B740, 0x2B81E, 0x2B820,
   0x2CEA2, 0x2CEB0, 0x2EBE1, 0x30000, 0x3134B]

def isCapitalHexDigit (c : Char) : Bool := c.isDigit || ('A' ≤ c && c ≤ 'F')

def ideographNamed? (digits : List Char) : Option Nat :=
  let n := ofDigits 16 digits
  if (digits.length = 4 ∨ digits.length = 5) ∧ digits.all isCapitalHexDigit
      ∧ unifiedIdeographs.contains n then some n
  else none

/-- A family whose members are named by their code points, without zeros in front. -/
structure CodeFamily where
  front : String
  members : CodePoints

def codeFamilies : List CodeFamily :=
  [⟨"CJK COMPATIBILITY IDEOGRAPH-",[0xF900, 0xFA6E, 0xFA70, 0xFADA, 0x2F800, 0x2FA1E]⟩,
   ⟨"KHITAN SMALL SCRIPT CHARACTER-",[0x18B00, 0x18CD6]⟩,
   ⟨"NUSHU CHARACTER-",[0x1B170, 0x1B2FC]⟩]

def CodeFamily.named? (family : CodeFamily) (name : List Char) : Option Nat :=
  if family.front.toList.isPrefixOf name then
    let digits := name.drop family.front.length
    let n := ofDigits 16 digits
    if digits.all isHexDigit ∧ digits.head? ≠ some '0' ∧ family.members.contains n then some n
    else none
  else none

/-- A family whose members are counted in digits of at least some width. -/
structure CountedFamily where
  front : String
  width : Nat
  /-- The code points of consecutive members: how many come before them, the first, how many. -/
  runs : List (Nat × Nat × Nat)

def countedFamilies : List CountedFamily :=
  [⟨"TANGUT COMPONENT-",3,[(0, 0x18800, 768)]⟩,
   ⟨"VARIATION SELECTOR-",1,[(0, 0xFE00, 16), (16, 0xE0100, 240)]⟩]

def CountedFamily.named? (family : CountedFamily) (name : List Char) : Option Nat :=
  if family.front.toList.isPrefixOf name then
    let digits := name.drop family.front.length
    let n := ofDigits 10 digits
    let written := (toString n).toList
    if digits.all Char.isDigit
        ∧ digits = List.replicate (family.width - written.length) '0' ++ written then
      family.runs.findSome? fun (before, first, count) =>
        if before < n ∧ n ≤ before + count then some (first + n - before - 1) else none
    else none
  else none

/-! ## Tables -/

/-- The code point and words of an entry behind one with the code point before `code`. -/
def readNameEntry (code : Nat) (words : List (List Char)) (entry : List Char) :
    Nat × List (List Char) :=
  let (number, body) := entry.span (· ≠ '=')
  let (code, body) := if body = [] then (code, number) else (ofDigits 16 number, body.drop 1)
  match body with
  | shared :: rest => (code, words.take (digitValue shared) ++ split ' ' rest)
  | [] => (code, [])

def findName? (target : List (List Char)) : (count code : Nat) → (words : List (List Char)) →
    List Char → Option Nat
  | 0, _, _, _ => none
  | count + 1, code, words, cs =>
    let (entry, rest) := cs.span (· ≠ ';')
    let (code, words) := readNameEntry code words entry
    if words = target then some code
    else
      match rest with
      | [] => none
      | _ :: rest => findName? target count (code + 1) words rest

def nameTables : List String :=
  [alphabetsNames, symbolsNames, notationNames, syllabariesNames, ancientNames]

def findAlias? (name : List Char) : (count : Nat) → List Char → Option Nat
  | 0, _ => none
  | count + 1, cs =>
    let (entry, rest) := cs.span (· ≠ ';')
    let (code, alias?) := entry.span (· ≠ '=')
    if alias?.drop 1 = name then some (ofDigits 16 code)
    else
      match rest with
      | [] => none
      | _ :: rest => findAlias? name count rest

def tableNamed? (name : List Char) : Option Nat :=
  let words := split ' ' name
  match nameTables.findSome? fun t => findName? words t.length 0 [] t.toList with
  | some n => some n
  | none => findAlias? name aliasNames.length aliasNames.toList

def codePointNamed? (name : List Char) : Option Nat :=
  let hangul := "HANGUL SYLLABLE ".toList
  let ideograph := "CJK UNIFIED IDEOGRAPH-".toList
  if hangul.isPrefixOf name then hangulNamed? (name.drop hangul.length)
  else if ideograph.isPrefixOf name then ideographNamed? (name.drop ideograph.length)
  else
    let name := name.map Char.toUpper
    match codeFamilies.findSome? fun f => f.named? name with
    | some n => some n
    | none =>
      match countedFamilies.findSome? fun f => f.named? name with
      | some n => some n
      | none => tableNamed? name

def characterNamed? (name : List Char) : Option Char := (codePointNamed? name).map Char.ofNat

end SchemaCodec.Text
