import SchemaCodec.Text.CaseTable

/-! # Upper and lower case

Case conversion of characters and texts. ASCII follows its own rule, the rest the case tables. A
capital sigma is written as a final sigma where it ends a word: some cased character stands before
it and none after it, looking through characters that case ignores.
-/
namespace SchemaCodec.Text

def isLower (c : Char) : Bool :=
  if c.toNat < 128 then c.isLower else lowercasePoints.contains c.toNat

def isUpper (c : Char) : Bool :=
  if c.toNat < 128 then c.isUpper else uppercasePoints.contains c.toNat

def isTitle (c : Char) : Bool :=
  if c.toNat < 128 then false else titlecasePoints.contains c.toNat

def isCased (c : Char) : Bool := isLower c || isUpper c || isTitle c

def isCaseIgnorable (c : Char) : Bool := caseIgnorablePoints.contains c.toNat

def upperChar (c : Char) : List Char :=
  if c.toNat < 128 then [c.toUpper]
  else (mapCase upperRuns upperSequences c.toNat).map Char.ofNat

/-- The lower case of a character that is not a capital sigma at the end of a word. -/
def lowerChar (c : Char) : List Char :=
  if c.toNat < 128 then [c.toLower]
  else (mapCase lowerRuns lowerSequences c.toNat).map Char.ofNat

def startsCased (cs : List Char) : Bool :=
  match cs.dropWhile isCaseIgnorable with
  | [] => false
  | c :: _ => isCased c

/-- The lower case of what follows the characters `before`, which are given last to first. -/
def lowerAfter (before : List Char) : List Char → List Char
  | [] => []
  | c :: rest =>
    let image :=
      if c = 'Σ' then
        if startsCased before && !startsCased rest then ['ς'] else ['σ']
      else lowerChar c
    image ++ lowerAfter (c :: before) rest

def lower (cs : List Char) : List Char := lowerAfter [] cs

/-- Some character is upper-case and none is lower-case or title-case. -/
def isUpperText (cs : List Char) : Bool :=
  cs.any isUpper && !cs.any fun c => isLower c || isTitle c

theorem lowerAfter_of_ascii {before cs : List Char} (h : ∀ c ∈ cs, c.toNat < 128) :
    lowerAfter before cs = cs.map Char.toLower := by
  induction cs generalizing before with
  | nil => rfl
  | cons c rest ih =>
    have hc : c.toNat < 128 := h c (by simp)
    have hs : c ≠ 'Σ' := by rintro rfl; exact absurd hc (by decide)
    simp [lowerAfter, hs, lowerChar, hc, ih fun d hd => h d (by simp [hd])]

theorem lower_of_ascii {cs : List Char} (h : ∀ c ∈ cs, c.toNat < 128) :
    lower cs = cs.map Char.toLower :=
  lowerAfter_of_ascii h

end SchemaCodec.Text
