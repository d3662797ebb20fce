import Mathlib.Data.List.Basic
import SchemaCodec.Codec.Basic
import SchemaCodec.Proofs.Codec.WireStep

/-! # Characters of the words in generated code

Names of calls and of variables are letters and digits. Names of kinds have colons besides. So no
word ends or hides another one: where a bracket, a blank or a dot stands, a word is over.
-/
namespace SchemaCodec.Codec

theorem toList_toString (n : ℕ) : (toString n).toList = Nat.toDigits 10 n := by
  simp [toString,Nat.repr]

theorem isDigit_of_mem {n : ℕ} {c : Char} (h : c ∈ Nat.toDigits 10 n) : c.isDigit = true :=
  Nat.isDigit_of_mem_toDigits (by decide) (by decide) h

theorem isAlphanum_of_isDigit {c : Char} (h : c.isDigit = true) : c.isAlphanum = true := by
  simp [Char.isAlphanum,h]

/-- A word of letters and digits. -/
def IsWord (text : List Char) : Prop := ∀ c ∈ text, c.isAlphanum = true

theorem IsWord.append {a b : List Char} (ha : IsWord a) (hb : IsWord b) : IsWord (a ++ b) := by
  intro c hc
  rcases List.mem_append.mp hc with h | h
  · exact ha c h
  · exact hb c h

theorem isWord_of_all {text : List Char} (h : text.all Char.isAlphanum = true) : IsWord text :=
  List.all_eq_true.mp h

theorem isWord_toString (n : ℕ) : IsWord (toString n).toList := by
  rw [toList_toString]
  exact fun _ h => isAlphanum_of_isDigit (isDigit_of_mem h)

theorem IsWord.not_mem {text : List Char} (h : IsWord text) {c : Char}
    (hc : c.isAlphanum = false) : c ∉ text := by
  intro hmem
  rw [h c hmem] at hc
  cases hc

theorem isWord_integerName (signed : Bool) (bits : ℕ) :
    IsWord (Kind.integerName signed bits).toList := by
  rw [Kind.integerName,String.toList_append]
  refine IsWord.append ?_ (isWord_toString bits)
  cases signed <;> exact isWord_of_all (by decide)

theorem isWord_suffix (type : Primitive) : IsWord type.suffix.toList := by
  cases type with
  | integer bits signed => exact isWord_integerName signed bits
  | float bits =>
    rw [Primitive.suffix,String.toList_append]
    exact IsWord.append (isWord_of_all (by decide)) (isWord_toString bits)
  | bool | string | bytes => exact isWord_of_all (by decide)

/-- No primitive type is called like a container. -/
theorem suffix_ne_container (type : Primitive) :
    type.suffix.toList ≠ "array".toList ∧ type.suffix.toList ≠ "map".toList := by
  cases type with
  | integer bits signed =>
    rw [Primitive.suffix,Kind.integerName,String.toList_append]
    cases signed <;> constructor <;> simp
  | float bits =>
    rw [Primitive.suffix,String.toList_append]
    constructor <;> simp
  | bool | string | bytes => constructor <;> decide

theorem isLoopVariable_of_digits {c : Char} (hc : c = 'v' ∨ c = 'k') (n : ℕ) :
    isLoopVariable (c :: (toString n).toList) = true := by
  have hall : ∀ d ∈ Nat.toDigits 10 n, d.isDigit = true := fun _ => isDigit_of_mem
  rcases hc with rfl | rfl <;> simpa [isLoopVariable] using hall

theorem isLoopVariable_item (n : ℕ) : isLoopVariable (Local.item n).text.toList = true := by
  rw [Local.text,String.toList_append]
  exact isLoopVariable_of_digits (.inl rfl) n

theorem isLoopVariable_key (n : ℕ) : isLoopVariable (Local.key n).text.toList = true := by
  rw [Local.text,String.toList_append]
  exact isLoopVariable_of_digits (.inr rfl) n

/-- A character of a kind's name. -/
def IsKindChar (c : Char) : Prop := c.isAlphanum = true ∨ c = ':'

theorem isKindChar_of_all {text : List Char}
    (h : text.all (fun c => c.isAlphanum || c == ':') = true) : ∀ c ∈ text, IsKindChar c := by
  intro c hc
  simpa [IsKindChar] using List.all_eq_true.mp h c hc

theorem isKindChar_text (kind : WireKind) : ∀ c ∈ kind.text.toList, IsKindChar c := by
  have hword : ∀ {text : List Char}, IsWord text → ∀ c ∈ text, IsKindChar c :=
    fun h c hc => .inl (h c hc)
  cases kind with
  | integer bits signed =>
    simp only [WireKind.text,String.toList_append,List.mem_append]
    rintro c ((hc | hc) | hc)
    · exact isKindChar_of_all (by decide) c hc
    · cases signed <;> exact isKindChar_of_all (by decide) c hc
    · exact hword (isWord_toString bits) c hc
  | float bits =>
    simp only [WireKind.text,String.toList_append,List.mem_append]
    rintro c (hc | hc)
    · exact isKindChar_of_all (by decide) c hc
    · exact hword (isWord_toString bits) c hc
  | bool | string | bytes | any | array | map => exact isKindChar_of_all (by decide)

/-- No kind's name ends like a call of a message's own method. -/
theorem getLast_text (kind : WireKind) : ∃ c, kind.text.toList.getLast? = some c ∧ c ≠ 'e' := by
  have hdigits : ∀ (before : List Char) (bits : ℕ),
      ∃ c, (before ++ (toString bits).toList).getLast? = some c ∧ c ≠ 'e' := by
    intro before bits
    have hne : Nat.toDigits 10 bits ≠ [] := Nat.toDigits_ne_nil
    refine ⟨(Nat.toDigits 10 bits).getLast hne,?_,?_⟩
    · rw [toList_toString,List.getLast?_append,List.getLast?_eq_some_getLast hne]
      rfl
    · intro he
      have hd := isDigit_of_mem (List.getLast_mem hne)
      rw [he] at hd
      exact absurd hd (by decide)
  cases kind with
  | integer bits signed =>
    simp only [WireKind.text,String.toList_append]
    exact hdigits _ bits
  | float bits =>
    simp only [WireKind.text,String.toList_append]
    exact hdigits _ bits
  | bool | string | bytes | any | array | map => exact ⟨_,rfl,by decide⟩

end SchemaCodec.Codec
