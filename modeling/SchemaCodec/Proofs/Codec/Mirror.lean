import SchemaCodec.Proofs.Codec.DecodedLines
import SchemaCodec.Proofs.Codec.LoopVariables

/-! # Encode and decode code mirror each other

The code that writes a value and the code that reads one take the same steps on the wire, those that
the kind asks for, however deep containers are nested. It matters neither which expression holds the
value nor what becomes of the value that was read.
-/
namespace SchemaCodec.Codec

/-- For every kind without a oneof whose types are all declared: encode code and decode code take the
steps of the kind, and encode code dereferences the variable of a loop exactly where it passes a
number, a truth value or an enum. -/
theorem writer_reader_mirror {files : List SchemaFile} {kind : Kind} (h : holdsOneof kind = false)
    (hnamed : ∀ name ∈ namedTypes kind, (TypeIndex.ofFiles files).contains name = true)
    (expr : String) (byRef : Bool) (depth : ℕ) {assign : String → String}
    (hassign : AddsNoCall (TypeIndex.ofFiles files) assign) :
    ∃ w r, writer kind (.given expr byRef) depth = .ok w ∧
      reader (TypeIndex.ofFiles files) kind (.given assign) depth = .ok r ∧
      stepsOf (encodedSteps expr.toList) w.lines = wireSteps kind ∧
      stepsOf decodedSteps r.lines = wireSteps kind ∧
      ∀ line ∈ w.lines, line.toList.head? = some ' ' → UsesLoopVariable line.toList := by
  have hplace : (Place.given expr byRef).IsOf expr.toList := .inl rfl
  obtain ⟨w,hw,hencoded⟩ := encodedSteps_writer expr.toList kind h _ hplace depth
  obtain ⟨r,hr,hdecoded⟩ := decodedSteps_reader files kind h hnamed (.given assign) hassign depth
  exact ⟨w,r,hw,hr,hencoded,hdecoded,usesLoopVariable_of_indented kind hw⟩

def paletteFile : SchemaFile :=
  ⟨"palette.proto","shop",[],[⟨"Palette","shop.Palette",[],[],[],none⟩],
    [⟨"Color","shop.Color",[⟨"RED",0,none⟩],none⟩],true⟩

/-- Lists of colors by number, the numbers by name, several times over. -/
def paletteKind : Kind :=
  .repeated (.map .string (.map (.integer 32 false) (.repeated (.enum "shop.Color"))))

theorem addsNoCall_store :
    AddsNoCall (TypeIndex.ofFiles [paletteFile]) (Sink.store "colors").line := by
  have hline : ∀ value, ((Sink.store "colors").line value).toList =
      "x.colors = ".toList ++ (value.toList ++ ";".toList) := by
    intro value
    have hname : Identifier.escape "colors" = "colors" := by decide
    simp [Sink.line,hname]
  exact addsNoCall_of_quiet hline ⟨_,rfl,by decide⟩ (quiet_of_tails (by decide))
    (quiet_of_tails (by decide))

theorem writer_reader_mirror_palette :
    holdsOneof paletteKind = false ∧
    (∀ name ∈ namedTypes paletteKind, (TypeIndex.ofFiles [paletteFile]).contains name = true) ∧
    AddsNoCall (TypeIndex.ofFiles [paletteFile]) (Sink.store "colors").line ∧
    ∃ w r, writer paletteKind (.given "self.colors" false) 1 = .ok w ∧
      reader (TypeIndex.ofFiles [paletteFile]) paletteKind (.given (Sink.store "colors").line) 1 =
        .ok r ∧
      stepsOf (encodedSteps "self.colors".toList) w.lines = wireSteps paletteKind ∧
      stepsOf decodedSteps r.lines = wireSteps paletteKind ∧
      ∀ line ∈ w.lines, line.toList.head? = some ' ' → UsesLoopVariable line.toList := by
  have h : holdsOneof paletteKind = false := rfl
  have hnamed : ∀ name ∈ namedTypes paletteKind,
      (TypeIndex.ofFiles [paletteFile]).contains name = true := by decide
  exact ⟨h,hnamed,addsNoCall_store,
    writer_reader_mirror h hnamed "self.colors" false 1 addsNoCall_store⟩

end SchemaCodec.Codec
