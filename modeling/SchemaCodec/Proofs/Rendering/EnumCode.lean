import SchemaCodec.Proofs.Rendering.Blocks
import SchemaCodec.Proofs.Rendering.Comments
import SchemaCodec.Proofs.Rendering.EnumLayout

/-! # The code of an enum

The code of an enum declares its values with their numbers and matches numbers to find the values
again. The two undo each other: the first arm that matches the number of a value is the arm of that
value, and the numbers of no value are left to the last arm. The default is the first value.
-/
namespace SchemaCodec
open Codec Rendering Text

namespace Rendering

section LinesInside
variable {opening closing : String} {rest : List String}

end LinesInside

section Lines
variable (b : EnumBlock) (first : String)

end Lines

/-! ## Finding values by their numbers -/

section Undoes
variable {decl : EnumDecl} (hlayout : decl.HasLayout) {b : EnumBlock}
  (hvariants : b.variants = decl.values.map fun v => (Identifier.camel v.name,v.number))
  (hname : ' ' ∉ b.name.toList) {first : String} (hfirst : ' ' ∉ first.toList)
include hvariants hname hfirst

include hlayout

end Undoes

end Rendering

section Purse

end Purse

end SchemaCodec
