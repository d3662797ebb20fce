import SchemaCodec.Console.Layout
import SchemaCodec.Console.Markup

/-! # Console text

Reports go through a console: their markup is read, and what it says is laid out in lines. The
styles are tried although none of them shows. A text that is cut into lines, or at tabs, loses the
styles that cover nothing.
-/
namespace SchemaCodec.Console
open Text

def shown (markup : String) : Except MarkupFault String := do
  let r ← render markup.toList
  let lines := layout r.text
  let isCut := lines.length ≠ 1 ∨ '\t' ∈ r.text
  (r.allSpans.filter fun span => !isCut ∨ r.covers span).forM Span.check
  return joinStrings "\n" (lines.map String.ofList)

end SchemaCodec.Console
