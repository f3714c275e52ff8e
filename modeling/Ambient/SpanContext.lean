import Ambient.Json.Record
import Ambient.Json.Reader
import Ambient.Text.Hex

namespace Ambient

structure SpanContext where
  traceId : BitVec 128
  spanId : BitVec 64
  isRemote : Bool
deriving DecidableEq

namespace SpanContext

open Json (Tree)

def invalid : SpanContext := ⟨0, 0, false⟩

instance : Inhabited SpanContext := ⟨invalid⟩

def isValid (s : SpanContext) : Bool := s.traceId != 0 && s.spanId != 0

def remote (s : SpanContext) : SpanContext := { s with isRemote := true }

/-- Both ids in hexadecimal at full width, with a hyphen between them. -/
def display (s : SpanContext) : List Char :=
  Text.fixedHex 32 s.traceId.toNat ++ '-' :: Text.fixedHex 16 s.spanId.toNat

def fieldNames : List String := ["trace_id", "span_id", "is_remote"]

def toTree (s : SpanContext) : Tree :=
  .object [("trace_id", .number (Numeral.ofInt s.traceId.toNat)),
    ("span_id", .number (Numeral.ofInt s.spanId.toNat)), ("is_remote", .bool s.isRemote)]

def toText (s : SpanContext) : String := s.toTree.toText

def ofTree? (t : Tree) : Option SpanContext := do
  let [some trace, some span, some remote] ← t.fields? fieldNames | none
  return ⟨⟨← trace.below? (2 ^ 128)⟩, ⟨← span.below? (2 ^ 64)⟩, ← remote.bool?⟩

def ofText? (s : String) : Option SpanContext := (Tree.ofText? s).bind ofTree?

end SpanContext
end Ambient
