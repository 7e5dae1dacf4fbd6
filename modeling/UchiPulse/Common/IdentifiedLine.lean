import UchiPulse.Common.Cdc
import UchiPulse.Lib.Lines
import UchiPulse.Lib.Members

/-! Lines that state their identifier without escapes, whatever else they hold, and the
bytes that answer them. -/
namespace UchiPulse.Common
open Json

/-- A text as it stands in a line that does not escape it. -/
def unescaped (value : String) : List UInt8 := quote :: (Utf8.bytes value ++ [quote])

/-- A plain identifier, in an object that may hold anything else. -/
structure IdentifiedLine where
  object : ObjectText
  id : RequestId
  before : List UInt8
  after : List UInt8
  plain : Plain id.val
  holds : object.Holds "request_id" (unescaped id.val)
  spaceBefore : Space before
  spaceAfter : Space after

def IdentifiedLine.text (self : IdentifiedLine) : List UInt8 := self.before ++ (self.object.bytes ++ self.after)

def IdentifiedLine.bytes (self : IdentifiedLine) : List UInt8 := self.text ++ [lineFeed]

/-- A single line, the response under this identifier. -/
def Answers {D : Type} (write : CdcResponse D → List UInt8) (id : RequestId) (bytes : List UInt8) : Prop :=
  ∃ response, bytes = write response ++ [lineFeed] ∧ OneLine (write response) ∧ response.requestId = id

end UchiPulse.Common
