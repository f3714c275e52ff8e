import Ambient.Baggage
import Ambient.Carrier
import Ambient.Text.Blank
import Ambient.Text.Percent

namespace Ambient.Header

def fieldName : String := "otcorrelationcontext"

def fieldNames : List String := [fieldName]

/-- The name and value that a piece of the header gives. -/
def readEntry (piece : List Char) : Option (String × String) :=
  (Text.cut '=' piece).map fun (name, value) =>
    (String.ofList (Text.Percent.decode (Text.trim name)),
      String.ofList (Text.Percent.decode (Text.trim value)))

def read (header : List Char) : List (String × String) := (Text.split ',' header).filterMap readEntry

def plain : Json.Value → String
  | .text s => s
  | v => v.toText

def writeEntry (name : String) (v : Json.Value) : List Char :=
  Text.Percent.encode name.toList ++ '=' :: Text.Percent.encode (plain v).toList

def write (b : Correlations) : List Char :=
  Text.join ',' (b.entries.map fun (name, v) => writeEntry name v)

/-- Merges the entries of a header into the correlations of a context. A header that is blank or
holds no entry leaves the context as it is. -/
def extendFrom (header : List Char) (c : Context) : StateM Supply Context :=
  if Text.isBlankText header then return c
  else
    match read header with
    | [] => return c
    | entries =>
      c.withCorrelations (c.correlations.insertAll (entries.map fun (name, s) => (name, .text s)))

def extract (carrier : Carrier) (c : Context) : StateM Supply Context :=
  match carrier.get? fieldName with
  | none => return c
  | some header => extendFrom header.toList c

def extractTimes : (count : Nat) → (carrier : Carrier) → (c : Context) → StateM Supply Context
  | 0, _, c => return c
  | count + 1, carrier, c => do extractTimes count carrier (← extract carrier c)

def inject (carrier : Carrier) (c : Context) : Carrier :=
  if c.correlations.isEmpty then carrier
  else carrier.set fieldName (String.ofList (write c.correlations))

def injectTimes : (count : Nat) → (carrier : Carrier) → (c : Context) → Carrier
  | 0, carrier, _ => carrier
  | count + 1, carrier, c => injectTimes count (inject carrier c) c

end Ambient.Header
