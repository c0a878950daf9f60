import AgentGateway.Text.CodePoint
import AgentGateway.Value

/-! Values of unknown shape as they go out.

Numbers beyond the finite ones have no form in a document and go out as null. A value
may be nested only so deep, and the keys inside it have to be encodable. Where a key is
known to be a text, signs of replacement stand for what has no encoding. -/
namespace AgentGateway

/-- Why a value of unknown shape cannot go out. -/
inductive WireFault where
  | tooDeep
  | unencodable (f : Text.EncodingFault)
deriving DecidableEq, Repr

namespace Value

mutual
/-- A value with null in the place of every number that is not finite. -/
def onWire : Value → Value
  | .float d => if d.isFinite then .float d else .null
  | .list xs => .list (onWireList xs)
  | .object fs => .object (onWireFields fs)
  | v => v
def onWireList : List Value → List Value
  | [] => []
  | x :: xs => onWire x :: onWireList xs
def onWireFields : List (String × Value) → List (String × Value)
  | [] => []
  | (k, v) :: rest => (k, onWire v) :: onWireFields rest
end

/-- An object under keys that are texts. -/
def underTexts (fs : Fields) : Value :=
  ofPairs (fs.map fun e => (Text.replacedText e.1, e.2))

/-! ### What cannot go out -/

/-- How many values may stand inside each other. -/
def depthLimit : Nat := 255

mutual
/-- The first fault of a value, where so many may still stand inside each other. -/
def faultWithin (room : Nat) : Value → Option WireFault
  | .list xs => if room = 0 then some .tooDeep else faultInList (room - 1) xs
  | .object fs => if room = 0 then some .tooDeep else faultInFields (room - 1) fs
  | _ => if room = 0 then some .tooDeep else none
def faultInList (room : Nat) : List Value → Option WireFault
  | [] => none
  | x :: xs => (faultWithin room x).or (faultInList room xs)
def faultInFields (room : Nat) : List (String × Value) → Option WireFault
  | [] => none
  | (k, v) :: rest =>
    ((Text.encodingFault? k.toList).map WireFault.unencodable).or
      ((faultWithin room v).or (faultInFields room rest))
end

def wireFault? (v : Value) : Option WireFault := faultWithin depthLimit v

end Value
end AgentGateway
