import TestBench.Text.Numeral
import TestBench.Value.Shown

/-! Values as integers. -/
namespace TestBench

/-- The integer that a text writes in base ten; `shown` is the text as a message shows it. -/
def readInteger (cs : List Char) (shown : String) : Except Fault Int :=
  match Text.integer? 10 cs with
  | some n =>
    if Text.digitLimit < Text.digitCount cs then .error (.tooManyDigits (Text.digitCount cs))
    else .ok n
  | none => .error (.notInteger 10 shown)

namespace Value

/-- The integer that a value stands for: a number loses its fraction, a text is read. -/
def toInteger : Value → Except Fault Int
  | .bool b => .ok (if b then 1 else 0)
  | .int n => .ok n
  | .float .nan => .error .notANumber
  | .float (.infinite _) => .error .infiniteNumber
  | .float x => .ok ((x.truncate?).getD 0)
  | .text s => readInteger s.toList (Text.quoted s)
  | .bytes bs =>
    let ascii (b : UInt8) : Char := if b < 0x80 then Char.ofNat b.toNat else '\ufffd'
    readInteger (bs.map ascii) (Text.quotedBytes bs)
  | v => .error (.notNumeric v.typeName)

end Value

end TestBench
