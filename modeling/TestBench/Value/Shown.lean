import TestBench.Number.Decimal
import TestBench.Value.Basic

/-! A value has two texts. `Value.shown` is the text itself for a text and the plain form of
everything else; `Value.quoted` is the form inside lists and messages, in which texts are quoted. -/
namespace TestBench

def commaList (parts : List String) : String :=
  ", ".intercalate parts

namespace Text

def escapeByte (quote : Char) (b : UInt8) : List Char :=
  let c := Char.ofNat b.toNat
  if b < 0x80 then escape quote c else '\\' :: 'x' :: hex 2 b.toNat

def quotedBytes (bs : List UInt8) : String :=
  let quote := quoteFor (bs.map fun b => Char.ofNat b.toNat)
  String.ofList ('b' :: quote :: bs.flatMap (escapeByte quote) ++ [quote])

end Text

namespace Moment

def quotedOffset (seconds : Int) : String :=
  if seconds = 0 then "datetime.timezone.utc"
  else "datetime.timezone(" ++ spanText seconds ++ ")"

/-- The quoted form: the numbers that make the moment, without seconds or microseconds that are
zero at the end. -/
def quoted (m : Moment) : String :=
  let small := if m.microsecond ≠ 0 then [m.second, m.microsecond]
    else if m.second ≠ 0 then [m.second] else []
  let numbers := [m.date.year, m.date.month, m.date.day, m.hour, m.minute] ++ small
  let offset := (m.offset.map fun s => ["tzinfo=" ++ quotedOffset s]).getD []
  "datetime.datetime(" ++ commaList (numbers.map toString ++ offset) ++ ")"

end Moment

namespace Date

def quoted (d : Date) : String :=
  "datetime.date(" ++ commaList ([d.year, d.month, d.day].map toString) ++ ")"

end Date

namespace Outcome

def shown (o : Outcome) : String :=
  "Outcome." ++ o.name

def quoted (o : Outcome) : String :=
  "<Outcome." ++ o.name ++ ": " ++ Text.quoted o.name ++ ">"

end Outcome

namespace Test

def quoted (t : Test) : String :=
  "TestDescription(" ++ commaList
    ["id=" ++ toString t.id, "path=" ++ Text.quoted t.path, "args=" ++ Text.quoted t.args,
      "expected=" ++ t.expected.quoted, "comment=" ++ Text.quoted t.comment,
      "result=" ++ (t.result.map Outcome.quoted).getD "None"] ++ ")"

end Test

namespace Value

def ellipsis : Value → String
  | .mapping _ => "\x7b...\x7d"
  | .set _ => "set(...)"
  | .tuple _ => "(...)"
  | .knot _ v => v.ellipsis
  | _ => "[...]"

mutual

/-- The form of a value inside lists and messages; `around` holds the labels of the knots around it
and what is shown instead of them. -/
def quotedIn (around : List (Nat × String)) : Value → String
  | .null => "None"
  | .bool b => if b then "True" else "False"
  | .int n => toString n
  | .float x => x.text
  | .text s => Text.quoted s
  | .bytes bs => Text.quotedBytes bs
  | .date d => d.quoted
  | .moment m => m.quoted
  | .outcome o => o.quoted
  | .test t => t.quoted
  | .list items => "[" ++ commaList (quotedItems around items) ++ "]"
  | .tuple items =>
    match quotedItems around items with
    | [one] => "(" ++ one ++ ",)"
    | parts => "(" ++ commaList parts ++ ")"
  | .set items =>
    match quotedItems around items with
    | [] => "set()"
    | parts => "\x7b" ++ commaList parts ++ "\x7d"
  | .mapping entries => "\x7b" ++ commaList (quotedEntries around entries) ++ "\x7d"
  | .knot label v =>
    match around.lookup label with
    | some shown => shown
    | none => quotedIn ((label, v.ellipsis) :: around) v
  | .again label => (around.lookup label).getD "..."

def quotedItems (around : List (Nat × String)) : List Value → List String
  | [] => []
  | v :: vs => quotedIn around v :: quotedItems around vs

def quotedEntries (around : List (Nat × String)) : List (Value × Value) → List String
  | [] => []
  | (k, v) :: rest =>
    (quotedIn around k ++ ": " ++ quotedIn around v) :: quotedEntries around rest

end

def quoted (v : Value) : String :=
  v.quotedIn []

def shown : Value → String
  | .text s => s
  | .date d => d.text
  | .moment m => m.text
  | .outcome o => o.shown
  | .test t => t.listing
  | v => v.quoted

/-- The least number that is too long to be shown. -/
def longNumber : Nat := Nat.pow 10 4300

mutual

def hasLongNumber : Value → Bool
  | .int n => longNumber ≤ n.natAbs
  | .test t => longNumber ≤ t.id.natAbs
  | .list items | .tuple items | .set items => haveLongNumber items
  | .mapping entries => entriesHaveLongNumber entries
  | .knot _ v => hasLongNumber v
  | _ => false

def haveLongNumber : List Value → Bool
  | [] => false
  | v :: vs => hasLongNumber v || haveLongNumber vs

def entriesHaveLongNumber : List (Value × Value) → Bool
  | [] => false
  | (k, v) :: rest => hasLongNumber k || hasLongNumber v || entriesHaveLongNumber rest

end

/-- A text that is made of a value, if all numbers of the value can be shown. -/
def ifShown (v : Value) (text : String) : Except Fault String :=
  if v.hasLongNumber then .error .longNumber else .ok text

def toText (v : Value) : Except Fault String :=
  v.ifShown v.shown

def toQuoted (v : Value) : Except Fault String :=
  v.ifShown v.quoted

@[simp] theorem toText_text (s : String) : (Value.text s).toText = .ok s := rfl

theorem ifShown_eq_error_iff {v : Value} {s : String} {f : Fault} :
    v.ifShown s = .error f ↔ f = .longNumber ∧ v.hasLongNumber = true := by
  unfold ifShown
  cases v.hasLongNumber with
  | true => simp [eq_comm]
  | false => simp

theorem toText_eq_error_iff {v : Value} {f : Fault} :
    v.toText = .error f ↔ f = .longNumber ∧ v.hasLongNumber = true :=
  ifShown_eq_error_iff

theorem hasLongNumber_of_toText {v : Value} {s : String} (shown : v.toText = .ok s) :
    v.hasLongNumber = false := by
  rw [← Bool.not_eq_true]
  intro long
  rw [toText_eq_error_iff.mpr ⟨rfl, long⟩] at shown
  cases shown

end Value

end TestBench
