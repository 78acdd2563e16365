import TestBench.Calendar
import TestBench.FileTree.Error

/-! The errors that the program does not announce in words of its own: values of the wrong kind,
files that cannot be opened or decoded, and what scripts raise. A fault has a text and a kind; both
are shown when a script fails with it. -/
namespace TestBench

inductive Fault where
  | file (e : FileError)
  | notUtf8
  | nullCharacter
  | recordedTwice (id : Int)
  | calendar (c : CalendarFault)
  | noAttribute (type name : String)
  | notIterable (type : String)
  | unhashable (type : String)
  | notNumeric (type : String)
  /-- A text, shown quoted, writes no integer in the base given. -/
  | notInteger (base : Nat) (shown : String)
  | tooManyDigits (count : Nat)
  | longNumber
  | notDecimal (shown : String)
  | notANumber
  | infiniteNumber
  | pairExpected (index : Nat)
  | pairLength (index length : Nat)
  | textExpected (index : Nat) (type : String)
  | unordered (left right : String)
  | notAddable (left right : String)
  | argumentRepeated (function argument : String)
  | unknownName (name : String)
  /-- A key is missing; it is shown quoted. -/
  | missingKey (shown : String)
  | indexOutOfRange
  | noCharacter
  | hugeNumber
  | beyondFloat
  | notText (type : String)
  | invalidYaml
  | invalidUtf8
  | valueCount (expected got : Nat)
  /-- What a script raised, if it has a text with that text. -/
  | raised (kind : String) (text : Option String)
  deriving DecidableEq, Repr

namespace FileErrorKind

def faultKind : FileErrorKind → String
  | .noEntry => "FileNotFoundError"
  | .notDirectory => "NotADirectoryError"
  | .isDirectory => "IsADirectoryError"
  | .nameTooLong | .linkLoop => "OSError"

end FileErrorKind

namespace Fault

def kind : Fault → String
  | .file e => e.kind.faultKind
  | .notUtf8 => "UnicodeDecodeError"
  | .noAttribute .. => "AttributeError"
  | .notIterable _ | .unhashable _ | .notNumeric _ | .pairExpected _ | .textExpected ..
  | .unordered .. | .notAddable .. | .argumentRepeated .. | .notText _ => "TypeError"
  | .infiniteNumber | .hugeNumber | .beyondFloat => "OverflowError"
  | .unknownName _ => "NameError"
  | .missingKey _ => "KeyError"
  | .indexOutOfRange => "IndexError"
  | .invalidYaml => "YAMLError"
  | .nullCharacter | .recordedTwice _ | .calendar _ | .notInteger .. | .tooManyDigits _
  | .longNumber | .notDecimal _ | .notANumber | .noCharacter | .pairLength .. | .invalidUtf8
  | .valueCount .. => "ValueError"
  | .raised kind _ => kind

def message : Fault → String
  | .file e => e.message
  | .notUtf8 => ""
  | .nullCharacter => "embedded null byte"
  | .recordedTwice id => "test " ++ toString id ++ " already recorded"
  | .calendar c => c.message
  | .noAttribute type name => "'" ++ type ++ "' object has no attribute '" ++ name ++ "'"
  | .notIterable type => "'" ++ type ++ "' object is not iterable"
  | .unhashable type => "unhashable type: '" ++ type ++ "'"
  | .notNumeric type =>
    "int() argument must be a string, a bytes-like object or a real number, not '" ++ type ++ "'"
  | .notInteger base shown =>
    "invalid literal for int() with base " ++ toString base ++ ": " ++ shown
  | .tooManyDigits count =>
    "Exceeds the limit (4300 digits) for integer string conversion: value has " ++ toString count ++
      " digits; use sys.set_int_max_str_digits() to increase the limit"
  | .longNumber =>
    "Exceeds the limit (4300 digits) for integer string conversion; " ++
      "use sys.set_int_max_str_digits() to increase the limit"
  | .notDecimal shown => "could not convert string to float: " ++ shown
  | .notANumber => "cannot convert float NaN to integer"
  | .infiniteNumber => "cannot convert float infinity to integer"
  | .pairExpected index =>
    "cannot convert dictionary update sequence element #" ++ toString index ++ " to a sequence"
  | .pairLength index length =>
    "dictionary update sequence element #" ++ toString index ++ " has length " ++ toString length ++
      "; 2 is required"
  | .textExpected index type =>
    "sequence item " ++ toString index ++ ": expected str instance, " ++ type ++ " found"
  | .unordered left right =>
    "'<' not supported between instances of '" ++ left ++ "' and '" ++ right ++ "'"
  | .notAddable left right =>
    if left = "str" then "can only concatenate str (not \"" ++ right ++ "\") to str"
    else if left = "list" then "can only concatenate list (not \"" ++ right ++ "\") to list"
    else "unsupported operand type(s) for +: '" ++ left ++ "' and '" ++ right ++ "'"
  | .argumentRepeated function argument =>
    function ++ "() got multiple values for argument '" ++ argument ++ "'"
  | .unknownName name => "name '" ++ name ++ "' is not defined"
  | .missingKey shown => shown
  | .indexOutOfRange => "string index out of range"
  | .noCharacter => "chr() arg not in range(0x110000)"
  | .hugeNumber => "Python int too large to convert to C int"
  | .beyondFloat => "int too large to convert to float"
  | .notText type => "expected string or bytes-like object, got '" ++ type ++ "'"
  | .invalidYaml => "invalid YAML"
  | .invalidUtf8 => "invalid UTF-8"
  | .valueCount expected got =>
    "not enough values to unpack (expected " ++ toString expected ++ ", got " ++ toString got ++ ")"
  | .raised _ text => text.getD ""

def isSystem : Fault → Bool
  | .file _ => true
  | _ => false

end Fault

end TestBench
