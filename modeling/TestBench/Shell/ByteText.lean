import TestBench.Text.Utf8

/-! The shell knows bytes and no characters. In its texts each character stands for the byte of its
number, so that lengths and patterns count bytes; a text from outside is taken in UTF-8. Main
statement: `toBytes_ofBytes`. -/
namespace TestBench.Shell

def byteOf (c : Char) : UInt8 :=
  UInt8.ofNat c.toNat

def charOf (b : UInt8) : Char :=
  Char.ofNat b.toNat

def toBytes (s : String) : List UInt8 :=
  s.toList.map byteOf

def ofBytes (bytes : List UInt8) : String :=
  String.ofList (bytes.map charOf)

/-- The text of the shell for a text from outside: its bytes in UTF-8. -/
def byteText (s : String) : String :=
  ofBytes (Text.encode s.toList)

theorem toNat_charOf (b : UInt8) : (charOf b).toNat = b.toNat := by
  have small : b.toNat < 256 := b.toNat_lt
  have valid : b.toNat.isValidChar := Or.inl (by omega)
  unfold charOf Char.ofNat
  rw [dif_pos valid]
  rfl

@[simp] theorem byteOf_charOf (b : UInt8) : byteOf (charOf b) = b := by
  simp [byteOf, toNat_charOf]

theorem toBytes_ofBytes (bytes : List UInt8) : toBytes (ofBytes bytes) = bytes := by
  simp [toBytes, ofBytes, Function.comp_def]

end TestBench.Shell
