import SqlSelect.Number.Decimal
import SqlSelect.Number.Shortest
import SqlSelect.Text.Quoted
import SqlSelect.Value.Calendar
import SqlSelect.Value.Uuid

/-!
Scalar values: what a statement compares with and what a result cell holds. Each conversion says
which kinds of value it takes and is total.
-/

set_option autoImplicit false
set_option relaxedAutoImplicit false

namespace SqlSelect

/-- A scalar, with the width of a number kept. -/
inductive Value where
  | null
  | text (content : Text)
  | bool (content : Bool)
  | single (content : Floating)
  | double (content : Floating)
  | int8 (content : Int8)
  | int16 (content : Int16)
  | int32 (content : Int32)
  | int64 (content : Int64)
  | uint8 (content : UInt8)
  | uint16 (content : UInt16)
  | uint32 (content : UInt32)
  | uint64 (content : UInt64)
deriving DecidableEq

namespace Value

def ofDate (date : Date) : Value := .text date.text

def ofDateTime (time : DateTime) : Value := .text time.text

/-- A time `offset` seconds ahead is carried as the text of the same instant at offset zero. -/
def ofLocalTime (time : DateTime) (offset : Int) : Value := .text (time.toUtc offset).text

def ofUuid (uuid : Uuid) : Value := .text uuid.text

def isNull : Value → Bool
  | .null => true
  | _ => false

def text? : Value → Option Text
  | .text content => some content
  | _ => none

/-- The number of an integer or of a truth value, if it fits 64 bits with sign. -/
def int64? : Value → Option Int64
  | .int8 n => some n.toInt64
  | .int16 n => some n.toInt64
  | .int32 n => some n.toInt64
  | .int64 n => some n
  | .uint8 n => some (Int64.ofNat n.toNat)
  | .uint16 n => some (Int64.ofNat n.toNat)
  | .uint32 n => some (Int64.ofNat n.toNat)
  | .uint64 n => if n.toNat ≤ Int64.maxValue.toNatClampNeg then some (Int64.ofNat n.toNat) else none
  | .bool content => some (if content then 1 else 0)
  | _ => none

def int32? (value : Value) : Option Int32 :=
  value.int64?.bind fun n =>
    if Int32.minValue.toInt ≤ n.toInt ∧ n.toInt ≤ Int32.maxValue.toInt then
      some (Int32.ofInt n.toInt)
    else none

/-- A number as a 64 bit floating point number: exactly if it is one already, else rounded. -/
def double? : Value → Option Floating
  | .single x => some x
  | .double x => some x
  | value => value.int64?.map fun n => FloatFormat.double.ofInt n.toInt

/-- A truth value, or whether an integer differs from zero. -/
def bool? : Value → Option Bool
  | .bool content => some content
  | value => value.int64?.map (· != 0)

/-- The text of a value and whether it has to be quoted. A truth value is `1` or `0`, and a null
has no text. -/
def plain? : Value → Option (Text × Bool)
  | .null => none
  | .text content => some (content, true)
  | .bool content => some ([if content then '1' else '0'], false)
  | .single x => some (FloatFormat.single.text x, false)
  | .double x => some (FloatFormat.double.text x, false)
  | .int8 n => some (Text.ofInt n.toInt, false)
  | .int16 n => some (Text.ofInt n.toInt, false)
  | .int32 n => some (Text.ofInt n.toInt, false)
  | .int64 n => some (Text.ofInt n.toInt, false)
  | .uint8 n => some (Text.ofNat n.toNat, false)
  | .uint16 n => some (Text.ofNat n.toNat, false)
  | .uint32 n => some (Text.ofNat n.toNat, false)
  | .uint64 n => some (Text.ofNat n.toNat, false)

def sql (value : Value) : Text :=
  match value.plain? with
  | none => "NULL".toList
  | some (content, true) => Text.quoted content
  | some (content, false) => content

end Value

end SqlSelect
