import ManifestLint.Calendar.Moment
import ManifestLint.Text.Quoted

/-!
# Faults of YAML texts

Most texts that are no document are malformed, and nothing more is said.  Some faults show only when
a value is made of a scalar; these have wordings of their own.
-/

namespace ManifestLint.Yaml

/-- Why a text is no document. -/
inductive Fault where
  | malformed
  /-- An escape by code is beyond the last character. -/
  | noCharacter
  /-- An escape by code is beyond all code points that could be asked for. -/
  | codeOverflow
  /-- A text is no whole number in a base. -/
  | notWhole (base : Nat) (text : String)
  /-- A whole number has more digits than are read. -/
  | tooManyDigits (found : Nat)
  /-- A whole number is larger than every double. -/
  | tooLarge
  /-- A text is no double. -/
  | notDouble (text : String)
  /-- A text is no boolean. -/
  | notBoolean (text : String)
  /-- A number has no characters. -/
  | emptyNumber
  /-- A text is no moment. -/
  | notMoment
  /-- There is no such date or moment. -/
  | calendar (error : CalendarError)
  deriving DecidableEq, Repr

/-- The greatest number of decimal digits that are read as a whole number, and that are written of
one. -/
def mostDigits : Nat := 4300

/-- The wording of a fault. -/
def Fault.message : Fault → String
  | malformed => "malformed"
  | noCharacter => "chr() arg not in range(0x110000)"
  | codeOverflow => "Python int too large to convert to C int"
  | notWhole base text =>
    let shown := String.ofList ((Text.quotedChars text.toList).take 200)
    s!"invalid literal for int() with base {base}: {shown}"
  | tooManyDigits found =>
    s!"Exceeds the limit ({mostDigits} digits) for integer string conversion: "
      ++ s!"value has {found} digits; use sys.set_int_max_str_digits() to increase the limit"
  | tooLarge => "int too large to convert to float"
  | notDouble text => s!"could not convert string to float: {Text.quoted text}"
  | notBoolean text => Text.quoted text
  | emptyNumber => "string index out of range"
  | notMoment => "'NoneType' object has no attribute 'groupdict'"
  | calendar error => error.message

end ManifestLint.Yaml
