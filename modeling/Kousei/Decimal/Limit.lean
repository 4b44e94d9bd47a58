/-! # Long integers

    Integers are read and written in decimal digits up to a number of them,
    which keeps the work for one that a stranger has written small. -/

namespace Kousei.Decimal

/-- The most digits that an integer may have. -/
def maxDigits : Nat := 4300

/-- What is said of an integer that is too long to be written. -/
def tooLongToWrite : String :=
  s!"Exceeds the limit ({maxDigits} digits) for integer string conversion; " ++
    "use sys.set_int_max_str_digits() to increase the limit"

/-- What is said of one that is too long to be read. -/
def tooLongToRead (digits : Nat) : String :=
  s!"Exceeds the limit ({maxDigits} digits) for integer string conversion: " ++
    s!"value has {digits} digits; use sys.set_int_max_str_digits() to increase the limit"

end Kousei.Decimal
