import Mathlib.Data.Rat.Floor
import IrisFirmware.Library.CText

namespace CText

def isDigit (c : Char) : Bool := '0' ≤ c && c ≤ '9'

def decimal (ds : List Char) : Nat := ds.foldl (fun n c => 10 * n + (c.toNat - '0'.toNat)) 0

def signed : List Char → Bool × List Char
  | '-' :: cs => (true, cs)
  | '+' :: cs => (false, cs)
  | cs => (false, cs)

-- a long that strtol has clipped, cut to an int
def atoi (s : List Char) : Int :=
  let (minus, cs) := signed (s.dropWhile isSpace)
  let digits := decimal (cs.takeWhile isDigit)
  let long := if minus then max (-longMax - 1) (-(digits : Int)) else min longMax digits
  Int.bmod long (2 ^ 32)

example : atoi " -42x".toList = -42 := by decide

end CText
