import Mathlib.Tactic.Common

/-!
# A directory of thermal zones

What `/sys/class/thermal`, or a directory standing in for it, offers to a
reader: names, each with the files `type` and `temp`.  Names and paths are lists
of characters, each standing for the byte of its code.
-/

set_option autoImplicit false

namespace Msp.ThermalTree

/-- A file that is not there, one that cannot be opened or read, or its bytes. -/
inductive File where
  | missing
  | unreadable
  | contents (bytes : List UInt8)
  deriving DecidableEq, Repr

structure Entry where
  name : List Char
  typeFile : File
  tempFile : File
  deriving DecidableEq, Repr

def charsOf (bytes : List UInt8) : List Char := bytes.map fun byte => Char.ofNat byte.toNat

inductive Aggregate where
  | max
  | mean
  deriving DecidableEq, Repr

def thermalZone : List Char := ['t', 'h', 'e', 'r', 'm', 'a', 'l', '_', 'z', 'o', 'n', 'e']

def unknown : List Char := ['u', 'n', 'k', 'n', 'o', 'w', 'n']

end Msp.ThermalTree
