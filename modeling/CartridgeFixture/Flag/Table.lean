/-!
# Flag values

A flag table names some of the bits of a byte, one or several at a time. A **value** over a table is any byte:
bits that no flag of the table declares may be set as well, and it depends on the operation whether they
survive. Those that build a value from a byte say so in their names (`retain`, `truncate`, `ofBits?`); of the
others only `complement` drops undeclared bits.
-/
namespace CartridgeFixture

/-- A named group of bits. -/
structure Flag where
  name : String
  bits : UInt8
  deriving DecidableEq, Repr

/-- The flags that a kind of byte declares, in the order of their declaration. -/
structure FlagTable where
  /-- Name of the kind of byte, as its values are shown. -/
  kind : String
  flags : List Flag

/-- All declared bits together. -/
def FlagTable.mask (t : FlagTable) : UInt8 :=
  (t.flags.map Flag.bits).foldr (· ||| ·) 0

/-- A byte read as flags of the table `t`. -/
structure Flags (t : FlagTable) where
  bits : UInt8
  deriving DecidableEq, Repr

namespace Flags
variable {t : FlagTable}

/-! ## Values from bytes and names -/

/-- No flag at all. -/
def empty : Flags t := ⟨0⟩

/-- Every declared bit. -/
def all : Flags t := ⟨t.mask⟩

/-- The byte as it is, undeclared bits included. -/
def retain (bits : UInt8) : Flags t := ⟨bits⟩

/-- The declared bits of a byte. -/
def truncate (bits : UInt8) : Flags t := ⟨bits &&& t.mask⟩

/-- The byte, unless it has undeclared bits. -/
def ofBits? (bits : UInt8) : Option (Flags t) :=
  if bits &&& t.mask = bits then some ⟨bits⟩ else none

/-- The flag of the given name, spelt exactly. -/
def ofName? (name : String) : Option (Flags t) :=
  (t.flags.find? (·.name == name)).map fun flag => ⟨flag.bits⟩

/-! ## Algebra -/

/-- The bits of either value. -/
def union (f g : Flags t) : Flags t := ⟨f.bits ||| g.bits⟩

/-- The bits of both values. -/
def inter (f g : Flags t) : Flags t := ⟨f.bits &&& g.bits⟩

/-- The bits of the first value that the second lacks. -/
def diff (f g : Flags t) : Flags t := ⟨f.bits &&& ~~~g.bits⟩

/-- The bits of exactly one of the values. -/
def symmDiff (f g : Flags t) : Flags t := ⟨f.bits ^^^ g.bits⟩

/-- The declared bits that the value lacks. -/
def complement (f : Flags t) : Flags t := truncate (~~~f.bits)

/-- Sets or clears the bits of `g`. -/
def set (f g : Flags t) (on : Bool) : Flags t := if on then f.union g else f.diff g

/-- The bits of any of the values. -/
def unions (values : List (Flags t)) : Flags t := values.foldl union empty

/-! ## Questions -/

/-- Whether all bits of `g` are set in `f`. -/
def contains (f g : Flags t) : Bool := f.bits &&& g.bits == g.bits

/-- Whether some bit is set in both. -/
def intersects (f g : Flags t) : Bool := f.bits &&& g.bits != 0

/-- Whether no bit is set. -/
def isEmpty (f : Flags t) : Bool := f.bits == 0

/-- Whether every declared bit is set; others may be too. -/
def isAll (f : Flags t) : Bool := t.mask ||| f.bits == f.bits

/-- Whether a bit is set that no flag declares. -/
def hasUndeclared (f : Flags t) : Bool := f.bits &&& ~~~t.mask != 0

end Flags

end CartridgeFixture
