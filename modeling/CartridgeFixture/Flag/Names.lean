import CartridgeFixture.Flag.Table

/-!
The names of a value: the declared flags it contains, in order of declaration, and the bits that are then left.
A flag is named if the value contains all its bits and at least one of them is not yet covered by a flag named
before it.
-/
namespace CartridgeFixture.Flags
variable {t : FlagTable}

/-- Names the flags of `whole` among those given; `rest` are the bits not yet covered. -/
def nameBits (whole : UInt8) : List Flag → UInt8 → List Flag × UInt8
  | [], rest => ([], rest)
  | flag :: flags, rest =>
    if rest = 0 then ([], rest)
    else if whole &&& flag.bits = flag.bits ∧ rest &&& flag.bits ≠ 0 then
      let (names, left) := nameBits whole flags (rest &&& ~~~flag.bits)
      (flag :: names, left)
    else nameBits whole flags rest

/-- The declared flags that make up the value. -/
def names (f : Flags t) : List Flag := (nameBits f.bits t.flags f.bits).1

/-- The bits that no declared flag of the value covers. -/
def remainder (f : Flags t) : UInt8 := (nameBits f.bits t.flags f.bits).2

/-- The bits of each flag of the value, then what remains as one group if it is not empty. -/
def groups (f : Flags t) : List UInt8 :=
  f.names.map Flag.bits ++ if f.remainder = 0 then [] else [f.remainder]

end CartridgeFixture.Flags
