/-! # Random bytes

The source of the machine's random numbers: bytes that repeat from the beginning once all were
drawn. An empty source yields zeros.
-/

namespace Chip8

structure RandomBytes where
  bytes : Array UInt8 := #[]
  drawn : Nat := 0
deriving DecidableEq, Repr

namespace RandomBytes

/-- The byte that the next draw yields. -/
def next (source : RandomBytes) : UInt8 := source.bytes.getD (source.drawn % source.bytes.size) 0

def advance (source : RandomBytes) : RandomBytes := { source with drawn := source.drawn + 1 }

end RandomBytes

end Chip8
