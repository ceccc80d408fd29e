import ConnectorCatalog.Text.Hex

/-!
# Cyclic redundancy checks

`Crc32.digest` is the remainder of a message, read as a polynomial over two elements, by which
compressed files are checked.
-/

namespace ConnectorCatalog.Crc32

/-- One step of the division. -/
def step (r : UInt32) : UInt32 :=
  if r &&& 1 = 1 then (r >>> 1) ^^^ 0xEDB88320 else r >>> 1

/-- The remainder behind one more byte. -/
def absorb (r : UInt32) (b : UInt8) : UInt32 :=
  step (step (step (step (step (step (step (step (r ^^^ b.toUInt32))))))))

/-- The check of a message. -/
def digest (message : Bytes) : UInt32 := message.foldl absorb 0xFFFFFFFF ^^^ 0xFFFFFFFF

end ConnectorCatalog.Crc32
