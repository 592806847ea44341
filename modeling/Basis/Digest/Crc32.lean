/-!
# CRC-32

The checksum of zip and PNG: the reflected polynomial `0xEDB88320`, a register
starting at all ones, each byte xored into its low end and shifted out one bit
at a time (the polynomial xored in when the bit shifted out is set), and the
register inverted at the end.
-/

namespace Basis.Crc32

/-- The reflected polynomial. -/
def poly : UInt32 := 0xEDB88320

/-- One shift of the register. -/
def shift (c : UInt32) : UInt32 := if c &&& 1 == 1 then (c >>> 1) ^^^ poly else c >>> 1

/-- The register after one byte. -/
def step (c : UInt32) (b : UInt8) : UInt32 :=
  (List.range 8).foldl (fun c _ => shift c) (c ^^^ b.toUInt32)

/-- The checksum of bytes. -/
def checksum (bytes : List UInt8) : UInt32 := bytes.foldl step 0xFFFFFFFF ^^^ 0xFFFFFFFF

end Basis.Crc32
