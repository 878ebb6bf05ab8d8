import ImplicitScene.Image.Basic

/-!
# PNG files

A PNG file is a signature and three chunks: the size, the pixels and the end.
Each chunk ends with a checksum.  The pixels are wrapped in a zlib stream whose
blocks are stored without compression.
-/

namespace ImplicitScene.Png

/-- A number below `2^32` as four bytes, the highest first. -/
def word (n : Nat) : List UInt8 :=
  [(n / 0x1000000).toUInt8, (n / 0x10000).toUInt8, (n / 0x100).toUInt8, n.toUInt8]

/-! ## Checksums -/

/-- One bit of the cyclic checksum. -/
def crcBit (c : UInt32) : UInt32 :=
  if c &&& 1 = 1 then (c >>> 1) ^^^ 0xEDB88320 else c >>> 1

/-- One byte of the cyclic checksum. -/
def crcByte (c : UInt32) (byte : UInt8) : UInt32 :=
  Nat.repeat crcBit 8 (c ^^^ byte.toUInt32)

/-- The cyclic checksum of a chunk. -/
def crc (bytes : List UInt8) : UInt32 := bytes.foldl crcByte 0xFFFFFFFF ^^^ 0xFFFFFFFF

/-- The two sums of the checksum of a stream. -/
def adlerSums (bytes : List UInt8) : Nat × Nat :=
  bytes.foldl (fun (a, b) byte =>
    let a := (a + byte.toNat) % 65521
    (a, (b + a) % 65521)) (1, 0)

/-- The checksum of a stream. -/
def adler (bytes : List UInt8) : Nat :=
  let (a, b) := adlerSums bytes
  b * 0x10000 + a

/-! ## The stream of pixels -/

/-- The greatest length of a stored block. -/
def blockLength : Nat := 0xFFFF

/-- One stored block. -/
def block (last : Bool) (bytes : List UInt8) : List UInt8 :=
  let length := bytes.length
  let complement := blockLength - length
  [if last then 1 else 0, length.toUInt8, (length / 0x100).toUInt8, complement.toUInt8,
    (complement / 0x100).toUInt8] ++ bytes

/-- At most `count + 1` stored blocks, of which the last holds what is left. -/
def blocks : (count : Nat) → List UInt8 → List UInt8
  | 0, bytes => block true bytes
  | count + 1, bytes =>
      if bytes.length ≤ blockLength then block true bytes
      else block false (bytes.take blockLength) ++ blocks count (bytes.drop blockLength)

/-- A zlib stream. -/
def stream (bytes : List UInt8) : List UInt8 :=
  [0x78, 0x01] ++ blocks (bytes.length / blockLength) bytes ++ word (adler bytes)

/-- The rows of a picture, each after a byte that says it is not filtered. -/
def rows : (count width : Nat) → List Pixel → List UInt8
  | 0, _, _ => []
  | count + 1, width, pixels =>
      (0 :: (pixels.take width).flatMap fun p => [p.red, p.green, p.blue]) ++
        rows count width (pixels.drop width)

/-! ## Files -/

/-- A chunk. -/
def chunk (name : String) (data : List UInt8) : List UInt8 :=
  let body := name.toUTF8.toList ++ data
  word data.length ++ body ++ word (crc body).toNat

/-- A picture as a PNG file. -/
def encode (image : Image) : List UInt8 :=
  [0x89, 0x50, 0x4E, 0x47, 0x0D, 0x0A, 0x1A, 0x0A] ++
    chunk "IHDR" (word image.width ++ word image.height ++ [8, 2, 0, 0, 0]) ++
    chunk "IDAT" (stream (rows image.height image.width image.pixels)) ++ chunk "IEND" []

end ImplicitScene.Png
