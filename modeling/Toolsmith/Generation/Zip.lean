import Toolsmith.Files

/-!
# Zip archives

The bytes of an archive in the zip format. Entries are stored as they are, with the time at which
the format's calendar begins.

## Main definitions

* `Generation.Zip.checksum`: the checksum of a file.
* `Generation.Zip.bytes`: the bytes of an archive.
-/

namespace Toolsmith.Generation.Zip

open Files (Packed)

/-- A number in a count of bytes, the lowest first. -/
def littleEndian : Nat → Nat → List UInt8
  | 0, _ => []
  | count + 1, n => UInt8.ofNat (n % 256) :: littleEndian count (n / 256)

/-- A number of 16 bits. -/
def short (n : Nat) : List UInt8 :=
  littleEndian 2 n

/-- A number of 32 bits. -/
def long (n : Nat) : List UInt8 :=
  littleEndian 4 n

/-! ### Checksums -/

/-- The remainder after a number of bits, by the reversed polynomial of the format. -/
def divideBits : Nat → UInt32 → UInt32
  | 0, r => r
  | bits + 1, r =>
    divideBits bits (if r &&& 1 = 1 then (r >>> 1) ^^^ 0xEDB88320 else r >>> 1)

/-- The remainder after a byte more. -/
def addByte (r : UInt32) (b : UInt8) : UInt32 :=
  divideBits 8 (r ^^^ b.toUInt32)

/-- The cyclic redundancy check of 32 bits. -/
def checksum (bytes : List UInt8) : Nat :=
  (bytes.foldl addByte 0xFFFFFFFF ^^^ 0xFFFFFFFF).toNat

/-! ### Entries -/

/-- The bytes of a text. -/
def utf8 (s : String) : List UInt8 :=
  s.toUTF8.toList

/-- The permissions of an entry with the kind of file, as a Unix system writes them. -/
def unixMode (e : Packed) : Nat :=
  if e.name.endsWith "/" then 0o40755 else if e.executable then 0o100755 else 0o100644

/-- What both headers of an entry hold: the version needed, a mark that names are in UTF-8, no
compression, the first moment of the calendar, the checksum, both sizes, and the lengths of the
name and of nothing more. -/
def commonFields (e : Packed) : List UInt8 :=
  let data := utf8 e.text
  short 20 ++ short 0x0800 ++ short 0 ++ short 0 ++ short 0x0021 ++ long (checksum data) ++
    long data.length ++ long data.length ++ short (utf8 e.name).length ++ short 0

/-- The header of an entry with its data behind. -/
def localEntry (e : Packed) : List UInt8 :=
  long 0x04034B50 ++ commonFields e ++ utf8 e.name ++ utf8 e.text

/-- The header of an entry in the directory, with the place of its data. -/
def directoryEntry (e : Packed) (offset : Nat) : List UInt8 :=
  long 0x02014B50 ++ short 0x0314 ++ commonFields e ++ short 0 ++ short 0 ++ short 0 ++
    long (unixMode e * 65536) ++ long offset ++ utf8 e.name

/-- The data of entries, and the directory of entries, whose data begins at a place. -/
def sections : List Packed → Nat → List UInt8 × List UInt8
  | [], _ => ([], [])
  | e :: es, offset =>
    let data := localEntry e
    let (rest, directory) := sections es (offset + data.length)
    (data ++ rest, directoryEntry e offset ++ directory)

/-- The end of an archive. -/
def trailer (count directorySize directoryOffset : Nat) : List UInt8 :=
  long 0x06054B50 ++ short 0 ++ short 0 ++ short count ++ short count ++ long directorySize ++
    long directoryOffset ++ short 0

/-- The bytes of an archive. -/
def bytes (entries : List Packed) : List UInt8 :=
  let (data, directory) := sections entries 0
  data ++ directory ++ trailer entries.length directory.length data.length

end Toolsmith.Generation.Zip
