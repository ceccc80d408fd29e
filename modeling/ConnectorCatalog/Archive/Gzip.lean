import ConnectorCatalog.Archive.Inflate
import ConnectorCatalog.Digest.Crc32

/-!
# Compressed files

A compressed file is a header, compressed data, and the check and the length of what they expand
to.

* `Gzip.expand` gives what a file expands to, as far as it can be told, and whether the file is
  whole.
* `Gzip.store` makes a file that holds bytes as they stand.
-/

namespace ConnectorCatalog.Archive.Gzip

/-- A number of `count` bytes, the least significant first. -/
def littleEndian : Nat → Nat → Bytes
  | 0, _ => []
  | count + 1, n => UInt8.ofNat (n % 256) :: littleEndian count (n / 256)

/-- The number that bytes stand for, the least significant first. -/
def ofLittleEndian : Bytes → Nat
  | [] => 0
  | b :: rest => b.toNat + 256 * ofLittleEndian rest

/-- The bytes behind the first one that is zero. -/
def skipText? : Bytes → Option Bytes
  | [] => none
  | b :: rest => if b = 0 then some rest else skipText? rest

/-- The bytes behind the first `count`. -/
def skip? (count : Nat) (bytes : Bytes) : Option Bytes :=
  if count ≤ bytes.length then some (bytes.drop count) else none

/-- The bytes behind a field that has its length in front. -/
def skipField? (bytes : Bytes) : Option Bytes := do
  let rest ← skip? 2 bytes
  skip? (ofLittleEndian (bytes.take 2)) rest

/-- The bytes behind a part that is only there if a bit of `flags` is set. -/
def skipIf? (flags : Nat) (bit : Nat) (skip : Bytes → Option Bytes) (bytes : Bytes) :
    Option Bytes :=
  if flags.testBit bit then skip bytes else some bytes

/-- The bytes behind the header of a file. -/
def skipHeader? : Bytes → Option Bytes
  | 0x1f :: 0x8b :: 8 :: flags :: rest => do
    let flags := flags.toNat
    if 32 ≤ flags then none
    let rest ← skip? 6 rest
    let rest ← skipIf? flags 2 skipField? rest
    let rest ← skipIf? flags 3 skipText? rest
    let rest ← skipIf? flags 4 skipText? rest
    skipIf? flags 1 (skip? 2) rest
  | _ => none

/-- What a file expands to. -/
structure Content where
  bytes : Bytes
  /-- Whether nothing is missing, and the check and the length are right. -/
  isWhole : Bool
deriving DecidableEq, Repr

/-- Whether bytes begin with the check and the length of what came before them. -/
def isChecked (output trailer : Bytes) : Bool :=
  8 ≤ trailer.length &&
    ofLittleEndian (trailer.take 4) == (Crc32.digest output).toNat &&
    ofLittleEndian ((trailer.drop 4).take 4) == output.length % (1 <<< 32)

/-- What a file expands to. Of data that make no sense nothing is given. -/
def expand (file : Bytes) : Content :=
  match skipHeader? file with
  | none => ⟨[], false⟩
  | some data =>
    match inflate data with
    | ⟨output, .ok trailer⟩ => ⟨output, isChecked output trailer⟩
    | ⟨output, .error .cutOff⟩ => ⟨output, false⟩
    | ⟨_, .error .senseless⟩ => ⟨[], false⟩

/-! ### Making files -/

/-- The greatest number of bytes in one block. -/
def blockSize : Nat := 65535

/-- Bytes as blocks that hold them as they stand. The number bounds how many blocks there are. -/
def blocks : Nat → Bytes → Bytes
  | 0, _ => []
  | n + 1, bytes =>
    let block := bytes.take blockSize
    let rest := bytes.drop blockSize
    let last := if rest = [] ∨ n = 0 then 1 else 0
    last :: littleEndian 2 block.length ++ littleEndian 2 (blockSize - block.length) ++ block ++
      if rest = [] then [] else blocks n rest

/-- A file that holds bytes as they stand. -/
def store (bytes : Bytes) : Bytes :=
  [0x1f, 0x8b, 8, 0, 0, 0, 0, 0, 0, 255] ++ blocks (bytes.length / blockSize + 1) bytes ++
    littleEndian 4 (Crc32.digest bytes).toNat ++ littleEndian 4 bytes.length

end ConnectorCatalog.Archive.Gzip
