import ConnectorCatalog.Archive.Gzip
import ConnectorCatalog.Text.Lossy
import ConnectorCatalog.Text.Segment

/-!
# Bundles of files

A bundle is a sequence of entries, each a header block and the blocks of its content. Names that do
not fit into a header stand in an entry of their own in front of it.

* `Tar.read` gives the entries of a bundle up to its end or to the first one that is broken.
* `Tar.write` makes a bundle of entries.
-/

namespace ConnectorCatalog.Archive

/-- What an entry stands for. -/
inductive EntryKind where
  | file
  | dir
  /-- A reference to the path written in it. -/
  | symlink
  /-- The same file as the one with another path in the bundle. -/
  | hardLink
  /-- A remark about the bundle. -/
  | remark
deriving DecidableEq, Repr

/-- An entry of a bundle. -/
structure TarEntry where
  path : String
  kind : EntryKind
  target : String
  content : Bytes
deriving DecidableEq, Repr

namespace Tar

/-- The size of blocks. -/
def blockSize : Nat := 512

/-- The bytes in front of the first one that is zero. -/
def upToZero (bytes : Bytes) : Bytes := bytes.takeWhile (· != 0)

/-- A part of a block. -/
def field (offset length : Nat) (block : Bytes) : Bytes := (block.drop offset).take length

/-! ### Headers -/

/-- The number that octal digits stand for. -/
def octal? (digits : List Char) : Option Nat :=
  if digits.isEmpty then none
  else digits.foldlM (fun n c => if '0' ≤ c ∧ c ≤ '7' then some (8 * n + (c.toNat - 48)) else none) 0

/-- The number in a field: octal digits between blanks, or bytes behind a set bit. -/
def number? (bytes : Bytes) : Option Nat :=
  match bytes with
  | b :: _ =>
    if 128 ≤ b.toNat then
      some ((bytes.drop (bytes.length - 8)).foldl (fun n b => 256 * n + b.toNat) 0 % (1 <<< 63))
    else
      let isBlank (c : Char) : Bool := c = ' '
      let cs := (upToZero bytes).map fun b => Char.ofNat b.toNat
      octal? ((cs.dropWhile isBlank).reverse.dropWhile isBlank).reverse
  | [] => none

/-- A header, with the check of its bytes already made. -/
structure Header where
  name : Bytes
  target : Bytes
  flag : UInt8
  size : Nat
  /-- Whether the header may split a name in two. -/
  isSplit : Bool
deriving DecidableEq, Repr

/-- The sum of the bytes of a header, its check counted as blanks. -/
def headerSum (block : Bytes) : Nat :=
  let sum (bytes : Bytes) := bytes.foldl (fun n b => n + b.toNat) 0
  sum (block.take 148) + 8 * 32 + sum (block.drop 156)

/-- The header in a block. -/
def header? (block : Bytes) : Option Header := do
  let check ← number? (field 148 8 block)
  if check ≠ headerSum block then none
  let size ← number? (field 124 12 block)
  let isSplit := field 257 8 block = Text.utf8 "ustar\x0000"
  let name := upToZero (field 0 100 block)
  let start := if isSplit then upToZero (field 345 155 block) else []
  return {
    name := if start = [] then name else start ++ Text.utf8 "/" ++ name
    target := upToZero (field 157 100 block)
    flag := (field 156 1 block).headD 0
    size
    isSplit }

/-- What the flag of a header says. -/
def kindOf (flag : UInt8) : EntryKind :=
  if flag = 53 then .dir
  else if flag = 50 then .symlink
  else if flag = 49 then .hardLink
  else if flag = 103 then .remark
  else .file

/-! ### Reading -/

/-- Names that stand in front of the entry that they are for. -/
structure Ahead where
  path : Option Bytes
  target : Option Bytes
  size : Option Nat
deriving DecidableEq, Repr

/-- No names. -/
def Ahead.none : Ahead := ⟨.none, .none, .none⟩

/-- What records of the form `length key=value` say, a record on each line. -/
def ofRecords (content : Bytes) : Ahead :=
  let records := (Text.cut '\n' (Text.ofUtf8Lossy content)).map fun line =>
    let record := (line.toList.dropWhile (· ≠ ' ')).drop 1
    (String.ofList (record.takeWhile (· ≠ '=')),
      String.ofList ((record.dropWhile (· ≠ '=')).drop 1))
  { path := (records.lookup "path").map Text.utf8
    target := (records.lookup "linkpath").map Text.utf8
    size := (records.lookup "size").bind String.toNat? }

/-- What has been read of a bundle. -/
structure Contents where
  entries : List TarEntry
  /-- Whether the end of the bundle was reached. -/
  isWhole : Bool
deriving DecidableEq, Repr

/-- The entry with a header, a content and names in front. -/
def entryOf (header : Header) (ahead : Ahead) (content : Bytes) : TarEntry :=
  let path := Text.ofUtf8Lossy (ahead.path.getD header.name)
  let kind := kindOf header.flag
  { path
    kind := if kind = .file ∧ !header.isSplit ∧ path.toList.getLast? = some '/' then .dir else kind
    target := Text.ofUtf8Lossy (ahead.target.getD header.target)
    content }

/-- The entries in bytes, which may be cut off behind their end. The number bounds how many blocks
there are. -/
def readFrom (isWhole : Bool) : Nat → Ahead → Bytes → Contents
  | 0, _, _ => ⟨[], false⟩
  | n + 1, ahead, bytes =>
    if bytes = [] then ⟨[], isWhole && ahead = .none⟩
    else if bytes.length < blockSize then ⟨[], false⟩
    else if (bytes.take blockSize).all (· == 0) then ⟨[], ahead = .none⟩
    else match header? (bytes.take blockSize) with
      | none => ⟨[], false⟩
      | some header =>
        let size := ahead.size.getD header.size
        let behind := bytes.drop blockSize
        let content := behind.take size
        let next := behind.drop ((size + blockSize - 1) / blockSize * blockSize)
        if header.flag = 76 then
          readFrom isWhole n { ahead with path := some (upToZero content) } next
        else if header.flag = 75 then
          readFrom isWhole n { ahead with target := some (upToZero content) } next
        else if header.flag = 120 then
          let said := ofRecords content
          readFrom isWhole n ⟨ahead.path <|> said.path, ahead.target <|> said.target, said.size⟩ next
        else
          let entry := entryOf header ahead content
          if content.length < size then ⟨[entry], false⟩
          else
            let rest := readFrom isWhole n .none next
            ⟨entry :: rest.entries, rest.isWhole⟩

/-- The entries of a compressed bundle. -/
def read (file : Bytes) : Contents :=
  let content := Gzip.expand file
  readFrom content.isWhole (content.bytes.length / blockSize + 2) .none content.bytes

/-! ### Writing -/

/-- Bytes with zeros up to a length. -/
def padTo (length : Nat) (bytes : Bytes) : Bytes :=
  bytes ++ List.replicate (length - bytes.length) 0

/-- Bytes with zeros up to the end of a block. -/
def padded (bytes : Bytes) : Bytes :=
  padTo ((bytes.length + blockSize - 1) / blockSize * blockSize) bytes

/-- A number in octal digits. -/
def octal (width n : Nat) : Bytes :=
  let digits := Nat.toDigits 8 n
  Text.utf8 (String.ofList (List.replicate (width - digits.length) '0' ++ digits))

/-- A header block. -/
def headerBlock (name target : Bytes) (flag : UInt8) (size : Nat) : Bytes :=
  let start := padTo 100 (name.take 100) ++ padTo 8 (octal 7 0o644) ++ padTo 8 (octal 7 0) ++
    padTo 8 (octal 7 0) ++ padTo 12 (octal 11 size) ++ padTo 12 (octal 11 0)
  let behind := flag :: padTo 100 (target.take 100) ++ Text.utf8 "ustar  \x00"
  let blank := padTo blockSize (start ++ List.replicate 8 32 ++ behind)
  padTo blockSize (start ++ padTo 8 (octal 6 (headerSum blank)) ++ behind)

/-- The entry that stands in front of one whose name does not fit into a header. -/
def longName (flag : UInt8) (name : Bytes) : Bytes :=
  if name.length ≤ 100 then []
  else headerBlock (Text.utf8 "././@LongLink") [] flag (name.length + 1) ++ padded (name ++ [0])

/-- The flag for what an entry stands for. -/
def flagOf : EntryKind → UInt8
  | .file => 48
  | .dir => 53
  | .symlink => 50
  | .hardLink => 49
  | .remark => 103

/-- An entry in blocks. -/
def writeEntry (entry : TarEntry) : Bytes :=
  let path := Text.utf8 entry.path
  let target := Text.utf8 entry.target
  longName 76 path ++ longName 75 target ++
    headerBlock path target (flagOf entry.kind) entry.content.length ++ padded entry.content

/-- A compressed bundle of entries. -/
def write (entries : List TarEntry) : Bytes :=
  Gzip.store (entries.flatMap writeEntry ++ List.replicate (2 * blockSize) 0)

end Tar

end ConnectorCatalog.Archive
