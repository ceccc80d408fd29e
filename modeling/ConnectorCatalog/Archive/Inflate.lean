import ConnectorCatalog.Text.Hex

/-!
# Compressed data

The DEFLATE format: blocks of symbols in prefix codes, where a symbol is a byte or a reference to
bytes that came before.

* `PrefixCode.ofLengths?` is the code in which symbols have words of the given lengths; words of one
  length follow the order of symbols.
* `inflate` expands data. It says how far it has come: to the end of the data, to a place where they
  make no sense, or to where they are cut off. What was expanded up to there is given in each case.
-/

namespace ConnectorCatalog.Archive

/-- Why data cannot be expanded to their end. -/
inductive InflateFault where
  | cutOff
  | senseless
deriving DecidableEq, Repr

/-- Data that are being expanded. -/
structure Inflater where
  /-- The bytes that are not yet looked at. -/
  rest : Bytes
  /-- The bits of the last byte that are not yet read, as a number. -/
  held : Nat
  heldCount : Nat
  output : Array UInt8

/-- A part of the work on data, which may come upon a fault. -/
abbrev Inflation (α : Type) := ExceptT InflateFault (StateM Inflater) α

namespace Inflation

/-- The next bit. -/
def bit : Inflation Nat := do
  let d ← get
  match d.heldCount, d.rest with
  | n + 1, _ =>
    set { d with held := d.held / 2, heldCount := n }
    return d.held % 2
  | 0, b :: rest =>
    set { d with rest, held := b.toNat / 2, heldCount := 7 }
    return b.toNat % 2
  | 0, [] => throw .cutOff

/-- The next bits as a number, the least significant first. -/
def bits : Nat → Inflation Nat
  | 0 => return 0
  | n + 1 => do
    let low ← bit
    return low + 2 * (← bits n)

/-- Drops the bits up to the next byte. -/
def align : Inflation Unit := modify fun d => { d with held := 0, heldCount := 0 }

/-- The next byte behind all bits. -/
def byte : Inflation UInt8 := do
  match (← get).rest with
  | b :: rest =>
    modify fun d => { d with rest }
    return b
  | [] => throw .cutOff

/-- Writes a byte. -/
def emit (b : UInt8) : Inflation Unit := modify fun d => { d with output := d.output.push b }

end Inflation

open Inflation

/-! ### Prefix codes -/

/-- A code of words in bits: how many words of each length there are, beginning with length one, and
the symbols in the order of their words. -/
structure PrefixCode where
  counts : List Nat
  symbols : Array Nat
deriving Repr

namespace PrefixCode

/-- The greatest length of a word. -/
def maxLength : Nat := 15

/-- The words that are still free behind those of each length, or none if there are too many. -/
def free? : Nat → List Nat → Option Nat
  | left, [] => some left
  | left, count :: more => if 2 * left < count then none else free? (2 * left - count) more

/-- The code in which each symbol has a word of the given length, zero for symbols without word.
No two words may clash. Words may be left over only in a code of at most one word. -/
def ofLengths? (lengths : List Nat) : Option PrefixCode :=
  let counts := (List.range maxLength).map fun i => lengths.count (i + 1)
  let symbols := (List.range maxLength).flatMap fun i =>
    (lengths.zipIdx.filter fun l => l.1 = i + 1).map (·.2)
  match free? 1 counts with
  | none => none
  | some left =>
    if left = 0 ∨ symbols.length ≤ 1 then some ⟨counts, symbols.toArray⟩ else none

/-- Reads a word bit by bit. `word` is what has been read, `first` the first word of the next length
and `index` the number of shorter words. -/
def readFrom (symbols : Array Nat) : List Nat → Nat → Nat → Nat → Inflation Nat
  | [], _, _, _ => throw .senseless
  | count :: more, word, first, index => do
    let word := 2 * word + (← bit)
    if word < first + count then
      match symbols[index + (word - first)]? with
      | some symbol => return symbol
      | none => throw .senseless
    else readFrom symbols more word (2 * (first + count)) (index + count)

/-- The symbol of the next word. -/
def read (code : PrefixCode) : Inflation Nat := readFrom code.symbols code.counts 0 0 0

end PrefixCode

/-! ### Blocks -/

/-- The shortest length that a length symbol stands for, and the number of bits that add to it. -/
def lengthBases : List (Nat × Nat) :=
  [(3, 0), (4, 0), (5, 0), (6, 0), (7, 0), (8, 0), (9, 0), (10, 0), (11, 1), (13, 1), (15, 1),
    (17, 1), (19, 2), (23, 2), (27, 2), (31, 2), (35, 3), (43, 3), (51, 3), (59, 3), (67, 4),
    (83, 4), (99, 4), (115, 4), (131, 5), (163, 5), (195, 5), (227, 5), (258, 0)]

/-- The shortest distance that a distance symbol stands for, and the number of bits that add to
it. -/
def distanceBases : List (Nat × Nat) :=
  [(1, 0), (2, 0), (3, 0), (4, 0), (5, 1), (7, 1), (9, 2), (13, 2), (17, 3), (25, 3), (33, 4),
    (49, 4), (65, 5), (97, 5), (129, 6), (193, 6), (257, 7), (385, 7), (513, 8), (769, 8),
    (1025, 9), (1537, 9), (2049, 10), (3073, 10), (4097, 11), (6145, 11), (8193, 12), (12289, 12),
    (16385, 13), (24577, 13)]

/-- The number that a symbol of a list of bases stands for. -/
def readBased (bases : List (Nat × Nat)) (symbol : Nat) : Inflation Nat := do
  match bases[symbol]? with
  | some (base, extra) => return base + (← bits extra)
  | none => throw .senseless

/-- Writes bytes again that came `distance` before. -/
def copyBack (distance : Nat) : Nat → Inflation Unit
  | 0 => return
  | n + 1 => do
    let output := (← get).output
    match output[output.size - distance]? with
    | some b => emit b
    | none => throw .senseless
    copyBack distance n

/-- The symbols of a block up to its end. The number bounds how many there are. -/
def inflateSymbols (literals distances : PrefixCode) : Nat → Inflation Unit
  | 0 => throw .cutOff
  | n + 1 => do
    let symbol ← literals.read
    if symbol < 256 then
      emit (UInt8.ofNat symbol)
      inflateSymbols literals distances n
    else if symbol = 256 then return
    else
      let length ← readBased lengthBases (symbol - 257)
      let distance ← readBased distanceBases (← distances.read)
      if (← get).output.size < distance then throw .senseless
      copyBack distance length
      inflateSymbols literals distances n

/-- Writes bytes as they stand. -/
def inflateStoredBytes : Nat → Inflation Unit
  | 0 => return
  | n + 1 => do
    emit (← byte)
    inflateStoredBytes n

/-- A block of bytes as they stand. -/
def inflateStored : Inflation Unit := do
  align
  let length := (← byte).toNat + 256 * (← byte).toNat
  let check := (← byte).toNat + 256 * (← byte).toNat
  if length + check ≠ 65535 then throw .senseless
  inflateStoredBytes length

/-- The lengths of the words for bytes, lengths and the end in blocks without a code of their
own. -/
def fixedLiteralLengths : List Nat :=
  List.replicate 144 8 ++ List.replicate 112 9 ++ List.replicate 24 7 ++ List.replicate 8 8

/-- The lengths of the words for distances in blocks without a code of their own. -/
def fixedDistanceLengths : List Nat := List.replicate 32 5

/-- The order in which the lengths of the words for lengths are given. -/
def lengthOrder : List Nat := [16, 17, 18, 0, 8, 7, 9, 6, 10, 5, 11, 4, 12, 3, 13, 2, 14, 1, 15]

/-- Lengths of words, in words themselves. Their number is `needed`; the first argument bounds how
many words give them, `lengths` are those read so far, newest first. -/
def readLengths (code : PrefixCode) (needed : Nat) : Nat → List Nat → Inflation (List Nat)
  | 0, _ => throw .senseless
  | n + 1, lengths => do
    if lengths.length = needed then return lengths.reverse
    else if needed < lengths.length then throw .senseless
    else
      let symbol ← code.read
      if symbol < 16 then readLengths code needed n (symbol :: lengths)
      else if symbol = 16 then
        match lengths with
        | [] => throw .senseless
        | last :: _ =>
          let count := 3 + (← bits 2)
          readLengths code needed n (List.replicate count last ++ lengths)
      else
        let (base, extra) := if symbol = 17 then (3, 3) else (11, 7)
        let count := base + (← bits extra)
        readLengths code needed n (List.replicate count 0 ++ lengths)

/-- The code with words of the given lengths. -/
def requireCode (lengths : List Nat) : Inflation PrefixCode :=
  match PrefixCode.ofLengths? lengths with
  | some code => return code
  | none => throw .senseless

/-- The lengths of the words for the lengths of words. -/
def readLengthLengths : List Nat → Inflation (List (Nat × Nat))
  | [] => return []
  | symbol :: rest => do
    let length ← bits 3
    return (symbol, length) :: (← readLengthLengths rest)

/-- The codes of a block that has its own: for bytes, lengths and the end, and for distances. -/
def readCodes : Inflation (PrefixCode × PrefixCode) := do
  let literalCount := 257 + (← bits 5)
  let distanceCount := 1 + (← bits 5)
  let lengthCount := 4 + (← bits 4)
  if 286 < literalCount ∨ 30 < distanceCount then throw .senseless
  let given ← readLengthLengths (lengthOrder.take lengthCount)
  let code ← requireCode ((List.range 19).map fun symbol => (given.lookup symbol).getD 0)
  let needed := literalCount + distanceCount
  let lengths ← readLengths code needed (needed + 1) []
  return (← requireCode (lengths.take literalCount), ← requireCode (lengths.drop literalCount))

/-- One block. The number bounds how many symbols it has. -/
def inflateBlock (bound kind : Nat) : Inflation Unit := do
  if kind = 0 then inflateStored
  else if kind = 1 then
    inflateSymbols (← requireCode fixedLiteralLengths) (← requireCode fixedDistanceLengths) bound
  else if kind = 2 then
    let (literals, distances) ← readCodes
    inflateSymbols literals distances bound
  else throw .senseless

/-- All blocks up to the last. The numbers bound how many symbols a block has, and how many blocks
there are. -/
def inflateBlocks (bound : Nat) : Nat → Inflation Unit
  | 0 => throw .cutOff
  | n + 1 => do
    let last ← bit
    let kind ← bits 2
    inflateBlock bound kind
    if last = 1 then return else inflateBlocks bound n

/-- What has come of expanding data. -/
structure Inflated where
  output : Bytes
  /-- What stands behind the data, or why their end was not reached. -/
  ending : Except InflateFault Bytes

/-- Expands the data at the beginning of bytes. Each symbol and each block takes at least one
bit. -/
def inflate (bytes : Bytes) : Inflated :=
  let bound := 8 * bytes.length + 1
  let (result, state) := (inflateBlocks bound bound).run ⟨bytes, 0, 0, #[]⟩
  ⟨state.output.toList, result.map fun _ => state.rest⟩

end ConnectorCatalog.Archive
