/-!
# Inflating

A deflated text is a row of blocks.  A block holds bytes as they are, or words of two prefix codes:
literal bytes, and copies of what was written some distance before.  Bits are taken from the low end
of each byte.  A row that ends too early is no error: what it holds up to there counts.

A table of lengths fixes a prefix code: shorter words come first, words of one length in the order
of their symbols, and each word is the next free one.  A length of zero means that a symbol has no
word.

* `PrefixCode.isOversubscribed` and `isComplete` tell whether the lengths leave room,
  `PrefixCode.read` reads the word that a row of bits starts with.
* `inflate` reads blocks, `unwrap` blocks behind a header of two bytes, `gunzip` a file.
-/

namespace ManifestLint.Compression

/-! ## Prefix codes given by lengths -/

/-- A code: the lengths of the words of its symbols. -/
structure PrefixCode where
  lengths : List Nat

/-- What a row of bits starts with. -/
inductive Word where
  /-- The word of a symbol, and the bits behind it. -/
  | symbol (value : Nat) (rest : List Bool)
  /-- No word of the code. -/
  | unknown
  /-- The bits end within a word. -/
  | cut

namespace PrefixCode

/-- The length that no word exceeds. -/
def longest : Nat := 15

/-- How many words have a length. -/
def count (code : PrefixCode) (length : Nat) : Nat :=
  if length = 0 then 0 else code.lengths.count length

/-- The symbols whose words have a length, in order. -/
def symbolsOf (code : PrefixCode) (length : Nat) : List Nat :=
  (code.lengths.zipIdx.filter fun pair => pair.1 = length).map (·.2)

/-- How many words of the greatest length are still free, unless the shorter ones leave none. -/
def room (code : PrefixCode) : Int :=
  (List.range longest).foldl (fun left k =>
    if left < 0 then left else 2 * left - code.count (k + 1)) 1

/-- Whether there is no room for all words. -/
def isOversubscribed (code : PrefixCode) : Bool := code.room < 0

/-- Whether every row of bits starts with a word. -/
def isComplete (code : PrefixCode) : Bool := code.room = 0

/-- Whether there is no word at all. -/
def isEmpty (code : PrefixCode) : Bool := code.lengths.all (· = 0)

/-- Whether no word is longer than one bit. -/
def isShort (code : PrefixCode) : Bool := code.lengths.all (· ≤ 1)

/-- Whether a code of symbols can be used: it is complete, or it has no word longer than one bit. -/
def isUsable (code : PrefixCode) : Bool :=
  code.isEmpty || (!code.isOversubscribed && (code.isComplete || code.isShort))

/-- Reads a word of which `length` bits are read already: `value` is their number and `first` that
of the first word of this length. -/
def readFrom (code : PrefixCode) : (steps length value first : Nat) → List Bool → Word
  | 0, _, _, _, _ => .unknown
  | _ + 1, _, _, _, [] => .cut
  | steps + 1, length, value, first, bit :: rest =>
    let length := length + 1
    let value := 2 * value + bit.toNat
    let first := 2 * first
    let symbols := code.symbolsOf length
    if h : value - first < symbols.length then .symbol symbols[value - first] rest
    else readFrom code steps length value (first + symbols.length) rest

/-- Reads the word that a row of bits starts with.  Without any word, the first bit tells already
that there is none; the same holds for a code with one word of one bit. -/
def read (code : PrefixCode) (bits : List Bool) : Word :=
  readFrom code (if code.isShort then 1 else longest) 0 0 0 bits

end PrefixCode

/-! ## Blocks -/

/-- Why bytes are no deflated text. -/
inductive InflateError where
  | headerCheck
  | method
  | window
  | dictionary
  | blockType
  | storedLengths
  | tooManySymbols
  | codeLengths
  | lengthRepeat
  | noEndOfBlock
  | literalSet
  | distanceSet
  | literalCode
  | distanceCode
  | distance
  | dataCheck
  deriving DecidableEq, Repr

/-- What is wrong. -/
def InflateError.problem : InflateError → String
  | headerCheck => "incorrect header check"
  | method => "unknown compression method"
  | window => "invalid window size"
  | dictionary => "need dictionary"
  | blockType => "invalid block type"
  | storedLengths => "invalid stored block lengths"
  | tooManySymbols => "too many length or distance symbols"
  | codeLengths => "invalid code lengths set"
  | lengthRepeat => "invalid bit length repeat"
  | noEndOfBlock => "invalid code -- missing end-of-block"
  | literalSet => "invalid literal/lengths set"
  | distanceSet => "invalid distances set"
  | literalCode => "invalid literal/length code"
  | distanceCode => "invalid distance code"
  | distance => "invalid distance too far back"
  | dataCheck => "incorrect data check"

/-- The wording of an error. -/
def InflateError.message (error : InflateError) : String :=
  s!"Error -3 while decompressing data: {error.problem}"

/-- What was written, last byte first, and what is left of the bits unless they ended too early. -/
structure Inflating where
  written : List Nat
  rest : Option (List Bool)

/-- The bits of a byte, lowest first. -/
def byteBits (byte : Nat) : List Bool :=
  (List.range 8).map fun k => byte / Nat.pow 2 k % 2 = 1

/-- The number that some bits at the start of a row denote, lowest first, and the bits behind. -/
def takeBits : Nat → List Bool → Option (Nat × List Bool)
  | 0, bits => some (0, bits)
  | _ + 1, [] => none
  | count + 1, bit :: rest =>
    (takeBits count rest).map fun (value, last) => (bit.toNat + 2 * value, last)

/-- The least length of each symbol of a copy, and how many bits are added to it. -/
def lengthSteps : List (Nat × Nat) := [
  (3, 0), (4, 0), (5, 0), (6, 0), (7, 0), (8, 0), (9, 0), (10, 0), (11, 1), (13, 1), (15, 1),
  (17, 1), (19, 2), (23, 2), (27, 2), (31, 2), (35, 3), (43, 3), (51, 3), (59, 3), (67, 4), (83, 4),
  (99, 4), (115, 4), (131, 5), (163, 5), (195, 5), (227, 5), (258, 0)]

/-- The least distance of each symbol, and how many bits are added to it. -/
def distanceSteps : List (Nat × Nat) := [
  (1, 0), (2, 0), (3, 0), (4, 0), (5, 1), (7, 1), (9, 2), (13, 2), (17, 3), (25, 3), (33, 4),
  (49, 4), (65, 5), (97, 5), (129, 6), (193, 6), (257, 7), (385, 7), (513, 8), (769, 8), (1025, 9),
  (1537, 9), (2049, 10), (3073, 10), (4097, 11), (6145, 11), (8193, 12), (12289, 12), (16385, 13),
  (24577, 13)]

/-- The symbol that ends a block; smaller ones are bytes. -/
def endOfBlock : Nat := 256

/-- The codes of a block that brings none. -/
def fixedCodes : PrefixCode × PrefixCode :=
  (⟨List.replicate 144 8 ++ List.replicate 112 9 ++ List.replicate 24 7 ++ List.replicate 8 8⟩,
    ⟨List.replicate 32 5⟩)

/-- Writes a copy of what was written some distance before. -/
def copyBack (distance : Nat) : (length : Nat) → List Nat → List Nat
  | 0, written => written
  | length + 1, written =>
    copyBack distance length ((written[distance - 1]?).getD 0 :: written)

/-- Reads the distance of a copy. -/
def readDistance (code : PrefixCode) (bits : List Bool) :
    Except InflateError (Option (Nat × List Bool)) :=
  match code.read bits with
  | .cut => .ok none
  | .unknown => .error .distanceCode
  | .symbol value rest =>
    match distanceSteps[value]? with
    | none => .error .distanceCode
    | some (base, extra) =>
      .ok ((takeBits extra rest).map fun (more, last) => (base + more, last))

/-- Reads the words of a block. -/
def readWords (literals distances : PrefixCode) :
    (steps : Nat) → (written : List Nat) → List Bool → Except InflateError Inflating
  | 0, written, _ => .ok ⟨written, none⟩
  | steps + 1, written, bits =>
    match literals.read bits with
    | .cut => .ok ⟨written, none⟩
    | .unknown => .error .literalCode
    | .symbol value rest =>
      if value < endOfBlock then readWords literals distances steps (value :: written) rest
      else if value = endOfBlock then .ok ⟨written, some rest⟩
      else
        match lengthSteps[value - endOfBlock - 1]? with
        | none => .error .literalCode
        | some (base, extra) =>
          match takeBits extra rest with
          | none => .ok ⟨written, none⟩
          | some (more, rest) => do
            match ← readDistance distances rest with
            | none => return ⟨written, none⟩
            | some (distance, rest) =>
              if written.length < distance then throw .distance
              else
                let written := copyBack distance (base + more) written
                readWords literals distances steps written rest

/-- Reads the lengths of words, which are themselves words of a code: three of its symbols repeat
the last length or zero. -/
def readLengths (code : PrefixCode) (total : Nat) :
    (steps : Nat) → (lengths : List Nat) → List Bool →
      Except InflateError (Option (List Nat × List Bool))
  | 0, _, _ => .ok none
  | steps + 1, lengths, bits =>
    if total ≤ lengths.length then .ok (some (lengths, bits))
    else
      let word :=
        match code.read bits, bits with
        | .unknown, _ :: rest => Word.symbol 0 rest
        | word, _ => word
      match word with
      | .symbol value rest =>
        if value < 16 then readLengths code total steps (lengths ++ [value]) rest
        else
          let (base, extra) := if value = 16 then (3, 2) else if value = 17 then (3, 3) else (11, 7)
          match takeBits extra rest with
          | none => .ok none
          | some (more, rest) =>
            match if value = 16 then lengths.getLast? else some 0 with
            | none => .error .lengthRepeat
            | some length =>
              let lengths := lengths ++ List.replicate (base + more) length
              if total < lengths.length then .error .lengthRepeat
              else readLengths code total steps lengths rest
      | _ => .ok none

/-- The order in which a block gives the lengths of the code for lengths. -/
def lengthOrder : List Nat := [16, 17, 18, 0, 8, 7, 9, 6, 10, 5, 11, 4, 12, 3, 13, 2, 14, 1, 15]

/-- Some numbers of three bits each. -/
def takeTriples : Nat → List Bool → Option (List Nat × List Bool)
  | 0, bits => some ([], bits)
  | count + 1, bits => do
    let (value, rest) ← takeBits 3 bits
    let (values, last) ← takeTriples count rest
    some (value :: values, last)

/-- Reads the codes that a block brings. -/
def readCodes (bits : List Bool) :
    Except InflateError (Option (PrefixCode × PrefixCode × List Bool)) := do
  match takeBits 14 bits with
  | none => return none
  | some (counts, rest) =>
    let literals := counts % 32 + 257
    let distances := counts / 32 % 32 + 1
    if 286 < literals || 30 < distances then throw .tooManySymbols
    match takeTriples (counts / 1024 + 4) rest with
    | none => return none
    | some (values, rest) =>
      let pairs := lengthOrder.zip values
      let code : PrefixCode := ⟨(List.range 19).map fun symbol => (pairs.lookup symbol).getD 0⟩
      if !code.isEmpty && (code.isOversubscribed || !code.isComplete) then throw .codeLengths
      match ← readLengths code (literals + distances) (rest.length + 1) [] rest with
      | none => return none
      | some (lengths, rest) =>
        let literalCode : PrefixCode := ⟨lengths.take literals⟩
        let distanceCode : PrefixCode := ⟨lengths.drop literals⟩
        if (lengths[endOfBlock]?).getD 0 = 0 then throw .noEndOfBlock
        if !literalCode.isUsable then throw .literalSet
        if !distanceCode.isUsable then throw .distanceSet
        return some (literalCode, distanceCode, rest)

/-- Reads bytes as they are. -/
def readBytes : (count : Nat) → (written : List Nat) → List Bool → Inflating
  | 0, written, bits => ⟨written, some bits⟩
  | count + 1, written, bits =>
    match takeBits 8 bits with
    | none => ⟨written, none⟩
    | some (byte, rest) => readBytes count (byte :: written) rest

/-- Reads a block of bytes, which starts with their number, given twice, at the start of a byte. -/
def readStored (written : List Nat) (bits : List Bool) : Except InflateError Inflating :=
  match takeBits 32 (bits.drop (bits.length % 8)) with
  | none => .ok ⟨written, none⟩
  | some (lengths, rest) =>
    if lengths % 65536 + lengths / 65536 = 65535 then
      .ok (readBytes (lengths % 65536) written rest)
    else .error .storedLengths

/-- Reads a block of a type. -/
def readBlock (type : Nat) (written : List Nat) (bits : List Bool) :
    Except InflateError Inflating := do
  if type = 0 then readStored written bits
  else if type = 1 then readWords fixedCodes.1 fixedCodes.2 (bits.length + 1) written bits
  else if type = 2 then
    match ← readCodes bits with
    | none => return ⟨written, none⟩
    | some (literals, distances, rest) =>
      readWords literals distances (rest.length + 1) written rest
  else throw .blockType

/-- Reads blocks up to the last one. -/
def readBlocks : (steps : Nat) → (written : List Nat) → List Bool → Except InflateError Inflating
  | 0, written, _ => .ok ⟨written, none⟩
  | steps + 1, written, bits => do
    match takeBits 3 bits with
    | none => return ⟨written, none⟩
    | some (header, rest) =>
      let block ← readBlock (header / 2) written rest
      match block.rest with
      | none => return block
      | some rest => if header % 2 = 1 then return block else readBlocks steps block.written rest

/-- The bytes that deflated bytes stand for, last first, and the bits behind them. -/
def inflateBits (bytes : List Nat) : Except InflateError Inflating :=
  let bits := bytes.flatMap byteBits
  readBlocks (bits.length + 1) [] bits

/-- The bytes that deflated bytes stand for. -/
def inflate (bytes : List Nat) : Except InflateError (List Nat) :=
  (inflateBits bytes).map (·.written.reverse)

/-- The check sum of bytes: two sums, of the bytes and of those sums. -/
def checkSum (bytes : List Nat) : Nat :=
  let (low, high) := bytes.foldl (fun (low, high) byte =>
    let low := (low + byte) % 65521
    (low, (high + low) % 65521)) (1, 0)
  65536 * high + low

/-- Whether the four bytes at the end of a deflated text are the check sum of what it stands for;
fewer bytes are no error. -/
def checkFits (block : Inflating) : Bool :=
  match block.rest.map fun bits => readBytes 4 [] (bits.drop (bits.length % 8)) with
  | some { written := [d, c, b, a], .. } =>
    ((a * 256 + b) * 256 + c) * 256 + d = checkSum block.written.reverse
  | _ => true

/-- The bytes that deflated bytes behind a header of two bytes stand for. -/
def unwrap (bytes : List Nat) : Except InflateError (List Nat) := do
  match bytes with
  | a :: b :: rest =>
    if (256 * a + b) % 31 ≠ 0 then throw .headerCheck
    if a % 16 ≠ 8 then throw .method
    if 7 < a / 16 then throw .window
    if b / 32 % 2 = 1 then
      if rest.length < 4 then return [] else throw .dictionary
    let block ← inflateBits rest
    if checkFits block then return block.written.reverse else throw .dataCheck
  | _ => return []

/-- The bytes that deflated bytes stand for, with a header or without. -/
def inflateAny (bytes : List Nat) : Except InflateError (List Nat) :=
  match unwrap bytes with
  | .ok plain => .ok plain
  | .error _ => inflate bytes

/-- The bytes that a compressed file stands for.  The header of a file is known by two bytes, which
no text starts with. -/
def gunzip (bytes : List Nat) : Except InflateError (List Nat) :=
  if bytes.length < 2 then .ok [] else .error .headerCheck

end ManifestLint.Compression
