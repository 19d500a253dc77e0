import ManifestLint.Yaml.BlockText
import ManifestLint.Yaml.PlainText
import ManifestLint.Yaml.Property

/-!
# Feed of tokens

A text is a row of tokens.  Blocks are marked by indentation alone, so the tokens that start and end
them stand for no characters; neither does the token of a key that only the colon behind it makes a
key.

Tokens are read only as far as they are needed, so that a fault shows no earlier than a reader gets
to it.  One thing makes the feed look ahead: whether a node is a key shows at the colon behind it.
Such a key has to end on its line, at most 1024 characters behind its start.

* `Feed.peek` gives the next token, `Feed.drop` passes over it.
-/

namespace ManifestLint.Yaml

/-- A token. -/
inductive Token where
  | directive (content : Directive)
  | documentStart
  | documentEnd
  | textEnd
  | listBlock
  | tableBlock
  | blockEnd
  | openList
  | closeList
  | openTable
  | closeTable
  /-- The node that follows is a key. -/
  | key
  /-- The node that follows is the value of a key. -/
  | value
  /-- The hyphen of an element. -/
  | hyphen
  | comma
  | alias (name : List Char)
  | anchor (name : List Char)
  | tag (written : WrittenTag)
  | scalar (text : List Char) (isPlain : Bool)
  deriving DecidableEq

/-- A place where a key may have started: the number of its first token, whether it has to be a key,
and where it is. -/
structure KeyPlace where
  number : Nat
  required : Bool
  offset : Nat
  line : Nat
  column : Nat

/-- What is left of a text, the tokens that are read but not yet taken, and what decides on further
ones: the columns of the blocks, whether a key may start here, where one may have started inside the
innermost flow collection, and where before each of the collections around. -/
structure Feed where
  source : Source
  queue : List Token := []
  taken : Nat := 0
  ended : Bool := false
  columns : List Nat := []
  keyAllowed : Bool := true
  keyPlace : Option KeyPlace := none
  outerPlaces : List (Option KeyPlace) := []

namespace Feed

/-- The feed at the start of a text.  A mark of the byte order is no part of it. -/
def start (text : List Char) : Feed :=
  let source := Source.start text
  { source := if text.head?.any fun c => c.toNat = 0xFEFF then source.next else source }

/-- Whether a flow collection is open. -/
def inFlow (feed : Feed) : Bool := !feed.outerPlaces.isEmpty

/-- The column of the innermost block, or -1 outside of blocks. -/
def indent (feed : Feed) : Int := (feed.columns.head?.map Int.ofNat).getD (-1)

/-- The feed with one more token, behind which its text goes on at a cursor. -/
def push (feed : Feed) (token : Token) (source : Source) : Feed :=
  { feed with queue := feed.queue ++ [token], source }

/-- The feed without the blanks, comments and line ends before the next token.  A line end outside
flow collections allows a key. -/
def skipBlanks : (steps : Nat) → Feed → Feed
  | 0, feed => feed
  | steps + 1, feed =>
    let here := (feed.source.skipWhile (· = ' ')).skipComment
    match here.break? with
    | some (_, next) =>
      skipBlanks steps { feed with source := next, keyAllowed := feed.keyAllowed || !feed.inFlow }
    | none => { feed with source := here }

/-- A place without the key that can no longer end in time. -/
def freshPlace (source : Source) : Option KeyPlace → Except Fault (Option KeyPlace)
  | none => .ok none
  | some place =>
    if place.line = source.line && source.offset ≤ place.offset + 1024 then .ok (some place)
    else if place.required then .error .malformed
    else .ok none

/-- The feed without the keys that can no longer end in time. -/
def dropStale (feed : Feed) : Except Fault Feed := do
  let keyPlace ← freshPlace feed.source feed.keyPlace
  let outerPlaces ← feed.outerPlaces.mapM (freshPlace feed.source)
  return { feed with keyPlace, outerPlaces }

/-- The feed without a key that may have started here. -/
def dropKey (feed : Feed) : Except Fault Feed :=
  if feed.keyPlace.any KeyPlace.required then .error .malformed
  else .ok { feed with keyPlace := none }

/-- The feed that remembers that a key may start here. -/
def noteKey (feed : Feed) : Except Fault Feed := do
  if feed.keyAllowed then
    let feed ← feed.dropKey
    let source := feed.source
    let place := {
      number := feed.taken + feed.queue.length
      required := !feed.inFlow && feed.indent = source.column
      offset := source.offset
      line := source.line
      column := source.column }
    return { feed with keyPlace := some place }
  else return feed

/-- The feed with the blocks ended that are indented more than a column. -/
def endBlocks (feed : Feed) (column : Int) : Feed :=
  if feed.inFlow then feed
  else
    let deeper := feed.columns.takeWhile fun (indent : Nat) => column < indent
    let ends := List.replicate deeper.length Token.blockEnd
    { feed with columns := feed.columns.drop deeper.length, queue := feed.queue ++ ends }

/-- The feed with a block started in a column, unless one has started there.  The token is put
before the one with the given place in the queue. -/
def startBlock (feed : Feed) (column place : Nat) (token : Token) : Feed :=
  if feed.indent < column then
    { feed with
      columns := column :: feed.columns
      queue := feed.queue.take place ++ token :: feed.queue.drop place }
  else feed

/-- The feed behind all blocks, where no key is open. -/
def outside (feed : Feed) : Except Fault Feed := do
  let feed ← (feed.endBlocks (-1)).dropKey
  return { feed with keyAllowed := false }

/-- Reads the end of the text. -/
def readEnd (feed : Feed) : Except Fault Feed := do
  let feed ← feed.outside
  return { feed.push .textEnd feed.source with ended := true, outerPlaces := [] }

/-- Reads a directive. -/
def readDirective (feed : Feed) : Except Fault Feed := do
  let feed ← feed.outside
  let (content, next) ← directive feed.source
  return feed.push (.directive content) next

/-- Reads three marks that divide documents. -/
def readDivider (feed : Feed) (token : Token) : Except Fault Feed := do
  let feed ← feed.outside
  return feed.push token (feed.source.skip 3)

/-- Reads the mark that opens a flow collection. -/
def readOpening (feed : Feed) (token : Token) : Except Fault Feed := do
  let feed ← feed.noteKey
  let outerPlaces := feed.keyPlace :: feed.outerPlaces
  return { feed.push token feed.source.next with keyPlace := none, outerPlaces, keyAllowed := true }

/-- Reads the mark that closes a flow collection. -/
def readClosing (feed : Feed) (token : Token) : Except Fault Feed := do
  let feed ← feed.dropKey
  match feed.outerPlaces with
  | [] => throw .malformed
  | keyPlace :: outerPlaces =>
    return { feed.push token feed.source.next with keyPlace, outerPlaces, keyAllowed := false }

/-- Reads a comma. -/
def readComma (feed : Feed) : Except Fault Feed := do
  let feed ← feed.dropKey
  return { feed.push .comma feed.source.next with keyAllowed := true }

/-- The feed with a block started at a mark that stands by itself, which it can where a key could
start. -/
def startMarked (feed : Feed) (block : Token) : Except Fault Feed :=
  if feed.inFlow then .ok feed
  else if feed.keyAllowed then
    .ok (feed.startBlock feed.source.column feed.queue.length block)
  else .error .malformed

/-- Reads the hyphen of an element. -/
def readHyphen (feed : Feed) : Except Fault Feed := do
  let feed ← (← feed.startMarked .listBlock).dropKey
  return { feed.push .hyphen feed.source.next with keyAllowed := true }

/-- Reads the question mark before a key, or the colon behind a key that started with one. -/
def readMark (feed : Feed) (token : Token) : Except Fault Feed := do
  let feed ← (← feed.startMarked .tableBlock).dropKey
  return { feed.push token feed.source.next with keyAllowed := !feed.inFlow }

/-- Reads the colon before a value.  The node before it is its key, if it can be one. -/
def readColon (feed : Feed) : Except Fault Feed :=
  match feed.keyPlace with
  | none => feed.readMark .value
  | some key =>
    let place := key.number - feed.taken
    let queue := feed.queue.take place ++ .key :: feed.queue.drop place
    let feed := { feed with queue, keyPlace := none, keyAllowed := false }
    let feed := if feed.inFlow then feed else feed.startBlock key.column place .tableBlock
    .ok (feed.push .value feed.source.next)

/-- Reads a name, and makes a token of it. -/
def readName (feed : Feed) (token : List Char → Token) : Except Fault Feed := do
  let feed ← feed.noteKey
  let (name, next) ← nodeName feed.source
  return { feed.push (token name) next with keyAllowed := false }

/-- Reads a tag. -/
def readTag (feed : Feed) : Except Fault Feed := do
  let feed ← feed.noteKey
  let (written, next) ← tag feed.source
  return { feed.push (.tag written) next with keyAllowed := false }

/-- Reads a block scalar. -/
def readBlockScalar (feed : Feed) : Except Fault Feed := do
  let feed ← feed.dropKey
  let (text, next) ← blockScalar feed.indent feed.source
  return { feed.push (.scalar text false) next with keyAllowed := true }

/-- Reads a quoted scalar. -/
def readQuoted (feed : Feed) : Except Fault Feed := do
  let feed ← feed.noteKey
  let (text, next) ← quotedScalar feed.source
  return { feed.push (.scalar text false) next with keyAllowed := false }

/-- Reads a plain scalar.  A key may follow it in the next line. -/
def readPlain (feed : Feed) : Except Fault Feed := do
  let feed ← feed.noteKey
  let (text, ended, next) := plainScalar feed.inFlow (feed.indent + 1) feed.source
  return { feed.push (.scalar text true) next with keyAllowed := ended }

/-- Reads the token that starts here. -/
def readToken (feed : Feed) : Except Fault Feed :=
  let atStart := feed.source.column = 0
  match feed.source.rest with
  | [] => feed.readEnd
  | c :: rest =>
    let standsApart := endsToken rest
    if c = '%' && atStart then feed.readDirective
    else if startsDivider (c :: rest) && atStart then
      feed.readDivider (if c = '-' then .documentStart else .documentEnd)
    else if c = '[' then feed.readOpening .openList
    else if c = '{' then feed.readOpening .openTable
    else if c = ']' then feed.readClosing .closeList
    else if c = '}' then feed.readClosing .closeTable
    else if c = ',' then feed.readComma
    else if c = '-' && standsApart then feed.readHyphen
    else if c = '?' && (feed.inFlow || standsApart) then feed.readMark .key
    else if c = ':' && (feed.inFlow || standsApart) then feed.readColon
    else if c = '*' then feed.readName .alias
    else if c = '&' then feed.readName .anchor
    else if c = '!' then feed.readTag
    else if (c = '|' || c = '>') && !feed.inFlow then feed.readBlockScalar
    else if c = '\'' || c = '"' then feed.readQuoted
    else if startsPlain feed.inFlow (c :: rest) then feed.readPlain
    else .error .malformed

/-- The feed with the next tokens read. -/
def read (feed : Feed) : Except Fault Feed := do
  let feed ← (feed.skipBlanks (feed.source.rest.length + 1)).dropStale
  (feed.endBlocks feed.source.column).readToken

/-- The feed with so many tokens read that it is known which one is next: none of those that are
read may still turn out to start a key. -/
def fill : (steps : Nat) → Feed → Except Fault Feed
  | 0, feed => .ok feed
  | steps + 1, feed =>
    if feed.ended then .ok feed
    else if feed.queue.isEmpty then do fill steps (← feed.read)
    else do
      let feed ← feed.dropStale
      let isOpen (place : Option KeyPlace) : Bool := place.any (·.number = feed.taken)
      if isOpen feed.keyPlace || feed.outerPlaces.any isOpen then fill steps (← feed.read)
      else return feed

/-- The next token, and the feed that knows it. -/
def peek (feed : Feed) : Except Fault (Token × Feed) := do
  let feed ← feed.fill (feed.source.rest.length + 2)
  return (feed.queue.headD .textEnd, feed)

/-- The feed behind the next token. -/
def drop (feed : Feed) : Feed := { feed with queue := feed.queue.tail, taken := feed.taken + 1 }

end Feed

end ManifestLint.Yaml
