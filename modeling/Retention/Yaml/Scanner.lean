import Retention.Yaml.Property
import Retention.Yaml.Scalar.Block
import Retention.Yaml.Scalar.Plain
import Retention.Yaml.Scalar.Quoted

/-!
# Scanning tokens

Tokens are fetched from left to right. Whether a scalar or a collection is a key shows
only at the colon behind it; so it is remembered as a possible key, and the tokens that
make it one are put in front of it when the colon comes. A possible key has to be on one
line and not longer than 1024 bytes.

A possible key is held back until it is settled. When a text cannot be read any further,
the tokens held back are lost with it, and what stands in front of them is kept.
-/

namespace Retention.Yaml

/-- A place where a key may start. -/
structure PossibleKey where
  /-- Whether the indentation allows nothing else here. -/
  required : Bool
  /-- The number of tokens in front of it. -/
  place : Nat
  mark : Mark
deriving Repr

/-- A text that is being scanned. -/
structure Scanner where
  cursor : Cursor
  tokens : List Located
  /-- The possible key of the enclosing block context and of each enclosing flow
  collection, innermost first. -/
  keys : List (Option PossibleKey)
  /-- The columns of the open block collections, innermost first. -/
  indents : List Nat
  /-- Whether a key may start at the cursor. -/
  keyAllowed : Bool
  /-- Whether the text goes on behind what can be seen of it, but cannot be read there. -/
  isCut : Bool
  /-- Whether the end of the text has been reached. -/
  ended : Bool

namespace Scanner

/-- A scanner at the start of a text, of which the rest may be cut off. -/
def start (text : List Char) (isCut : Bool) : Scanner where
  cursor := .start text
  isCut := isCut
  tokens := []
  keys := [none]
  indents := []
  keyAllowed := true
  ended := false

/-- Whether the cursor is inside a flow collection. -/
def inFlow (scanner : Scanner) : Bool :=
  1 < scanner.keys.length

/-- The column of the innermost open block collection. -/
def indent (scanner : Scanner) : Option Nat :=
  scanner.indents.head?

/-- The least column for what belongs to the innermost open block collection. -/
def least (scanner : Scanner) : Nat :=
  scanner.indent.elim 0 (· + 1)

def fail {α : Type} (scanner : Scanner) (problem : String) : Except Fault α :=
  scanner.cursor.fail problem

def push (scanner : Scanner) (token : Token) (mark : Mark) : Scanner :=
  { scanner with tokens := scanner.tokens ++ [⟨token, mark⟩] }

/-- Adds a token at the cursor and moves over so many characters. -/
def take (scanner : Scanner) (token : Token) (count : Nat) : Scanner :=
  { scanner.push token scanner.cursor.mark with cursor := scanner.cursor.skip count }

def allowKey (scanner : Scanner) (allowed : Bool) : Scanner :=
  { scanner with keyAllowed := allowed }

/-! ## Possible keys -/

/-- Whether a possible key is out of reach of a colon at `mark`. -/
def isStale (mark : Mark) (key : PossibleKey) : Bool :=
  key.mark.line < mark.line || key.mark.index + 1024 < mark.index

/-- Gives up the possible keys that have gone stale, none of which may be required. -/
def dropStaleKeys (scanner : Scanner) : Except Fault Scanner :=
  let stale := isStale scanner.cursor.mark
  if scanner.keys.any fun key => key.any fun key => stale key && key.required then
    scanner.fail "expected a colon behind the key"
  else
    .ok { scanner with keys := scanner.keys.map fun key => key.filter fun key => !stale key }

def setKey (scanner : Scanner) (key : Option PossibleKey) : Scanner :=
  { scanner with keys := key :: scanner.keys.tail }

/-- Gives up the innermost possible key, which may not be required. -/
def dropKey (scanner : Scanner) : Except Fault Scanner :=
  match scanner.keys.head? with
  | some (some key) =>
      if key.required then scanner.fail "expected a colon behind the key"
      else .ok (scanner.setKey none)
  | _ => .ok scanner

/-- Remembers a possible key at the cursor, if one is allowed there. -/
def saveKey (scanner : Scanner) : Except Fault Scanner :=
  if scanner.keyAllowed then do
    -- In a block collection nothing but a key can start at its own column.
    let required := !scanner.inFlow && scanner.indent == some scanner.cursor.column
    let key : PossibleKey := ⟨required, scanner.tokens.length, scanner.cursor.mark⟩
    return (← scanner.dropKey).setKey (some key)
  else .ok scanner

def released (scanner : Scanner) : Nat :=
  scanner.keys.foldl (fun least key => key.elim least fun key => min least key.place)
    scanner.tokens.length

/-! ## Indentation -/

/-- Opens a block collection at a column that is further in, outside flow collections. The
token that starts it stands in front of the tokens from `place` on. -/
def openBlock (scanner : Scanner) (column place : Nat) (token : Token) (mark : Mark) :
    Scanner :=
  if !scanner.inFlow && scanner.least ≤ column then
    { scanner with
      indents := column :: scanner.indents
      tokens := scanner.tokens.insertIdx place ⟨token, mark⟩ }
  else scanner

/-- Ends the block collections whose column satisfies `isLeft`, innermost first. -/
def closeBlocks (isLeft : Nat → Bool) (scanner : Scanner) : Scanner :=
  if scanner.inFlow then scanner
  else
    let closed := scanner.indents.takeWhile isLeft
    { scanner with
      indents := scanner.indents.drop closed.length
      tokens := scanner.tokens
        ++ List.replicate closed.length ⟨.blockEnd, scanner.cursor.mark⟩ }

/-! ## White space -/

/-- The mark that may open a line. It counts as white space there, but keeps its place. -/
def byteOrderMark : Char :=
  '\ufeff'

/-- Moves over a byte order mark at the start of a line. -/
def skipByteOrderMark (cursor : Cursor) : Cursor :=
  if cursor.column = 0 ∧ cursor.rest.head? = some byteOrderMark then cursor.skip 1 else cursor

/-- Moves to the next token. A tab counts as white space only where no key may start.
Outside flow collections a key may start on every new line. -/
def skipSpace : Nat → Scanner → Scanner
  | 0, scanner => scanner
  | fuel + 1, scanner =>
      let tabs := scanner.inFlow || !scanner.keyAllowed
      let indented := (skipByteOrderMark scanner.cursor).skipWhile fun c =>
        c = ' ' || (tabs && c = '\t')
      let cursor := indented.skipComment
      match cursor.takeBreak? with
      | some (_, next) =>
          skipSpace fuel
            { scanner with
              cursor := next
              keyAllowed := scanner.keyAllowed || !scanner.inFlow }
      | none => { scanner with cursor := cursor }

/-! ## Fetching tokens -/

def fetchEnd (scanner : Scanner) : Except Fault Scanner := do
  let mark := scanner.cursor.mark
  -- The end has a line of its own.
  let mark := if mark.column = 0 then mark else mark.nextLine 0
  let scanner := { scanner with cursor := { scanner.cursor with mark := mark } }
  let scanner ← (scanner.closeBlocks fun _ => true).dropKey
  return { (scanner.push .streamEnd mark).allowKey false with ended := true }

def fetchDocumentMark (scanner : Scanner) (token : Token) : Except Fault Scanner := do
  let scanner ← (scanner.closeBlocks fun _ => true).dropKey
  return (scanner.take token 3).allowKey false

def fetchDirective (scanner : Scanner) : Except Fault Scanner := do
  let scanner ← (scanner.closeBlocks fun _ => true).dropKey
  let (token, cursor) ← Property.readDirective (scanner.cursor.skip 1)
  return { (scanner.push token scanner.cursor.mark).allowKey false with cursor := cursor }

def fetchFlowStart (scanner : Scanner) (token : Token) : Except Fault Scanner := do
  let scanner ← scanner.saveKey
  return { (scanner.take token 1).allowKey true with keys := none :: scanner.keys }

def fetchFlowEnd (scanner : Scanner) (token : Token) : Except Fault Scanner := do
  let scanner ← scanner.dropKey
  let keys := if scanner.inFlow then scanner.keys.tail else scanner.keys
  return { (scanner.take token 1).allowKey false with keys := keys }

def fetchFlowEntry (scanner : Scanner) : Except Fault Scanner := do
  let scanner ← scanner.dropKey
  return (scanner.take .flowEntry 1).allowKey true

/-- Opens a block collection at the cursor for an indicator that starts an entry of one. -/
def openAtIndicator (scanner : Scanner) (token : Token) : Except Fault Scanner :=
  if scanner.inFlow then .ok scanner
  else if scanner.keyAllowed then
    let mark := scanner.cursor.mark
    .ok (scanner.openBlock mark.column scanner.tokens.length token mark)
  else scanner.fail "a block collection may not start here"

def fetchBlockEntry (scanner : Scanner) : Except Fault Scanner := do
  let scanner ← (← scanner.openAtIndicator .blockSequenceStart).dropKey
  return (scanner.take .blockEntry 1).allowKey true

def fetchKey (scanner : Scanner) : Except Fault Scanner := do
  let scanner ← (← scanner.openAtIndicator .blockMappingStart).dropKey
  return (scanner.take (.key (scanner.cursor.skip 1).mark) 1).allowKey !scanner.inFlow

/-- Fetches the colon of a value. If there is a possible key, it is one. -/
def fetchValue (scanner : Scanner) : Except Fault Scanner := do
  let token := Token.value (scanner.cursor.skip 1).mark
  match scanner.keys.head? with
  | some (some key) =>
      -- What was read as a key turns into one: its token goes in front of it.
      let keyed := { scanner with
        tokens := scanner.tokens.insertIdx key.place ⟨.key key.mark, key.mark⟩ }
      let opened := keyed.openBlock key.mark.column key.place .blockMappingStart key.mark
      return ((opened.setKey none).take token 1).allowKey false
  | _ =>
      let opened ← scanner.openAtIndicator .blockMappingStart
      return (opened.take token 1).allowKey !scanner.inFlow

def fetchName (scanner : Scanner) (token : String → Token) : Except Fault Scanner := do
  let scanner ← scanner.saveKey
  let (name, cursor) ← Property.readName (scanner.cursor.skip 1)
  return { (scanner.push (token name) scanner.cursor.mark).allowKey false with
    cursor := cursor }

def fetchTag (scanner : Scanner) : Except Fault Scanner := do
  let scanner ← scanner.saveKey
  let (name, cursor) ← Property.readTag scanner.inFlow scanner.cursor
  return { (scanner.push (.tag name) scanner.cursor.mark).allowKey false with cursor := cursor }

/-- Adds a scalar that has been read up to a cursor. -/
def pushScalar (scanner : Scanner) (style : ScalarStyle) (text : List Char) (cursor : Cursor) :
    Scanner :=
  { scanner.push (.scalar ⟨style, String.ofList text⟩) scanner.cursor.mark with
    cursor := cursor }

def fetchBlock (scanner : Scanner) (kind : Block.Kind) : Except Fault Scanner := do
  let scanner ← scanner.dropKey
  let (text, cursor) ← Block.read kind scanner.indent (scanner.cursor.skip 1)
  let style := if kind = .literal then ScalarStyle.literal else .other
  return (scanner.pushScalar style text cursor).allowKey true

def fetchQuoted (scanner : Scanner) (kind : Quoted.Kind) : Except Fault Scanner := do
  let scanner ← scanner.saveKey
  let (text, cursor) ← Quoted.read kind scanner.cursor
  return (scanner.pushScalar .other text cursor).allowKey false

/-- Fetches a plain scalar. A key may follow it on a new line. -/
def fetchPlain (scanner : Scanner) : Except Fault Scanner := do
  let scanner ← scanner.saveKey
  let reading ← Plain.read scanner.inFlow scanner.least scanner.cursor
  return (scanner.pushScalar .plain reading.text reading.cursor).allowKey reading.crossedLine

/-- The characters that no plain scalar starts with. Three more start one only in front of
certain text. -/
def indicators : List Char :=
  [',', '[', ']', '\x7b', '\x7d', '#', '&', '*', '!', '|', '>', '\x27', '\x22', '%', '@', '\x60']

/-- Whether a plain scalar may start with a character that some text follows. -/
def startsPlain (inFlow : Bool) (c : Char) (rest : List Char) : Bool :=
  if isBlank c || isBreak c then false
  else if c = '-' then !(rest.head?.any isBlank)
  else if c = '?' || c = ':' then !inFlow && !startsBlank rest
  else c ∉ indicators

def fetchToken (scanner : Scanner) : Except Fault Scanner :=
  let inFlow := scanner.inFlow
  match scanner.cursor.rest with
  | [] => scanner.fetchEnd
  | c :: rest =>
      let atStart := scanner.cursor.column = 0
      if atStart ∧ c = '%' then scanner.fetchDirective
      else if atStart ∧ startsTriple '-' (c :: rest) then scanner.fetchDocumentMark .documentStart
      else if atStart ∧ startsTriple '.' (c :: rest) then scanner.fetchDocumentMark .documentEnd
      else if c = '[' then scanner.fetchFlowStart .flowSequenceStart
      else if c = '\x7b' then scanner.fetchFlowStart .flowMappingStart
      else if c = ']' then scanner.fetchFlowEnd .flowSequenceEnd
      else if c = '\x7d' then scanner.fetchFlowEnd .flowMappingEnd
      else if c = ',' then scanner.fetchFlowEntry
      else if c = '-' ∧ startsBlank rest then scanner.fetchBlockEntry
      else if c = '?' ∧ (inFlow ∨ startsBlank rest) then scanner.fetchKey
      else if c = ':' ∧ (inFlow ∨ startsBlank rest) then scanner.fetchValue
      else if c = '*' then scanner.fetchName .alias
      else if c = '&' then scanner.fetchName .anchor
      else if c = '!' then scanner.fetchTag
      else if c = '|' ∧ !inFlow then scanner.fetchBlock .literal
      else if c = '>' ∧ !inFlow then scanner.fetchBlock .folded
      else if c = '\x27' then scanner.fetchQuoted .single
      else if c = '\x22' then scanner.fetchQuoted .double
      else if startsPlain inFlow c rest then scanner.fetchPlain
      else scanner.fail "no token starts with this character"

/-- Asks for so many characters at the cursor, unless the text ends before. -/
def lookAhead (scanner : Scanner) (count : Nat) : Except Fault Unit :=
  if scanner.isCut && scanner.cursor.rest.length < count then
    scanner.fail "control characters are not allowed"
  else .ok ()

/-- Moves to the next token and fetches it. Four characters tell tokens apart, and one shows
where a token ends. -/
def fetch (scanner : Scanner) : Except Fault Scanner := do
  let scanner ← (scanner.skipSpace (scanner.cursor.rest.length + 1)).dropStaleKeys
  scanner.lookAhead 4
  let scanner ← (scanner.closeBlocks (scanner.cursor.column < ·)).fetchToken
  scanner.lookAhead 1
  return scanner

/-- Fetches tokens up to the end. `kept` tokens are known not to be held back. Returns the
tokens, or, if there is a fault, the tokens that were not held back by then. -/
def run : Nat → Scanner → Nat → List Located × Option Fault
  | 0, scanner, kept => (scanner.tokens.take kept, none)
  | fuel + 1, scanner, kept =>
      match scanner.dropStaleKeys with
      | .error fault => (scanner.tokens.take kept, some fault)
      | .ok settled =>
          if settled.ended then (settled.tokens, none)
          else
            match settled.fetch with
            | .error fault => (settled.tokens.take settled.released, some fault)
            | .ok next => run fuel next settled.released

end Scanner

/-! ## Texts -/

/-- Whether a character may stand in a text at all. -/
def isAllowed (c : Char) : Bool :=
  c = '\t' || c = '\n' || c = '\r' || c = '\x85'
    || (0x20 ≤ c.toNat && c.toNat ≤ 0x7E)
    || (0xA0 ≤ c.toNat && c.toNat ≤ 0xFFFD)
    || 0x10000 ≤ c.toNat

/-- The number of bytes of a text that are taken in at once, at most. -/
def blockSize : Nat :=
  16384

/-- What can be seen of a text that holds a character which may not stand in it: the blocks in
front of the one with the first of these characters. A block is as many whole characters
as fit into it; `block` are the ones in the current block, in reverse, and `size` is their
size. -/
def visible (size : Nat) (block : List Char) : List Char → List Char
  | [] => block.reverse
  | c :: rest =>
      if size + c.utf8Size ≤ blockSize then
        if isAllowed c then visible (size + c.utf8Size) (c :: block) rest else []
      else block.reverse ++ (if isAllowed c then visible c.utf8Size [c] rest else [])

def Scanner.ofText (text : List Char) : Scanner :=
  if text.all isAllowed then .start text false else .start (visible 0 [] text) true

/-- The tokens of a text, and the fault that ends them early. -/
def Located.scan (text : String) : List Located × Option Fault :=
  let scanner := Scanner.ofText text.toList
  scanner.run (scanner.cursor.rest.length + 2) 0

end Retention.Yaml
