import SandPlatform.Xml.Pieces
import SandPlatform.Xml.Visitor

/-!
# The printer of tinyxml2

`XMLPrinter` prints to memory what it is told to push.  A newline and the indentation
come in front of a node only where no text is open, so a text is printed with nothing
around it.
-/

namespace SandPlatform.Xml

/-- `XMLPrinter`, with what it has printed. -/
structure Printer where
  elementJustOpened : Bool
  firstElement : Bool
  depth : Int
  textDepth : Int
  processEntities : Bool
  compactMode : Bool
  stack : List Text
  buffer : Text
  deriving DecidableEq

namespace Printer

/-- `XMLPrinter` for memory. -/
def new (compact : Bool) : Printer :=
  ⟨false, true, 0, -1, true, compact, [], []⟩

/-- `Print`, which appends to the buffer. -/
def print (text : Text) (s : Printer) : Printer :=
  { s with buffer := s.buffer ++ text }

/-- The indent of one level. -/
def indent : Text :=
  bytes [' ', ' ', ' ', ' ']

/-- `PrintSpace`. -/
def printSpace (depth : Int) : Printer → Printer :=
  print (List.replicate depth.toNat indent).flatten

end Printer

/-! ## Entities -/

/-- `ENTITY_RANGE`; no character from there on is an entity. -/
def entityRange : Byte := 64

/-- The flags are set for bytes below the range only, so a byte above it has none. -/
def entityFlag (c : Byte) : Bool :=
  entities.any fun e => e.value < entityRange && e.value == c

/-- `_restrictedEntityFlag`: what a text cannot hold as it is. -/
def restrictedEntityFlag (c : Byte) : Bool :=
  c == byte '&' || c == byte '<' || c == byte '>'

/-- The name of a character that is an entity. -/
def printEntity (q : Byte) : Text :=
  match entities.find? fun e => e.value == q with
  | some e => byte '&' :: (e.pattern ++ [byte ';'])
  | none => []

/-- The loop of `PrintString`: the run of bytes that waits, and the text from `q` on. -/
def printRuns (flag : Byte → Bool) : Text → Text → Text
  | run, [] => run
  | run, q :: rest =>
      if 0 < q ∧ q < entityRange ∧ flag q then
        run ++ printEntity q ++ printRuns flag [] rest
      else
        printRuns flag (run ++ [q]) rest

namespace Printer

/-- `PrintString`: with entities, or the text as it is. -/
def printString (p : Text) (restricted : Bool) (s : Printer) : Printer :=
  if s.processEntities then
    s.print (printRuns (if restricted then restrictedEntityFlag else entityFlag) [] p)
  else
    s.print p

/-! ## Pushing -/

/-- `SealElement`. -/
def sealElement (s : Printer) : Printer :=
  { s with elementJustOpened := false }.print (bytes ['>'])

/-- An element that was just opened is sealed before anything is printed inside of it. -/
def sealJustOpened (s : Printer) : Printer :=
  if s.elementJustOpened then s.sealElement else s

/-- A new line with its indent. -/
def newline (depth : Int) (s : Printer) : Printer :=
  (s.print [lineFeed]).printSpace depth

/-- The line in front of a node. -/
def startLine (s : Printer) : Printer :=
  if s.textDepth < 0 ∧ ¬ s.firstElement ∧ ¬ s.compactMode then s.newline s.depth else s

/-- `OpenElement`. -/
def openElement (name : Text) (s : Printer) : Printer :=
  let s := s.sealJustOpened
  let s := { s with stack := name :: s.stack }
  let s := s.startLine.print (bytes ['<'] ++ name)
  { s with elementJustOpened := true, firstElement := false, depth := s.depth + 1 }

/-- `PushAttribute`. -/
def pushAttribute (name value : Text) (s : Printer) : Printer :=
  ((s.print (byte ' ' :: (name ++ [byte '=', doubleQuote]))).printString value false).print
    [doubleQuote]

/-- The stack has an element for every one that was opened; an empty one is popped of
nothing here. -/
def closeElement (s : Printer) : Printer :=
  let s := { s with depth := s.depth - 1 }
  let name := s.stack.headD []
  let s := { s with stack := s.stack.tail }
  let s :=
    if s.elementJustOpened then
      s.print (bytes ['/', '>'])
    else
      let s := if s.textDepth < 0 ∧ ¬ s.compactMode then s.newline s.depth else s
      s.print (bytes ['<', '/'] ++ (name ++ bytes ['>']))
  let s := if s.textDepth = s.depth then { s with textDepth := -1 } else s
  let s := if s.depth = 0 ∧ ¬ s.compactMode then s.print [lineFeed] else s
  { s with elementJustOpened := false }

/-- `PushText`. -/
def pushText (text : Text) (cdata : Bool) (s : Printer) : Printer :=
  let s := { s with textDepth := s.depth - 1 }
  let s := s.sealJustOpened
  if cdata then
    ((s.print (bytes ['<', '!', '[', 'C', 'D', 'A', 'T', 'A', '['])).print text).print
      (bytes [']', ']', '>'])
  else
    s.printString text true

/-- A node that is a line of its own. -/
def pushLine (header value ender : Text) (s : Printer) : Printer :=
  let s := s.sealJustOpened.startLine
  { s with firstElement := false }.print (header ++ (value ++ ender))

/-- `PushComment`. -/
def pushComment (comment : Text) : Printer → Printer :=
  pushLine (bytes ['<', '!', '-', '-']) comment (bytes ['-', '-', '>'])

/-- `PushDeclaration`. -/
def pushDeclaration (value : Text) : Printer → Printer :=
  pushLine (bytes ['<', '?']) value (bytes ['?', '>'])

/-- `PushUnknown`. -/
def pushUnknown (value : Text) : Printer → Printer :=
  pushLine (bytes ['<', '!']) value (bytes ['>'])

/-- `PushHeader`. -/
def pushHeader (writeBOM writeDec : Bool) (s : Printer) : Printer :=
  let s := if writeBOM then s.print tixmlUtfLead else s
  if writeDec then
    s.pushDeclaration (bytes ['x', 'm', 'l', ' ', 'v', 'e', 'r', 's', 'i', 'o', 'n', '='] ++
      doubleQuote :: (bytes ['1', '.', '0'] ++ [doubleQuote]))
  else
    s

/-! ## Visiting -/

/-- `Visit` of a node without children. -/
def pushLeaf (node : Leaf Text) : Printer → Printer :=
  match node.kind with
  | .text => pushText node.value false
  | .cdata => pushText node.value true
  | .comment => pushComment node.value
  | .declaration => pushDeclaration node.value
  | .unknown => pushUnknown node.value

/-- The loop of `VisitEnter` over the attributes. -/
def pushAttributes (attributes : List (Attribute Text)) (s : Printer) : Printer :=
  attributes.foldl (fun s attrib => s.pushAttribute attrib.name attrib.value) s

/-- The printer as a visitor, which never refuses. -/
def visitor : Visitor Printer where
  visitEnter name attributes s := (true, (s.openElement name).pushAttributes attributes)
  visitExit _ s := (true, s.closeElement)
  visit node s := (true, s.pushLeaf node)

/-- `VisitEnter` of a document. -/
def visitEnterDocument (processEntities hasBOM : Bool) (s : Printer) : Printer :=
  let s := { s with processEntities := processEntities }
  if hasBOM then s.pushHeader true false else s

end Printer

/-- `XMLDocument::Print` with a printer for memory, and the string of the printer. -/
def printDocument (processEntities hasBOM compact : Bool) (nodes : Nodes Text) : Text :=
  (accept Printer.visitor nodes
    ((Printer.new compact).visitEnterDocument processEntities hasBOM)).buffer

end SandPlatform.Xml
