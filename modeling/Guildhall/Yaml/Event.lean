import Guildhall.Yaml.Scan

/-!
The events of a document: its nodes in the order in which they begin and end. Tokens become events
by the grammar of documents, block collections and flow collections.
-/

namespace Guildhall.Yaml

def coreTag (name : String) : String := "tag:yaml.org,2002:" ++ name

/-- A scalar without a tag is a plain one whose kind its text shows. -/
inductive Event where
  | documentStart
  | documentEnd
  | streamEnd
  | alias (name : String)
  | scalar (anchor tag : Option String) (text : String)
  | listStart (anchor : Option String) (tag : String)
  | listEnd
  | mapStart (anchor : Option String) (tag : String)
  | mapEnd
  deriving DecidableEq, Repr

def Event.emptyScalar : Event := .scalar none none ""

inductive Expectation where
  | firstDocument
  | document
  | documentContent
  | documentEnd
  | blockNode
  | blockEntry
  | indentlessEntry
  | blockKey
  | blockValue
  | flowEntry (first : Bool)
  | pairKey
  | pairValue
  | pairEnd
  | flowKey (first : Bool)
  | flowValue
  | flowEmptyValue
  deriving DecidableEq, Repr

/-- The tokens still to come with the fault behind them, what is expected now, and what is expected
after the collections around it. -/
structure Parser where
  tokens : List Token
  fault : Option Fault
  now : Expectation
  later : List Expectation
  handles : List (String × String)
  deriving Repr

def defaultHandles : List (String × String) := [("!", "!"), ("!!", coreTag "")]

namespace Parser

abbrev Step := Except Fault (Event × Parser)

def peek (p : Parser) : Except Fault Token :=
  match p.tokens with
  | token :: _ => .ok token
  | [] => .error (p.fault.getD .token)

def skip (p : Parser) : Parser := { p with tokens := p.tokens.drop 1 }

def expect (next : Expectation) (p : Parser) : Parser := { p with now := next }

def resume (p : Parser) : Parser :=
  match p.later with
  | next :: later => { p with now := next, later := later }
  | [] => p

def putOff (next : Expectation) (p : Parser) : Parser := { p with later := next :: p.later }

def emptyThen (next : Expectation) (p : Parser) : Step := .ok (.emptyScalar, p.expect next)

def properties (p : Parser) :
    Except Fault (Option String × Option (Option String × String) × Parser) := do
  match ← p.peek with
  | .anchor name =>
    let p := p.skip
    match ← p.peek with
    | .tag handle suffix => return (some name, some (handle, suffix), p.skip)
    | _ => return (some name, none, p)
  | .tag handle suffix =>
    let p := p.skip
    match ← p.peek with
    | .anchor name => return (some name, some (handle, suffix), p.skip)
    | _ => return (none, some (handle, suffix), p)
  | _ => return (none, none, p)

def fullTag (p : Parser) : Option (Option String × String) → Except Fault (Option String)
  | none => .ok none
  | some (none, suffix) => .ok (some suffix)
  | some (some handle, suffix) =>
    match p.handles.lookup handle with
    | some start => .ok (some (start ++ suffix))
    | none => .error .grammar

/-- The tag `!` leaves the kind of a node open, as no tag does. -/
def openTag : Option String → Option String
  | some "!" => none
  | tag => tag

def scalarTag (plain : Bool) (tag : Option String) : Option String :=
  match tag with
  | none => if plain then none else some (coreTag "str")
  | some _ => openTag tag

def node (block indentless : Bool) (p : Parser) : Step := do
  match ← p.peek with
  | .alias name => return (.alias name, p.skip.resume)
  | _ =>
    let (anchor, written, p) ← p.properties
    let tag ← p.fullTag written
    let listTag := (openTag tag).getD (coreTag "seq")
    let mapTag := (openTag tag).getD (coreTag "map")
    match ← p.peek, block, indentless with
    | .blockEntry, _, true => return (.listStart anchor listTag, p.expect .indentlessEntry)
    | .scalar text plain, _, _ =>
      return (.scalar anchor (scalarTag plain tag) text, p.skip.resume)
    | .flowListStart, _, _ => return (.listStart anchor listTag, p.skip.expect (.flowEntry true))
    | .flowMapStart, _, _ => return (.mapStart anchor mapTag, p.skip.expect (.flowKey true))
    | .blockListStart, true, _ => return (.listStart anchor listTag, p.skip.expect .blockEntry)
    | .blockMapStart, true, _ => return (.mapStart anchor mapTag, p.skip.expect .blockKey)
    | _, _, _ =>
      if anchor.isSome || tag.isSome then
        return (.scalar anchor (openTag tag) "", p.resume)
      else .error .grammar

def blockNode (p : Parser) : Step := p.node true false
def entryNode (p : Parser) : Step := p.node true true
def flowNode (p : Parser) : Step := p.node false false

def directives : (versioned : Bool) → (handles : List (String × String)) → List Token →
    Except Fault (List (String × String) × List Token)
  | versioned, handles, .directive directive :: rest =>
    match directive with
    | .version major _ =>
      if versioned || major ≠ 1 then .error .grammar else directives true handles rest
    | .tag handle expansion =>
      if (handles.lookup handle).isSome then .error .grammar
      else directives versioned ((handle, expansion) :: handles) rest
    | .other => directives versioned handles rest
  | _, handles, tokens => .ok (handles, tokens)

def document (p : Parser) : Step := do
  let p := { p with tokens := p.tokens.dropWhile (· = Token.documentEnd) }
  match ← p.peek with
  | .streamEnd => return (.streamEnd, p.skip)
  | _ =>
    let (handles, tokens) ← directives false [] p.tokens
    let p := { p with tokens := tokens, handles := handles ++ defaultHandles }
    match ← p.peek with
    | .documentStart =>
      return (.documentStart, (p.skip.putOff .documentEnd).expect .documentContent)
    | _ => .error .grammar

def firstDocument (p : Parser) : Step := do
  match ← p.peek with
  | .directive _ | .documentStart | .streamEnd => p.document
  | _ =>
    let p := { p with handles := defaultHandles }
    return (.documentStart, (p.putOff .documentEnd).expect .blockNode)

def documentContent (p : Parser) : Step := do
  match ← p.peek with
  | .directive _ | .documentStart | .documentEnd | .streamEnd => return (.emptyScalar, p.resume)
  | _ => p.blockNode

def documentEnd (p : Parser) : Step := do
  match ← p.peek with
  | .documentEnd => return (.documentEnd, p.skip.expect .document)
  | _ => return (.documentEnd, p.expect .document)

def blockEntry (p : Parser) : Step := do
  match ← p.peek with
  | .blockEntry =>
    let p := p.skip
    match ← p.peek with
    | .blockEntry | .blockEnd => p.emptyThen .blockEntry
    | _ => (p.putOff .blockEntry).blockNode
  | .blockEnd => return (.listEnd, p.skip.resume)
  | _ => .error .grammar

def indentlessEntry (p : Parser) : Step := do
  match ← p.peek with
  | .blockEntry =>
    let p := p.skip
    match ← p.peek with
    | .blockEntry | .key | .value | .blockEnd => p.emptyThen .indentlessEntry
    | _ => (p.putOff .indentlessEntry).blockNode
  | _ => return (.listEnd, p.resume)

def blockKey (p : Parser) : Step := do
  match ← p.peek with
  | .key =>
    let p := p.skip
    match ← p.peek with
    | .key | .value | .blockEnd => p.emptyThen .blockValue
    | _ => (p.putOff .blockValue).entryNode
  | .blockEnd => return (.mapEnd, p.skip.resume)
  | _ => .error .grammar

def blockValue (p : Parser) : Step := do
  match ← p.peek with
  | .value =>
    let p := p.skip
    match ← p.peek with
    | .key | .value | .blockEnd => p.emptyThen .blockKey
    | _ => (p.putOff .blockKey).entryNode
  | _ => p.emptyThen .blockKey

def comma (first : Bool) (p : Parser) : Except Fault Parser := do
  if first then return p
  match ← p.peek with
  | .flowEntry => return p.skip
  | _ => .error .grammar

def flowEntry (first : Bool) (p : Parser) : Step := do
  match ← p.peek with
  | .flowListEnd => return (.listEnd, p.skip.resume)
  | _ =>
    let p ← p.comma first
    match ← p.peek with
    | .key => return (.mapStart none (coreTag "map"), p.expect .pairKey)
    | .flowListEnd => return (.listEnd, p.skip.resume)
    | _ => (p.putOff (.flowEntry false)).flowNode

def pairKey (p : Parser) : Step := do
  let p := p.skip
  match ← p.peek with
  | .value | .flowEntry | .flowListEnd => p.emptyThen .pairValue
  | _ => (p.putOff .pairValue).flowNode

def pairValue (p : Parser) : Step := do
  match ← p.peek with
  | .value =>
    let p := p.skip
    match ← p.peek with
    | .flowEntry | .flowListEnd => p.emptyThen .pairEnd
    | _ => (p.putOff .pairEnd).flowNode
  | _ => p.emptyThen .pairEnd

def pairEnd (p : Parser) : Step := do
  let _ ← p.peek
  return (.mapEnd, p.expect (.flowEntry false))

def flowKey (first : Bool) (p : Parser) : Step := do
  match ← p.peek with
  | .flowMapEnd => return (.mapEnd, p.skip.resume)
  | _ =>
    let p ← p.comma first
    match ← p.peek with
    | .key =>
      let p := p.skip
      match ← p.peek with
      | .value | .flowEntry | .flowMapEnd => p.emptyThen .flowValue
      | _ => (p.putOff .flowValue).flowNode
    | .flowMapEnd => return (.mapEnd, p.skip.resume)
    | _ => (p.putOff .flowEmptyValue).flowNode

def flowValue (p : Parser) : Step := do
  match ← p.peek with
  | .value =>
    let p := p.skip
    match ← p.peek with
    | .flowEntry | .flowMapEnd => p.emptyThen (.flowKey false)
    | _ => (p.putOff (.flowKey false)).flowNode
  | _ => p.emptyThen (.flowKey false)

def flowEmptyValue (p : Parser) : Step := do
  let _ ← p.peek
  p.emptyThen (.flowKey false)

def step (p : Parser) : Step :=
  match p.now with
  | .firstDocument => p.firstDocument
  | .document => p.document
  | .documentContent => p.documentContent
  | .documentEnd => p.documentEnd
  | .blockNode => p.blockNode
  | .blockEntry => p.blockEntry
  | .indentlessEntry => p.indentlessEntry
  | .blockKey => p.blockKey
  | .blockValue => p.blockValue
  | .flowEntry first => p.flowEntry first
  | .pairKey => p.pairKey
  | .pairValue => p.pairValue
  | .pairEnd => p.pairEnd
  | .flowKey first => p.flowKey first
  | .flowValue => p.flowValue
  | .flowEmptyValue => p.flowEmptyValue

/-- Events up to the end or to a fault. Between two tokens there are at most four events. -/
def run : (fuel : Nat) → Parser → List Event × Option Fault
  | 0, _ => ([], some .grammar)
  | fuel + 1, p =>
    match p.step with
    | .error fault => ([], some fault)
    | .ok (.streamEnd, _) => ([.streamEnd], none)
    | .ok (event, p) =>
      let (rest, fault) := run fuel p
      (event :: rest, fault)

end Parser

def eventsOf (tokens : List Token) (fault : Option Fault) : List Event × Option Fault :=
  Parser.run (4 * tokens.length + 8) ⟨tokens, fault, .firstDocument, [], defaultHandles⟩

end Guildhall.Yaml
