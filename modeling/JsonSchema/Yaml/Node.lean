import JsonSchema.Yaml.Token

/-! # The tree of a YAML document -/

namespace JsonSchema.Yaml

/-! ## Nodes -/

/-- What may stand before a node: the number of its anchor, and its tag. -/
structure Properties where
  anchor : Option Nat := none
  tag : Option (List UInt8) := none
deriving DecidableEq, Repr

namespace Properties

def isEmpty (p : Properties) : Bool := p.anchor.isNone && p.tag.isNone

end Properties

inductive Node where
  | aliasOf (anchor : Nat)
  | scalar (properties : Properties) (text : String) (plain : Bool)
  | sequence (properties : Properties) (items : List Node)
  | mapping (properties : Properties) (entries : List (Node × Node))

namespace Node

def empty (p : Properties) : Node := scalar p "" true

def properties : Node → Properties
  | aliasOf _ => {}
  | scalar p _ _ => p
  | sequence p _ => p
  | mapping p _ => p

end Node

/-! ## Open collections -/

/-- Where an open mapping stands. -/
inductive Phase where
  /-- A key or the end comes next. -/
  | next
  /-- The key is being read, after its mark. -/
  | key
  /-- A value may follow the key. -/
  | colon (key : Node)
  /-- The value is being read. -/
  | value (key : Node)
  /-- A key without a mark is being read; it has no value. -/
  | bare

/-- What is open. Items and entries stand in reverse order. -/
inductive Frame where
  /-- The node of the document is being read. -/
  | document (marked : Bool)
  | finished (node : Node)
  | blockSequence (p : Properties) (items : List Node)
  /-- A sequence without indentation of its own, in a mapping. -/
  | innerSequence (p : Properties) (items : List Node)
  | blockMapping (p : Properties) (entries : List (Node × Node)) (phase : Phase)
  /-- An item may follow at once, or only after a comma. -/
  | flowSequence (p : Properties) (items : List Node) (ready : Bool)
  | flowMapping (p : Properties) (entries : List (Node × Node)) (phase : Phase) (ready : Bool)
  /-- A mapping of one entry, as an item of a flow sequence. -/
  | pair (phase : Phase)
  /-- A node is due, after properties that are already read. -/
  | due (p : Properties)

/-- What is open, innermost first. -/
abbrev Frames := List Frame

namespace Frames

/-- Puts a finished node into the collection that waits for it. -/
def deliver? (n : Node) : Frames → Option Frames
  | .document _ :: fs => some (.finished n :: fs)
  | .blockSequence p items :: fs => some (.blockSequence p (n :: items) :: fs)
  | .innerSequence p items :: fs => some (.innerSequence p (n :: items) :: fs)
  | .flowSequence p items _ :: fs => some (.flowSequence p (n :: items) false :: fs)
  | .blockMapping p entries .key :: fs => some (.blockMapping p entries (.colon n) :: fs)
  | .blockMapping p entries (.value k) :: fs =>
    some (.blockMapping p ((k, n) :: entries) .next :: fs)
  | .flowMapping p entries .key _ :: fs => some (.flowMapping p entries (.colon n) false :: fs)
  | .flowMapping p entries (.value k) _ :: fs =>
    some (.flowMapping p ((k, n) :: entries) .next false :: fs)
  | .flowMapping p entries .bare _ :: fs =>
    some (.flowMapping p ((n, .empty {}) :: entries) .next false :: fs)
  | .pair .key :: fs => some (.pair (.colon n) :: fs)
  | .pair (.value k) :: fs => deliver? (.mapping {} [(k, n)]) fs
  | _ => none

/-! ## Nodes that are due -/

/-- Block collections may stand in the innermost frame. -/
def admitsBlock : Frames → Bool
  | .document _ :: _ | .blockSequence _ _ :: _ | .innerSequence _ _ :: _ => true
  | .blockMapping _ _ _ :: _ => true
  | _ => false

/-- A sequence may stand in the innermost frame without indentation of its own. -/
def admitsInner : Frames → Bool
  | .blockMapping _ _ _ :: _ => true
  | _ => false

/-- A token before which a node that is due and has no properties is empty. -/
def leavesEmpty (fs : Frames) (t : Token) : Bool :=
  match fs, t with
  | .document true :: _, .directive _ | .document true :: _, .documentStart => true
  | .document true :: _, .documentEnd | .document true :: _, .streamEnd => true
  | .blockSequence _ _ :: _, .blockEntry | .blockSequence _ _ :: _, .blockEnd => true
  | .innerSequence _ _ :: _, .blockEntry | .innerSequence _ _ :: _, .blockEnd => true
  | .innerSequence _ _ :: _, .key | .innerSequence _ _ :: _, .value => true
  | .blockMapping _ _ _ :: _, .key | .blockMapping _ _ _ :: _, .value => true
  | .blockMapping _ _ _ :: _, .blockEnd => true
  | .pair (.value _) :: _, .flowEntry | .pair (.value _) :: _, .flowSequenceEnd => true
  | .flowMapping _ _ .key _ :: _, .value => true
  | .flowMapping _ _ .key _ :: _, .flowEntry | .flowMapping _ _ .key _ :: _, .flowMappingEnd => true
  | .flowMapping _ _ (.value _) _ :: _, .flowEntry => true
  | .flowMapping _ _ (.value _) _ :: _, .flowMappingEnd => true
  | _, _ => false

/-- A mark of a key that is followed by one of these tokens takes the token for its empty key. -/
def swallows (fs : Frames) (t : Token) : Bool :=
  match fs, t with
  | .pair .key :: _, .value | .pair .key :: _, .flowEntry => true
  | .pair .key :: _, .flowSequenceEnd => true
  | _, _ => false

/-- What comes of a token. -/
inductive Reply where
  | taken (frames : Frames)
  /-- The token has to be looked at once more. -/
  | again (frames : Frames)

/-- A token at a place where a node with properties is due. -/
def start? (p : Properties) (fs : Frames) (t : Token) : Option Reply :=
  if p.isEmpty && fs.leavesEmpty t then (deliver? (.empty {}) fs).map .again
  else if p.isEmpty && fs.swallows t then (deliver? (.empty {}) fs).map .taken
  else
    match t, fs.admitsBlock, fs.admitsInner with
    | .scalar text plain, _, _ =>
      (deliver? (.scalar p (String.ofList text) plain) fs).map .taken
    | .flowSequenceStart, _, _ => some (.taken (.flowSequence p [] true :: fs))
    | .flowMappingStart, _, _ => some (.taken (.flowMapping p [] .next true :: fs))
    | .blockSequenceStart, true, _ => some (.taken (.blockSequence p [] :: fs))
    | .blockMappingStart, true, _ => some (.taken (.blockMapping p [] .next :: fs))
    | .blockEntry, _, true => some (.taken (.due {} :: .innerSequence p [] :: fs))
    | _, _, _ => if p.isEmpty then none else (deliver? (.empty p) fs).map .again

/-! ## Between the parts of a collection -/

/-- In a flow collection a node without a mark may be due. -/
def opened (t : Token) : Frames → Frames
  | .flowSequence p items true :: fs =>
    if t = .key ∨ t = .flowSequenceEnd then .flowSequence p items true :: fs
    else .due {} :: .flowSequence p items true :: fs
  | .flowMapping p entries .next true :: fs =>
    if t = .key ∨ t = .flowMappingEnd then .flowMapping p entries .next true :: fs
    else .due {} :: .flowMapping p entries .bare true :: fs
  | fs => fs

def nextInSequence? (p : Properties) (items : List Node) (ready : Bool) (fs : Frames) (t : Token) :
    Option Reply :=
  match t, ready with
  | .flowSequenceEnd, _ => (deliver? (.sequence p items.reverse) fs).map .taken
  | .flowEntry, false => some (.taken (.flowSequence p items true :: fs))
  | .key, true => some (.taken (.due {} :: .pair .key :: .flowSequence p items true :: fs))
  | _, _ => none

def nextInMapping? (p : Properties) (entries : List (Node × Node)) (ready : Bool) (fs : Frames)
    (t : Token) : Option Reply :=
  match t, ready with
  | .flowMappingEnd, _ => (deliver? (.mapping p entries.reverse) fs).map .taken
  | .flowEntry, false => some (.taken (.flowMapping p entries .next true :: fs))
  | .key, true => some (.taken (.due {} :: .flowMapping p entries .key true :: fs))
  | _, _ => none

def nextInBlock? (p : Properties) (entries : List (Node × Node)) (fs : Frames) (t : Token) :
    Option Reply :=
  match t with
  | .key => some (.taken (.due {} :: .blockMapping p entries .key :: fs))
  | .blockEnd => (deliver? (.mapping p entries.reverse) fs).map .taken
  | _ => none

/-- A token that is no property of a node. -/
def reply? (t : Token) : Frames → Option Reply
  | .due p :: fs => start? p fs t
  | .finished n :: fs =>
    if t = .documentEnd ∨ t = .streamEnd then some (.taken (.finished n :: fs)) else none
  | .blockSequence p items :: fs =>
    match t with
    | .blockEntry => some (.taken (.due {} :: .blockSequence p items :: fs))
    | .blockEnd => (deliver? (.sequence p items.reverse) fs).map .taken
    | _ => none
  | .innerSequence p items :: fs =>
    match t with
    | .blockEntry => some (.taken (.due {} :: .innerSequence p items :: fs))
    | _ => (deliver? (.sequence p items.reverse) fs).map .again
  | .blockMapping p entries (.colon k) :: fs =>
    match t with
    | .value => some (.taken (.due {} :: .blockMapping p entries (.value k) :: fs))
    | _ => nextInBlock? p ((k, .empty {}) :: entries) fs t
  | .blockMapping p entries .next :: fs => nextInBlock? p entries fs t
  | .flowSequence p items ready :: fs => nextInSequence? p items ready fs t
  | .flowMapping p entries (.colon k) _ :: fs =>
    match t with
    | .value => some (.taken (.due {} :: .flowMapping p entries (.value k) false :: fs))
    | _ => nextInMapping? p ((k, .empty {}) :: entries) false fs t
  | .flowMapping p entries .next ready :: fs => nextInMapping? p entries ready fs t
  | .pair (.colon k) :: fs =>
    match t with
    | .value => some (.taken (.due {} :: .pair (.value k) :: fs))
    | _ => (deliver? (.mapping {} [(k, .empty {})]) fs).map .again
  | _ => none

end Frames

/-! ## Documents -/

/-- A document under way. -/
structure Draft where
  frames : Frames
  /-- The names of anchors and their numbers. -/
  anchors : List (List Char × Nat)
  /-- The handles of tags and what they stand for. -/
  handles : List (List Char × List UInt8)

namespace Draft

/-- The number of a new anchor is the count of the names before it, and a name that is used once
more takes the new number. -/
def anchor (d : Draft) (name : List Char) : Draft × Nat :=
  let number := d.anchors.length
  if (d.anchors.lookup name).isSome then
    let anchors := d.anchors.map fun e => if e.1 = name then (name, number) else e
    ({ d with anchors := anchors }, number)
  else ({ d with anchors := d.anchors ++ [(name, number)] }, number)

/-- The full name of a tag, if its handle is known. -/
def tagName? (d : Draft) (t : Tag) : Option (List UInt8) :=
  let rest := Tag.upToZero t.rest
  if t.handle.isEmpty then some rest
  else (d.handles.lookup t.handle).map fun lead => Tag.upToZero lead ++ rest

/-- A token before a node: a property, an alias, or the start of the node. -/
def property? (d : Draft) (p : Properties) (fs : Frames) (t : Token) : Option (Option Draft) :=
  match t, p.anchor, p.tag with
  | .anchor name, none, _ =>
    let (d, number) := d.anchor name
    some (some { d with frames := .due { p with anchor := some number } :: fs })
  | .tag tag, _, none =>
    match d.tagName? tag with
    | some name => some (some { d with frames := .due { p with tag := some name } :: fs })
    | none => none
  | .aliasOf name, none, none => do
    let frames ← Frames.deliver? (.aliasOf (← d.anchors.lookup name)) fs
    return some { d with frames := frames }
  | _, _, _ => some none

/-- One token more. A token that ends a node is looked at again with fewer frames. -/
def feed? (d : Draft) (t : Token) : Option Draft := do
  let frames := d.frames.opened t
  let taken? ← match frames with
    | .due p :: fs => d.property? p fs t
    | _ => some none
  match taken? with
  | some d => return d
  | none =>
    match ← Frames.reply? t frames with
    | .taken after => return { d with frames := after }
    | .again after =>
      if _ : after.length < d.frames.length then feed? { d with frames := after } t else none
termination_by d.frames.length

end Draft

/-! ## Directives -/

structure Directives where
  version : Bool
  handles : List (List Char × List UInt8)

/-- A version is given once, and it is 1.1 or 1.2; a handle is given once. -/
def Directives.add? (ds : Directives) : Directive → Option Directives
  | .version major minor =>
    if ds.version || major != 1 || (minor != 1 && minor != 2) then none
    else some { ds with version := true }
  | .tag handle lead =>
    if (ds.handles.lookup handle).isSome then none
    else some { ds with handles := ds.handles ++ [(handle, lead)] }

/-- What the handles mean that no directive declares. -/
def defaultHandles : List (List Char × List UInt8) :=
  [(['!'], Tag.bytes ['!']), (['!', '!'], Tag.bytes "tag:yaml.org,2002:".toList)]

/-- The directives in front, and the tokens after them. -/
def splitDirectives : List Token → List Directive × List Token
  | .directive d :: ts => ((d :: (splitDirectives ts).1), (splitDirectives ts).2)
  | ts => ([], ts)

/-- The single document of a stream. An empty stream holds an empty node. -/
def Node.ofTokens? (ts : List Token) : Option Node := do
  let (directives, rest) := splitDirectives ts
  let ds ← directives.foldlM Directives.add? ⟨false, []⟩
  let (marked, body) ← match rest with
    | .documentStart :: body => some (true, body)
    | body => if directives.isEmpty then some (false, body) else none
  if !marked && body == [.streamEnd] then return .empty {}
  let draft : Draft := ⟨[.due {}, .document marked], [], ds.handles ++ defaultHandles⟩
  match (← body.foldlM Draft.feed? draft).frames with
  | [.finished n] => return n
  | _ => none

end JsonSchema.Yaml
