import EnergyAudit.Yaml.TokenQueue

/-!
# Documents

A document is a node: a scalar, a sequence, a mapping, or a name that stands for a node elsewhere.
Where the text stops making sense the nodes that were begun are kept as far as they go.

## Main definitions

* `Node` — a node with its place and its tag.
* `Document` — the first document of a text, with what its names stand for.
* `Document.ofText` — reads it.
-/

namespace EnergyAudit.Yaml

/-- A part of a document. -/
inductive Node where
  | scalar (place : Place) (tag : Option String) (scalar : Scalar)
  | sequence (place : Place) (tag : Option String) (items : List Node)
  /-- A mapping, whose keys and values alternate. -/
  | mapping (place : Place) (tag : Option String) (parts : List Node)
  /-- A name, by the number of what it stands for. -/
  | reference (place : Place) (number : Nat)
  /-- Nothing: the text stops here. -/
  | broken
deriving Inhabited

/-- Why a text is not a document. -/
inductive DocumentProblem where
  | unreadable (problem : SyntaxProblem)
  | unknownName (place : Place)

/-- The first document of a text. -/
structure Document where
  /-- The node; none if the text holds no document. -/
  root : Option Node
  /-- Where the node stands that has a number. -/
  numbered : List (Nat × Place)
  /-- The nodes that have been given names, by where they stand. -/
  named : List (Place × Node)
  /-- How many nodes there are, counting the end of each sequence and mapping. -/
  size : Nat
  problem : Option DocumentProblem
  /-- Whether the text goes on behind the document. -/
  hasMore : Bool

/-- The node that a name stands for. -/
def Document.target? (d : Document) (number : Nat) : Option Node := do
  let place ← d.numbered.lookup number
  d.named.lookup place

/-! ### Building nodes -/

/-- What has been read of a document. -/
structure Composition where
  queue : TokenQueue
  /-- What the handles of tags stand for. -/
  handles : List (String × String)
  /-- The numbers of names. -/
  names : List (String × Nat)
  numbered : List (Nat × Place)
  named : List (Place × Node)
  size : Nat
  problem : Option DocumentProblem

namespace Composition

/-- Stops at a problem. -/
def stop (s : Composition) (p : SyntaxProblem) : Composition :=
  { s with problem := some (.unreadable p) }

/-- The next token, unless reading it fails. -/
def peek (s : Composition) : Option Token × Composition :=
  match s.queue.peek with
  | .ok (t, queue) => (some t, { s with queue := queue })
  | .error e => (none, s.stop e)

/-- Passes the token that has been looked at. -/
def drop (s : Composition) : Composition := { s with queue := s.queue.drop }

/-- Counts a node, or the end of one. -/
def count (s : Composition) : Composition := { s with size := s.size + 1 }

/-- Gives a name to the node that starts at a place.  Its number is how many names there are, so
that giving a name again makes the next name share a number. -/
def giveName (s : Composition) (name : Option String) (place : Place) : Composition :=
  match name with
  | none => s
  | some name =>
    let number := s.names.length
    { s with
      names := (name, number) :: s.names.filter (·.1 != name)
      numbered := (number, place) :: s.numbered }

/-- Keeps a node that has been given a name. -/
def keepNamed (s : Composition) (name : Option String) (place : Place) (node : Node) :
    Composition :=
  if name.isSome then { s with named := (place, node) :: s.named } else s

end Composition

/-- An empty plain scalar. -/
def emptyScalar (place : Place) (tag : Option String) : Node := .scalar place tag ⟨"", .plain⟩

/-- Counts an empty scalar that nothing stands for. -/
def leaveEmpty (place : Place) (s : Composition) : Node × Composition :=
  (emptyScalar place none, s.count)

/-! ### Properties -/

/-- What is said of a node before it. -/
structure Properties where
  start : Place
  name : Option String
  /-- The handle of the tag, the rest of it, and its place. -/
  tag : Option (String × String × Place)

/-- Reads properties behind those that are given, each at most once.  Gives the token behind them
too. -/
def readProperties : Nat → Properties → Token → Composition →
    Option (Properties × Token) × Composition
  | 0, p, t, s => (some (p, t), s)
  | fuel + 1, p, t, s =>
    let more (p : Properties) : Option (Properties × Token) × Composition :=
      match s.drop.peek with
      | (none, s) => (none, s)
      | (some t, s) => readProperties fuel p t s
    match t.kind, p.name, p.tag with
    | .anchor name, none, _ => more { p with name := some name }
    | .tag handle suffix, _, none => more { p with tag := some (handle, suffix, t.start) }
    | _, _, _ => (some (p, t), s)

/-- The whole tag of a node. -/
def Properties.fullTag (p : Properties) (handles : List (String × String)) :
    Except SyntaxProblem (Option String) :=
  match p.tag with
  | none => .ok none
  | some (handle, suffix, place) =>
    if handle.isEmpty then .ok (some suffix)
    else match handles.lookup handle with
      | some expansion => .ok (some (expansion ++ suffix))
      | none => .error (.within "while parsing a node" p.start place "found undefined tag handle")

/-! ### Nodes -/

/-- What is being read. -/
inductive Part where
  /-- A node.  In a block it may be one that is shown by indentation, and a sequence that does not
  stand deeper than what is around it. -/
  | node (inBlock isUnindented : Bool)
  /-- Items behind dashes. -/
  | blockItems (start : Place)
  /-- Items behind dashes that do not stand deeper. -/
  | unindentedItems
  /-- Keys and values in lines. -/
  | blockKeys (start : Place)
  | blockValue (start : Place)
  /-- Items in square brackets. -/
  | flowItems (start : Place) (isFirst : Bool)
  /-- A key and a value that are an item in square brackets. -/
  | pairKey
  | pairValue
  /-- Keys and values in curly brackets. -/
  | flowKeys (start : Place) (isFirst : Bool)
  | flowValue (start : Place)

/-- Reads a part of a document.  A node is given alone, of everything else the nodes up to its
end. -/
def compose : Nat → Part → Composition → List Node × Composition
  | 0, _, s => ([.broken], s)
  | fuel + 1, part, s =>
    -- A node and what follows it.
    let nodeThen (node : Part) (next : Part) (s : Composition) : List Node × Composition :=
      let (first, s) := compose fuel node s
      if s.problem.isSome then (first, s)
      else
        let (others, s) := compose fuel next s
        (first ++ others, s)
    -- An empty scalar and what follows it.
    let emptyThen (place : Place) (next : Part) (s : Composition) : List Node × Composition :=
      let (first, s) := leaveEmpty place s
      let (others, s) := compose fuel next s
      (first :: others, s)
    let blockNode : Part := .node true false
    let blockMember : Part := .node true true
    let flowNode : Part := .node false false
    let failed (e : SyntaxProblem) (s : Composition) : List Node × Composition :=
      ([.broken], s.stop e)
    -- What follows the token that is passed, unless that cannot be read.
    let behind (s : Composition) (k : Token → Composition → List Node × Composition) :
        List Node × Composition :=
      match s.drop.peek with
      | (none, s) => ([.broken], s)
      | (some t, s) => k t s
    match s.peek with
    | (none, s) => ([.broken], s)
    | (some t, s) =>
      match part with
      | .node inBlock isUnindented =>
        match t.kind with
        | .reference name =>
          match s.names.lookup name with
          | some number => ([.reference t.start number], s.drop.count)
          | none => ([.broken], { s with problem := some (.unknownName t.start) })
        | _ =>
          match readProperties 2 ⟨t.start, none, none⟩ t s with
          | (none, s) => ([.broken], s)
          | (some (p, t), s) =>
            match p.fullTag s.handles with
            | .error e => failed e s
            | .ok tag =>
              let collection (isMapping : Bool) (inner : Part) (s : Composition) :
                  List Node × Composition :=
                let (parts, s) := compose fuel inner (s.giveName p.name p.start).count
                let node := if isMapping then Node.mapping p.start tag parts
                  else .sequence p.start tag parts
                ([node], s.keepNamed p.name p.start node)
              let leaf (tag : Option String) (scalar : Scalar) (s : Composition) :
                  List Node × Composition :=
                let node := Node.scalar p.start tag scalar
                ([node], ((s.giveName p.name p.start).count).keepNamed p.name p.start node)
              match t.kind with
              | .blockEntry =>
                if isUnindented then collection false .unindentedItems s
                else if p.name.isSome || tag.isSome then leaf tag ⟨"", .plain⟩ s
                else failed (.within (if inBlock then "while parsing a block node"
                  else "while parsing a flow node") p.start t.start
                  "did not find expected node content") s
              | .scalar scalar => leaf (if tag == some "!" then none else tag) scalar s.drop
              | .flowSequenceStart => collection false (.flowItems t.start true) s.drop
              | .flowMappingStart => collection true (.flowKeys t.start true) s.drop
              | kind =>
                if inBlock && kind == .blockSequenceStart then
                  collection false (.blockItems t.start) s.drop
                else if inBlock && kind == .blockMappingStart then
                  collection true (.blockKeys t.start) s.drop
                else if p.name.isSome || tag.isSome then leaf tag ⟨"", .plain⟩ s
                else failed (.within (if inBlock then "while parsing a block node"
                  else "while parsing a flow node") p.start t.start
                  "did not find expected node content") s
      | .blockItems start =>
        match t.kind with
        | .blockEntry => behind s fun next s =>
          match next.kind with
          | .blockEntry | .blockEnd => emptyThen t.stop (.blockItems start) s
          | _ => nodeThen blockNode (.blockItems start) s
        | .blockEnd => ([], s.drop.count)
        | _ => failed (.within "while parsing a block collection" start t.start
            "did not find expected '-' indicator") s
      | .unindentedItems =>
        match t.kind with
        | .blockEntry => behind s fun next s =>
          match next.kind with
          | .blockEntry | .key | .value | .blockEnd => emptyThen t.stop .unindentedItems s
          | _ => nodeThen blockNode .unindentedItems s
        | _ => ([], s.count)
      | .blockKeys start =>
        match t.kind with
        | .key => behind s fun next s =>
          match next.kind with
          | .key | .value | .blockEnd => emptyThen t.stop (.blockValue start) s
          | _ => nodeThen blockMember (.blockValue start) s
        | .blockEnd => ([], s.drop.count)
        | _ => failed (.within "while parsing a block mapping" start t.start
            "did not find expected key") s
      | .blockValue start =>
        match t.kind with
        | .value => behind s fun next s =>
          match next.kind with
          | .key | .value | .blockEnd => emptyThen t.stop (.blockKeys start) s
          | _ => nodeThen blockMember (.blockKeys start) s
        | _ => emptyThen t.start (.blockKeys start) s
      | .flowItems start isFirst =>
        let item (t : Token) (s : Composition) : List Node × Composition :=
          match t.kind with
          | .key =>
            let (pair, s) := compose fuel .pairKey s.drop.count
            let node := Node.mapping t.start none pair
            if s.problem.isSome then ([node], s)
            else
              let (others, s) := compose fuel (.flowItems start false) s
              (node :: others, s)
          | .flowSequenceEnd => ([], s.drop.count)
          | _ => nodeThen flowNode (.flowItems start false) s
        match t.kind with
        | .flowSequenceEnd => ([], s.drop.count)
        | .flowEntry => if isFirst then item t s else behind s item
        | _ =>
          if isFirst then item t s
          else failed (.within "while parsing a flow sequence" start t.start
            "did not find expected ',' or ']'") s
      | .pairKey =>
        match t.kind with
        | .value | .flowEntry | .flowSequenceEnd =>
          -- The mark is passed, so that a value behind it is not found.
          emptyThen t.stop .pairValue s.drop
        | _ => nodeThen flowNode .pairValue s
      | .pairValue =>
        match t.kind with
        | .value => behind s fun next s =>
          match next.kind with
          | .flowEntry | .flowSequenceEnd =>
            ([emptyScalar next.start none], s.count.count)
          | _ =>
            let (first, s) := compose fuel flowNode s
            if s.problem.isSome then (first, s)
            else match s.peek with
              | (none, s) => (first ++ [.broken], s)
              | (some _, s) => (first, s.count)
        | _ => ([emptyScalar t.start none], s.count.count)
      | .flowKeys start isFirst =>
        let member (t : Token) (s : Composition) : List Node × Composition :=
          match t.kind with
          | .key => behind s fun next s =>
            match next.kind with
            | .value | .flowEntry | .flowMappingEnd =>
              emptyThen next.start (.flowValue start) s
            | _ => nodeThen flowNode (.flowValue start) s
          | .flowMappingEnd => ([], s.drop.count)
          | _ =>
            let (first, s) := compose fuel flowNode s
            if s.problem.isSome then (first, s)
            else match s.peek with
              | (none, s) => (first ++ [.broken], s)
              | (some next, s) =>
                let (others, s) := emptyThen next.start (.flowKeys start false) s
                (first ++ others, s)
        match t.kind with
        | .flowMappingEnd => ([], s.drop.count)
        | .flowEntry => if isFirst then member t s else behind s member
        | _ =>
          if isFirst then member t s
          else failed (.within "while parsing a flow mapping" start t.start
            "did not find expected ',' or '\x7d'") s
      | .flowValue start =>
        match t.kind with
        | .value => behind s fun next s =>
          match next.kind with
          | .flowEntry | .flowMappingEnd => emptyThen next.start (.flowKeys start false) s
          | _ => nodeThen flowNode (.flowKeys start false) s
        | _ => emptyThen t.start (.flowKeys start false) s

/-! ### Documents -/

/-- Reads directives before a document, with the version if one has been named. -/
def readDirectives : Nat → Bool → List (String × String) → Token → Composition →
    Option (List (String × String) × Token) × Composition
  | 0, _, handles, t, s => (some (handles, t), s)
  | fuel + 1, hasVersion, handles, t, s =>
    let more (hasVersion : Bool) (handles : List (String × String)) :
        Option (List (String × String) × Token) × Composition :=
      match s.drop.peek with
      | (none, s) => (none, s)
      | (some t, s) => readDirectives fuel hasVersion handles t s
    match t.kind with
    | .versionDirective major minor =>
      if hasVersion then (none, s.stop (.here t.start "found duplicate %YAML directive"))
      else if major != 1 || (minor != 1 && minor != 2) then
        (none, s.stop (.here t.start "found incompatible YAML document"))
      else more true handles
    | .tagDirective handle expansion =>
      if (handles.lookup handle).isSome then
        (none, s.stop (.here t.start "found duplicate %TAG directive"))
      else more hasVersion ((handle, expansion) :: handles)
    | _ => (some (handles, t), s)

/-- The handles of tags that need no directive. -/
def defaultHandles : List (String × String) := [("!", "!"), ("!!", "tag:yaml.org,2002:")]

/-- Gives a document that stops at a problem, or that ends here. -/
def Composition.finish (root : Option Node) (hasMore : Bool) (s : Composition) : Document :=
  ⟨root, s.numbered, s.named, s.size, s.problem, hasMore⟩

/-- Passes the end of a document.  The text goes on unless its end is next. -/
def finishDocument (root : Node) (s : Composition) : Document :=
  if s.problem.isSome then s.finish (some root) false
  else match s.peek with
    | (none, s) => s.finish (some root) false
    | (some t, s) =>
      if t.kind == .documentEnd then
        -- A problem behind the mark belongs to what would be the next document.
        let rec afterMarks : Nat → Composition → Bool
          | 0, _ => true
          | fuel + 1, s =>
            match s.peek with
            | (none, _) => true
            | (some t, s) =>
              if t.kind == .documentEnd then afterMarks fuel s.drop else t.kind != .textEnd
        s.finish (some root) (afterMarks (s.queue.reading.rest.length + 4) s.drop)
      else s.finish (some root) (t.kind != .textEnd)

/-- Reads the content of a document behind its mark. -/
def composeContent (fuel : Nat) (s : Composition) : Document :=
  match s.peek with
  | (none, s) => s.finish (some .broken) false
  | (some t, s) =>
    match t.kind with
    | .versionDirective _ _ | .tagDirective _ _ | .documentStart | .documentEnd | .textEnd =>
      let (root, s) := leaveEmpty t.start s
      finishDocument root s
    | _ =>
      let (nodes, s) := compose fuel (.node true false) s
      finishDocument (nodes.headD .broken) s

/-- Reads the first document of a text. -/
def Document.ofText (text : String) : Document :=
  match Reading.ofText text with
  | .error e => ⟨some .broken, [], [], 0, some (.unreadable e), false⟩
  | .ok reading =>
    let fuel := 8 * reading.rest.length + 16
    let s : Composition := ⟨.ofReading reading, defaultHandles, [], [], [], 0, none⟩
    match s.peek with
    | (none, s) => s.finish (some .broken) false
    | (some t, s) =>
      match t.kind with
      | .textEnd => s.finish none false
      | .versionDirective _ _ | .tagDirective _ _ | .documentStart =>
        match readDirectives fuel false [] t s with
        | (none, s) => s.finish (some .broken) false
        | (some (handles, t), s) =>
          if t.kind == .documentStart then
            let handles := handles ++ defaultHandles
            composeContent fuel { s.drop with handles := handles }
          else (s.stop (.here t.start "did not find expected <document start>")).finish
            (some .broken) false
      | _ =>
        let (nodes, s) := compose fuel (.node true false) s
        finishDocument (nodes.headD .broken) s

end EnergyAudit.Yaml
