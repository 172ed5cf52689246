import EnergyAudit.Parsing.Fragment

/-!
# The stack of readings

Where a text can be read in several ways the parser follows all of them at once.  Each way is a
*version* of its stack; versions share what they have in common, so the stacks together form a
graph whose vertices point down to those below them.

## Main definitions

* `Vertex`, `Link` — the graph.
* `Version` — a top of the stack.
* `Stack.push`, `Stack.merge?`, `Stack.popCount` — growing, joining and shrinking versions.
-/

namespace EnergyAudit.Parsing

open EnergyAudit.Grammar

/-- A way down from a vertex, over a fragment or over nothing. -/
structure Link (σ : Type) where
  target : Nat
  fragment : Option (Fragment σ)

/-- A vertex: a state of the parser at a place in the text. -/
structure Vertex (σ : Type) where
  state : Nat
  links : Array (Link σ)
  place : Extent
  cost : Nat
  nodeCount : Nat
  preference : Int

instance {σ : Type} : Inhabited (Vertex σ) := ⟨⟨0, #[], .zero, 0, 0, 0⟩⟩

/-- A place further down in the stack to which error recovery may return. -/
structure Landmark where
  place : Extent
  depth : Nat
  state : Nat

/-- What a version is doing. -/
inductive Status (σ : Type) where
  | active
  /-- It cannot go on with the token that comes next. -/
  | paused (next : Fragment σ)
  | halted

/-- A version of the stack. -/
structure Version (σ : Type) where
  /-- The vertex at its top. -/
  vertex : Nat
  /-- The number of nodes when it last met an error. -/
  nodesAtError : Nat
  /-- The state of the layout scanner, once it has found any token. -/
  layout : Option σ
  status : Status σ
  /-- Where error recovery may return to. -/
  landmarks : Option (Array Landmark)

instance {σ : Type} : Inhabited (Version σ) := ⟨⟨0, 0, none, .halted, none⟩⟩

namespace Version

variable {σ : Type} (v : Version σ)

/-- Whether it goes on. -/
def isActive : Bool := match v.status with
  | .active => true
  | _ => false

/-- Whether it waits for error recovery. -/
def isPaused : Bool := match v.status with
  | .paused _ => true
  | _ => false

/-- Whether it has ended. -/
def isHalted : Bool := match v.status with
  | .halted => true
  | _ => false

end Version

/-- All versions. -/
structure Stack (σ : Type) where
  vertices : Array (Vertex σ)
  versions : Array (Version σ)

/-- Fragments taken off a version, and the version that remains. -/
structure Slice (σ : Type) where
  fragments : List (Fragment σ)
  version : Nat

/-- A way that is being followed down from the top. -/
structure Walk (σ : Type) where
  vertex : Nat
  /-- The fragments on the way, in the order of the text. -/
  fragments : List (Fragment σ)
  /-- The number of fragments on the way that are parts of a rule. -/
  count : Nat

/-- What to do with a walk. -/
structure Verdict where
  /-- Whether the fragments on the way are taken off. -/
  take : Bool
  /-- Whether the walk ends. -/
  stop : Bool

/-- The number of links that a vertex has at most. -/
def linkLimit : Nat := 8

/-- The number of walks that are followed at once at most. -/
def walkLimit : Nat := 64

namespace Stack

variable {σ : Type}

/-- The stack before the text is read. -/
def initial : Stack σ where
  vertices := #[{ (default : Vertex σ) with state := startState }]
  versions := #[⟨0, 0, none, .active, none⟩]

variable (s : Stack σ)

/-- The vertex with a number. -/
def vertex (number : Nat) : Vertex σ := s.vertices[number]?.getD default

/-- The version with a number. -/
def version (v : Nat) : Version σ := s.versions[v]?.getD default

/-- The vertex at the top of a version. -/
def top (v : Nat) : Vertex σ := s.vertex (s.version v).vertex

/-- The number of versions. -/
def size : Nat := s.versions.size

/-! ### Versions -/

/-- Changes a version. -/
def modify (v : Nat) (change : Version σ → Version σ) : Stack σ :=
  { s with versions := s.versions.modify v change }

/-- Drops a version. -/
def remove (v : Nat) : Stack σ := { s with versions := s.versions.eraseIdxIfInBounds v }

/-- Ends a version. -/
def halt (v : Nat) : Stack σ := s.modify v fun version => { version with status := .halted }

/-- Exchanges two versions. -/
def swap (v w : Nat) : Stack σ := { s with versions := s.versions.swapIfInBounds v w }

/-- Moves a version to the place of another, whose landmarks it takes over if it has none. -/
def replace (v w : Nat) : Stack σ :=
  if v == w then s
  else
    let moved := s.version v
    let landmarks := moved.landmarks.or (s.version w).landmarks
    { s with versions :=
        (s.versions.setIfInBounds w { moved with landmarks }).eraseIdxIfInBounds v }

/-- Adds a copy of a version at the end. -/
def copy (v : Nat) : Stack σ :=
  { s with versions := s.versions.push { s.version v with landmarks := none } }

/-! ### Growing -/

/-- Puts a fragment, or nothing, and a state on top of a version. -/
def push (v : Nat) (fragment : Option (Fragment σ)) (state : Nat) : Stack σ :=
  let below := (s.version v).vertex
  let old := s.vertex below
  let number := s.vertices.size
  match fragment with
  | some f =>
    let vertex : Vertex σ :=
      { state
        links := #[⟨below, fragment⟩]
        place := old.place + f.extent
        cost := old.cost + f.cost
        nodeCount := old.nodeCount + f.nodeCount
        preference := old.preference + f.preference }
    { s with
      vertices := s.vertices.push vertex
      versions := s.versions.modify v fun version => { version with vertex := number } }
  | none =>
    let vertex : Vertex σ := { old with state, links := #[⟨below, none⟩] }
    { s with
      vertices := s.vertices.push vertex
      versions := s.versions.modify v fun version =>
        { version with vertex := number, nodesAtError := vertex.nodeCount } }

/-! ### Joining -/

variable [BEq σ]

/-- Whether two fragments are interchangeable for all that follows. -/
def interchangeable : Option (Fragment σ) → Option (Fragment σ) → Bool
  | none, none => true
  | some a, some b =>
    let layoutOf (f : Fragment σ) : Option σ := if f.isLeaf then f.layout else none
    a.symbol == b.symbol &&
      ((a.cost > 0 && b.cost > 0) ||
        (a.padding.bytes == b.padding.bytes && a.size.bytes == b.size.bytes &&
          a.children.size == b.children.size && a.isExtra == b.isExtra &&
          layoutOf a == layoutOf b))
  | _, _ => false

/-- The preference that a link adds to what is below it. -/
def linkPreference (link : Link σ) : Int :=
  (s.vertex link.target).preference + (link.fragment.map Fragment.preference).getD 0

/-- Raises the preference of a vertex. -/
def raisePreference (number : Nat) (preference : Int) : Stack σ :=
  { s with vertices := s.vertices.modify number fun v =>
      { v with preference := max v.preference preference } }

/-- Adds a link to a vertex.  Links over interchangeable fragments are one: the preferred fragment
is kept, and links to different vertices that look alike are joined further down. -/
def addLink : Nat → Nat → Link σ → Stack σ → Stack σ
  | 0, _, _, s => s
  | fuel + 1, number, link, s =>
    if link.target == number then s
    else
      let self := s.vertex number
      let target := s.vertex link.target
      let alike := self.links.findIdx? fun old =>
        interchangeable old.fragment link.fragment &&
          (old.target == link.target ||
            (let other := s.vertex old.target
             other.state == target.state && other.place.bytes == target.place.bytes &&
               other.cost == target.cost))
      match alike with
      | some place =>
        let old := self.links[place]?.getD ⟨number, none⟩
        if old.target == link.target then
          let preferenceOf (l : Link σ) : Int := (l.fragment.map Fragment.preference).getD 0
          if preferenceOf link > preferenceOf old then
            let changed := { self with
              links := self.links.setIfInBounds place { old with fragment := link.fragment }
              preference := target.preference + preferenceOf link }
            { s with vertices := s.vertices.setIfInBounds number changed }
          else s
        else
          let s := target.links.foldl (fun s l => addLink fuel old.target l s) s
          s.raisePreference number (s.linkPreference link)
      | none =>
        if linkLimit ≤ self.links.size then s
        else
          let nodeCount := target.nodeCount + (link.fragment.map Fragment.nodeCount).getD 0
          let changed := { self with
            links := self.links.push link
            nodeCount := max self.nodeCount nodeCount
            preference := max self.preference (s.linkPreference link) }
          { s with vertices := s.vertices.setIfInBounds number changed }

/-- Whether two versions are at the same point, whatever they have read before. -/
def canMerge (v w : Nat) : Bool :=
  let a := s.version v
  let b := s.version w
  let x := s.vertex a.vertex
  let y := s.vertex b.vertex
  a.isActive && b.isActive && x.state == y.state && x.place.bytes == y.place.bytes &&
    x.cost == y.cost && a.layout == b.layout

/-- Joins the second version to the first, if they are at the same point. -/
def merge? (v w : Nat) : Option (Stack σ) :=
  if !s.canMerge v w then none
  else
    let number := (s.version v).vertex
    let links := (s.top w).links
    let s := links.foldl (fun s link => addLink s.vertices.size number link s) s
    let joined := s.vertex number
    let s := if joined.state == errorState then
        s.modify v fun version => { version with nodesAtError := joined.nodeCount }
      else s
    some (s.remove w)

/-! ### Shrinking -/

omit [BEq σ]

/-- The walk over a link. -/
def step (walk : Walk σ) (link : Link σ) : Walk σ :=
  match link.fragment with
  | none => { walk with vertex := link.target, count := walk.count + 1 }
  | some f =>
    { vertex := link.target
      fragments := f :: walk.fragments
      count := if f.isExtra then walk.count else walk.count + 1 }

/-- Adds a slice with what remains of version `v`.  Slices with the same remains share a version
and stand together. -/
def addSlice (v number : Nat) (fragments : List (Fragment σ)) (slices : Array (Slice σ))
    (s : Stack σ) : Array (Slice σ) × Stack σ :=
  let same := (List.range slices.size).reverse.find? fun place =>
    match slices[place]? with
    | some slice => (s.version slice.version).vertex == number
    | none => false
  match same with
  | some place =>
    let version := (slices[place]?.map Slice.version).getD 0
    (slices.insertIdxIfInBounds (place + 1) ⟨fragments, version⟩, s)
  | none =>
    let version := { s.version v with vertex := number, status := .active, landmarks := none }
    (slices.push ⟨fragments, s.versions.size⟩, { s with versions := s.versions.push version })

/-- One step of all walks.  `visit` judges each walk in its turn.  Where ways part the first one is
followed by the walk itself and the others by new ones at the end. -/
def walkOn {α : Type} (v : Nat) (visit : α → Walk σ → α × Verdict) :
    List (Walk σ) → Array (Walk σ) → Array (Walk σ) → α → Array (Slice σ) → Stack σ →
      List (Walk σ) × α × Array (Slice σ) × Stack σ
  | [], kept, fresh, a, slices, s => ((kept ++ fresh).toList, a, slices, s)
  | walk :: rest, kept, fresh, a, slices, s =>
    let links := (s.vertex walk.vertex).links
    let (a, verdict) := visit a walk
    let (slices, s) :=
      if verdict.take then addSlice v walk.vertex walk.fragments slices s else (slices, s)
    match links[0]? with
    | none => walkOn v visit rest kept fresh a slices s
    | some first =>
      if verdict.stop then walkOn v visit rest kept fresh a slices s
      else
        let others := kept.size + rest.length + 1
        let fresh := if links.size == 1 then fresh else
          (links.extract 1 links.size).foldl (fun fresh link =>
            if others + fresh.size < walkLimit then fresh.push (step walk link) else fresh) fresh
        walkOn v visit rest (kept.push (step walk first)) fresh a slices s

/-- Follows walks until all have ended.  No walk is longer than there are vertices. -/
def walkAll {α : Type} (v : Nat) (visit : α → Walk σ → α × Verdict) :
    Nat → List (Walk σ) → α → Array (Slice σ) → Stack σ → α × Array (Slice σ) × Stack σ
  | 0, _, a, slices, s => (a, slices, s)
  | _ + 1, [], a, slices, s => (a, slices, s)
  | fuel + 1, walks, a, slices, s =>
    let (walks, a, slices, s) := walkOn v visit walks #[] #[] a slices s
    walkAll v visit fuel walks a slices s

/-- Follows all ways down from the top of a version. -/
def descend {α : Type} (v : Nat) (visit : α → Walk σ → α × Verdict) (a : α) :
    α × Array (Slice σ) × Stack σ :=
  walkAll v visit (s.vertices.size + 1) [⟨(s.version v).vertex, [], 0⟩] a #[] s

/-- Takes so many parts of a rule off a version, in every possible way. -/
def popCount (v count : Nat) : Array (Slice σ) × Stack σ :=
  (s.descend v (fun (a : Unit) walk => (a, let done := walk.count == count; ⟨done, done⟩)) ()).2

/-- Takes everything off a version. -/
def popAll (v : Nat) : Array (Slice σ) × Stack σ :=
  (s.descend v (fun (a : Unit) walk =>
    (a, ⟨(s.vertex walk.vertex).links.isEmpty, false⟩)) ()).2

/-- Takes the text outside the language off the top of a version, if there is some. -/
def popError (v : Nat) : List (Fragment σ) × Stack σ :=
  let hasError := (s.top v).links.any fun link => (link.fragment.map Fragment.isError).getD false
  if !hasError then ([], s)
  else
    let (_, slices, popped) := s.descend v (fun (found : Bool) walk =>
      match walk.fragments.getLast? with
      | none => (found, ⟨false, false⟩)
      | some f => if !found && f.isError then (true, ⟨true, true⟩) else (found, ⟨false, true⟩))
      false
    match slices[0]? with
    | none => ([], popped)
    | some slice => (slice.fragments, popped.replace slice.version v)

/-- Notes where error recovery may return to, down to some depth. -/
def recordLandmarks (v depth : Nat) : Stack σ :=
  let (found, _, _) := s.descend v (fun (found : Array Landmark) walk =>
    let vertex := s.vertex walk.vertex
    if walk.count > depth then (found, ⟨false, true⟩)
    else
      let known := (found.toList.reverse.takeWhile fun l => walk.count ≤ l.depth).any fun l =>
        l.depth == walk.count && l.state == vertex.state
      (if known then found else found.push ⟨vertex.place, walk.count, vertex.state⟩,
        ⟨false, false⟩)) #[]
  s.modify v fun version => { version with landmarks := some found }

/-! ### Comparing versions -/

/-- The cost of the errors in a version, with that of the error it has just met. -/
def errorCost (v : Nat) : Nat :=
  let version := s.version v
  let vertex := s.vertex version.vertex
  let isNew := vertex.state == errorState &&
    ((vertex.links[0]?.map fun link => link.fragment.isNone).getD true)
  vertex.cost + (if version.isPaused || isNew then recoveryCost else 0)

/-- The number of nodes that a version has read since it last met an error. -/
def nodesSinceError (v : Nat) : Nat := (s.top v).nodeCount - (s.version v).nodesAtError

/-- Lowers the count of nodes at the last error to the present one. -/
def settle (v : Nat) : Stack σ :=
  let count := (s.top v).nodeCount
  if count < (s.version v).nodesAtError then
    s.modify v fun version => { version with nodesAtError := count }
  else s

/-- Whether some text without errors has been read on the way down to the last error. -/
def advancedFrom (nodesAtError : Nat) : Nat → Vertex σ → Bool
  | 0, _ => false
  | fuel + 1, vertex =>
    match vertex.links[0]? with
    | none => false
    | some link => match link.fragment with
      | none => false
      | some f =>
        if f.extent.bytes > 0 then true
        else if vertex.nodeCount > nodesAtError && f.cost == 0 then
          advancedFrom nodesAtError fuel (s.vertex link.target)
        else false

/-- Whether a version has got on since it last met an error. -/
def hasAdvanced (v : Nat) : Bool :=
  let top := s.top v
  top.cost == 0 || s.advancedFrom (s.version v).nodesAtError s.vertices.size top

end Stack

end EnergyAudit.Parsing
