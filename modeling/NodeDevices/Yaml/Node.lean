import NodeDevices.Yaml.Token
/-! YAML documents as trees. A node may be an alias, which names an earlier node by the
number of its anchor; a text is one document and no more.
-/

namespace NodeDevices.Yaml

/-- A node of a document. -/
inductive Node where
  | scalar (tag : Option String) (plain : Bool) (text : String)
  | sequence (tag : Option String) (items : List Node)
  | mapping (tag : Option String) (pairs : List (Node × Node))
  | alias (anchor : Nat)

/-- A document: its node, if it is not empty, and the nodes that have anchors. -/
structure Document where
  root : Option Node
  anchored : List (Nat × Node) := []

/-- What reading a document has come to: the tokens left, the beginnings of tags by their
handles, the anchors so far, and the nodes that have them.
-/
structure Reader where
  tokens : List Token
  handles : List (String × String) := []
  anchors : List (String × Nat) := []
  anchored : List (Nat × Node) := []

namespace Reader

/-- What stands before a node: its anchor and its tag. -/
structure Properties where
  anchor : Option String := none
  tag : Option String := none

/-- The next token. -/
def peek (reader : Reader) : Option Token :=
  reader.tokens.head?

/-- The reader without its next token. -/
def skip (reader : Reader) : Reader :=
  { reader with tokens := reader.tokens.drop 1 }

/-- Says whether the next token is one of the given ones. -/
def isAt (reader : Reader) (tokens : List Token) : Bool :=
  reader.peek.any tokens.contains

/-- The beginnings of tags that need no directive. -/
def standardHandles : List (String × String) :=
  [("!", "!"), ("!!", "tag:yaml.org,2002:")]

/-- The tag with a handle and a suffix. -/
def resolveTag? (reader : Reader) (handle suffix : String) : Option String :=
  if handle = "" then some suffix
  else ((reader.handles ++ standardHandles).lookup handle).map (· ++ suffix)

/-- Reads an anchor, if there is one. -/
def readAnchor (reader : Reader) : Option String × Reader :=
  match reader.peek with
  | some (.anchor name) => (some name, reader.skip)
  | _ => (none, reader)

/-- Reads a tag, if there is one. -/
def readTag? (reader : Reader) : Option (Option String × Reader) :=
  match reader.peek with
  | some (.tag handle suffix) => do return (some (← reader.resolveTag? handle suffix), reader.skip)
  | _ => some (none, reader)

/-- Reads an anchor and a tag, in either order and each if there is one. -/
def readProperties? (reader : Reader) : Option (Properties × Reader) := do
  let (first, reader) := reader.readAnchor
  let (tag, reader) ← reader.readTag?
  let (anchor, reader) := if first.isNone ∧ tag.isSome then reader.readAnchor else (first, reader)
  return ({ anchor, tag }, reader)

/-- Announces the anchor of a node that begins: it gets as its number how many names of
anchors there are, and the anchor's name stands for it from here on.
-/
def announce (reader : Reader) (properties : Properties) : Option Nat × Reader :=
  match properties.anchor with
  | some name =>
      let number := reader.anchors.length
      (some number,
        { reader with anchors := (name, number) :: reader.anchors.filter (·.1 ≠ name) })
  | none => (none, reader)

/-- Remembers a node that has an anchor, given how many such nodes ended before it began:
the nodes stand in the order of their beginnings, the last one first.
-/
def remember (reader : Reader) (before : Nat) (number : Option Nat) (node : Node) : Reader :=
  match number with
  | some number =>
      let within := reader.anchored.length - before
      { reader with anchored :=
          reader.anchored.take within ++ (number, node) :: reader.anchored.drop within }
  | none => reader

/-- The node of a place where nothing is written. -/
def nothing : Node :=
  .scalar none true ""

mutual
/-- Reads a node. In a block it may be a block, and where a sequence needs no indentation
also an entry of one.
-/
def node? (inBlock unindented : Bool) : Nat → Reader → Option (Node × Reader)
  | 0, _ => none
  | bound + 1, reader =>
      match reader.peek with
      | some (.alias name) => do return (.alias (← reader.anchors.lookup name), reader.skip)
      | _ => do
          let (properties, reader) ← reader.readProperties?
          let (number, reader) := reader.announce properties
          let before := reader.anchored.length
          let (node, reader) ← content? properties inBlock unindented bound reader
          return (node, reader.remember before number node)

/-- Reads what stands after the anchor and the tag of a node, which is nothing at all only
if there is one of them. The mark of a tag alone says nothing about a scalar.
-/
def content? (properties : Properties) (inBlock unindented : Bool)
    : Nat → Reader → Option (Node × Reader)
  | 0, _ => none
  | bound + 1, reader =>
      match reader.peek with
      | some (.scalar plain text) =>
          some (.scalar (properties.tag.filter (· ≠ "!")) plain text, reader.skip)
      | some .openSequence => do
          let (items, reader) ← flowItems? true bound reader.skip
          return (.sequence properties.tag items, reader)
      | some .openMapping => do
          let (pairs, reader) ← flowPairs? true bound reader.skip
          return (.mapping properties.tag pairs, reader)
      | other =>
          if unindented ∧ other = some .blockEntry then do
            let (items, reader) ← plainItems? bound reader
            return (.sequence properties.tag items, reader)
          else if inBlock ∧ other = some .blockSequence then do
            let (items, reader) ← blockItems? bound reader.skip
            return (.sequence properties.tag items, reader)
          else if inBlock ∧ other = some .blockMapping then do
            let (pairs, reader) ← blockPairs? bound reader.skip
            return (.mapping properties.tag pairs, reader)
          else if properties.anchor.isSome ∨ properties.tag.isSome then
            some (.scalar properties.tag true "", reader)
          else none

/-- Reads a node, or nothing if one of the given tokens or the end comes next. -/
def nodeUnless? (stops : List Token) (inBlock unindented : Bool)
    : Nat → Reader → Option (Node × Reader)
  | 0, _ => none
  | bound + 1, reader =>
      if reader.isAt stops then some (nothing, reader)
      else node? inBlock unindented bound reader

/-- Reads the entries of an indented sequence with their end. -/
def blockItems? : Nat → Reader → Option (List Node × Reader)
  | 0, _ => none
  | bound + 1, reader =>
      if reader.isAt [.blockEntry] then do
        let (item, reader) ← nodeUnless? [.blockEntry, .blockEnd] true false bound reader.skip
        let (items, reader) ← blockItems? bound reader
        return (item :: items, reader)
      else if reader.isAt [.blockEnd] then some ([], reader.skip)
      else none

/-- Reads the entries of a sequence without indentation, which has no end of its own. -/
def plainItems? : Nat → Reader → Option (List Node × Reader)
  | 0, _ => none
  | bound + 1, reader =>
      if reader.isAt [.blockEntry] then do
        let (item, reader) ←
          nodeUnless? [.blockEntry, .key, .value, .blockEnd] true false bound reader.skip
        let (items, reader) ← plainItems? bound reader
        return (item :: items, reader)
      else some ([], reader)

/-- Reads the pairs of an indented mapping with their end. -/
def blockPairs? : Nat → Reader → Option (List (Node × Node) × Reader)
  | 0, _ => none
  | bound + 1, reader =>
      if reader.isAt [.key] then do
        let (key, reader) ← nodeUnless? [.key, .value, .blockEnd] true true bound reader.skip
        let (value, reader) ← blockValue? bound reader
        let (pairs, reader) ← blockPairs? bound reader
        return ((key, value) :: pairs, reader)
      else if reader.isAt [.blockEnd] then some ([], reader.skip)
      else none

/-- Reads the value of a pair of an indented mapping. -/
def blockValue? : Nat → Reader → Option (Node × Reader)
  | 0, _ => none
  | bound + 1, reader =>
      if reader.isAt [.value] then
        nodeUnless? [.key, .value, .blockEnd] true true bound reader.skip
      else some (nothing, reader)

/-- Reads the items of a bracketed sequence with its end. An item may be a single pair. -/
def flowItems? (first : Bool) : Nat → Reader → Option (List Node × Reader)
  | 0, _ => none
  | bound + 1, reader =>
      if reader.isAt [.closeSequence] then some ([], reader.skip)
      else if !first ∧ !reader.isAt [.flowEntry] then none
      else
        let reader := if first then reader else reader.skip
        if reader.isAt [.closeSequence] then some ([], reader.skip)
        else do
          let (item, reader) ←
            if reader.isAt [.key] then flowPair? bound reader.skip
            else node? false false bound reader
          let (items, reader) ← flowItems? false bound reader
          return (item :: items, reader)

/-- Reads a single pair within a bracketed sequence. -/
def flowPair? : Nat → Reader → Option (Node × Reader)
  | 0, _ => none
  | bound + 1, reader => do
      let (key, reader) ←
        if reader.isAt [.value, .flowEntry, .closeSequence] then some (nothing, reader.skip)
        else node? false false bound reader
      let (value, reader) ←
        if reader.isAt [.value] then
          nodeUnless? [.flowEntry, .closeSequence] false false bound reader.skip
        else some (nothing, reader)
      return (.mapping none [(key, value)], reader)

/-- Reads the pairs of a bracketed mapping with its end. -/
def flowPairs? (first : Bool) : Nat → Reader → Option (List (Node × Node) × Reader)
  | 0, _ => none
  | bound + 1, reader =>
      if reader.isAt [.closeMapping] then some ([], reader.skip)
      else if !first ∧ !reader.isAt [.flowEntry] then none
      else
        let reader := if first then reader else reader.skip
        if reader.isAt [.closeMapping] then some ([], reader.skip)
        else do
          let (pair, reader) ←
            if reader.isAt [.key] then do
              let (key, reader) ← nodeUnless? [.value, .flowEntry, .closeMapping] false false
                bound reader.skip
              let (value, reader) ←
                if reader.isAt [.value] then
                  nodeUnless? [.flowEntry, .closeMapping] false false bound reader.skip
                else some (nothing, reader)
              some ((key, value), reader)
            else do
              let (key, reader) ← node? false false bound reader
              some ((key, nothing), reader)
          let (pairs, reader) ← flowPairs? false bound reader
          return (pair :: pairs, reader)
end

/-- Reads the directives of a document. A version is given at most once and is 1.1 or 1.2;
a handle is given at most once.
-/
def directives? (versioned : Bool) : List Token → List (String × String)
    → Option (List Token × List (String × String))
  | .version major minor :: rest, handles =>
      if versioned ∨ major ≠ 1 ∨ (minor ≠ 1 ∧ minor ≠ 2) then none
      else directives? true rest handles
  | .tagDirective handle start :: rest, handles =>
      if (handles.lookup handle).isSome then none
      else directives? versioned rest ((handle, start) :: handles)
  | rest, handles => some (rest, handles)

/-- Ends a document: nothing but marks of its end is left. -/
def finish? (root : Node) (reader : Reader) : Option Document :=
  if reader.tokens.all (· = .documentEnd) then some ⟨some root, reader.anchored⟩ else none

/-- Says whether the content of a marked document is missing. -/
def isBlank (reader : Reader) : Bool :=
  match reader.peek with
  | none | some .documentStart | some .documentEnd | some (.version _ _)
  | some (.tagDirective _ _) => true
  | _ => false

/-- Reads the only document of a text from after its mark, or from its content on. -/
def document? (marked : Bool) (reader : Reader) : Option Document := do
  if marked ∧ reader.isBlank then reader.finish? nothing
  else
    let (root, reader) ← node? true false (5 * reader.tokens.length + 5) reader
    reader.finish? root

end Reader

/-- Reads a text as one document. Directives come before a mark. -/
def Document.parse? (text : String) : Option Document := do
  let tokens ← scan? text.toList
  if tokens = [] then return { root := none }
  let (rest, handles) ← Reader.directives? false tokens []
  match rest with
  | .documentStart :: rest => Reader.document? true { tokens := rest, handles }
  | _ => if rest.length = tokens.length then Reader.document? false { tokens } else none

end NodeDevices.Yaml
