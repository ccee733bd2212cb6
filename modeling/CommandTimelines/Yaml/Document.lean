import CommandTimelines.Yaml.Node
import CommandTimelines.Yaml.Token

/-!
# Documents of YAML

The nodes that tokens make up. Where a node is missing it denotes nothing. An anchor gives a node a
name, by which an alias repeats it.
-/

namespace CommandTimelines.Yaml

/-- Tokens that are being put together. -/
structure Assembly where
  /-- The tokens that are left. -/
  tokens : List Token
  /-- The numbers of the anchored nodes, by name, the latest first. -/
  anchors : List (String × Nat) := []
  /-- The anchored nodes by number, as far as they are complete. -/
  nodes : List (Nat × Node) := []

namespace Assembly

variable (p : Assembly)

/-- With tokens left. -/
def withTokens (tokens : List Token) : Assembly := { p with tokens }

/-- Without the first token. -/
def skip : Assembly := p.withTokens p.tokens.tail

/-- Whether one of some tokens is ahead. -/
def sees (tokens : List Token) : Bool := p.tokens.head?.any fun t => tokens.contains t

/-- With one more anchor, and its number. -/
def register (name : Option String) : Assembly × Option Nat :=
  match name with
  | none => (p, none)
  | some name =>
    ({ p with anchors := (name, p.anchors.length) :: p.anchors }, some p.anchors.length)

/-- With an anchored node that is complete. -/
def complete (number : Option Nat) (node : Node) : Assembly :=
  match number with
  | none => p
  | some number => { p with nodes := (number, node) :: p.nodes }

/-- The node that an alias repeats; none if there is no such anchor. -/
def repeated? (name : String) : Option Node :=
  (p.anchors.lookup name).map fun number => (p.nodes.lookup number).getD .nothing

/-- The anchor and the tag ahead, in either order, and what follows them. -/
def properties : Option String × Option (String × String) × Assembly :=
  match p.tokens with
  | .anchor name :: .tag handle suffix :: r => (some name, some (handle, suffix), p.withTokens r)
  | .tag handle suffix :: .anchor name :: r => (some name, some (handle, suffix), p.withTokens r)
  | .anchor name :: r => (some name, none, p.withTokens r)
  | .tag handle suffix :: r => (none, some (handle, suffix), p.withTokens r)
  | _ => (none, none, p)

end Assembly

mutual

/-- The node ahead, which may be a block if `block` says so, and a list whose items are indented no
further than the key before it if `hanging` does. The readers go on for at most `n` steps. -/
def nodeIn? (block hanging : Bool) : Nat → Assembly → Option (Node × Assembly)
  | 0, _ => none
  | n + 1, p =>
    match p.tokens with
    | .alias name :: r => (p.repeated? name).map fun node => (node, p.withTokens r)
    | _ =>
      let (anchor, tag, p) := p.properties
      let (p, number) := p.register anchor
      let empty : Option (Node × Assembly) :=
        if anchor.isSome || tag.isSome then some (.ofScalar true tag "", p) else none
      let result : Option (Node × Assembly) :=
        match p.tokens with
        | .scalar isPlain s :: r => some (.ofScalar isPlain tag s, p.withTokens r)
        | .flowSequence :: r => flowItemsIn? true n (p.withTokens r)
        | .flowMapping :: r => flowEntriesIn? true n (p.withTokens r)
        | .blockEntry :: _ => if hanging then hangingIn? n p else empty
        | .blockSequence :: r => if block then itemsIn? n (p.withTokens r) else empty
        | .blockMapping :: r => if block then entriesIn? n (p.withTokens r) else empty
        | _ => empty
      result.map fun (node, p) => (node, p.complete number node)

/-- The node ahead, which is nothing if one of some tokens stands there. -/
def optionalIn? (block hanging : Bool) (without : List Token) :
    Nat → Assembly → Option (Node × Assembly)
  | 0, _ => none
  | n + 1, p => if p.sees without then some (.nothing, p) else nodeIn? block hanging n p

/-- The items of a list that are indented no further than what is around it. -/
def hangingIn? : Nat → Assembly → Option (Node × Assembly)
  | 0, _ => none
  | n + 1, p =>
    if p.sees [.blockEntry] then do
      let (item, p) ← optionalIn? true false [.blockEntry, .key, .value, .blockEnd] n p.skip
      match ← hangingIn? n p with
      | (.list items, p) => return (.list (item :: items), p)
      | _ => none
    else some (.list [], p)

/-- The rest of a list that is a block. -/
def itemsIn? : Nat → Assembly → Option (Node × Assembly)
  | 0, _ => none
  | n + 1, p =>
    if p.sees [.blockEnd] then some (.list [], p.skip)
    else if p.sees [.blockEntry] then do
      let (item, p) ← optionalIn? true false [.blockEntry, .blockEnd] n p.skip
      match ← itemsIn? n p with
      | (.list items, p) => return (.list (item :: items), p)
      | _ => none
    else none

/-- The rest of a table that is a block. -/
def entriesIn? : Nat → Assembly → Option (Node × Assembly)
  | 0, _ => none
  | n + 1, p =>
    let without : List Token := [.key, .value, .blockEnd]
    if p.sees [.blockEnd] then some (.table [], p.skip)
    else do
      let (key, p) ←
        if p.sees [.key] then optionalIn? true true without n p.skip
        else if p.sees [.value] then some (.nothing, p)
        else none
      let (value, p) ←
        if p.sees [.value] then optionalIn? true true without n p.skip else some (.nothing, p)
      match ← entriesIn? n p with
      | (.table entries, p) => return (.table ((key, value) :: entries), p)
      | _ => none

/-- The value of an entry inside brackets or braces, of which `closing` closes. -/
def flowValueIn? (closing : Token) : Nat → Assembly → Option (Node × Assembly)
  | 0, _ => none
  | n + 1, p =>
    if p.sees [.value] then optionalIn? false false [.flowEntry, closing] n p.skip
    else some (.nothing, p)

/-- The rest of a table in braces; before each entry but the first one stands a comma. -/
def flowEntriesIn? (isFirst : Bool) : Nat → Assembly → Option (Node × Assembly)
  | 0, _ => none
  | n + 1, p =>
    if p.sees [.flowMappingEnd] then some (.table [], p.skip)
    else if !isFirst && !p.sees [.flowEntry] then none
    else
      let p := if isFirst then p else p.skip
      if p.sees [.flowMappingEnd] then some (.table [], p.skip)
      else do
        let isMarked := p.sees [.key, .value]
        let (key, p) ←
          if p.sees [.key] then
            optionalIn? false false [.value, .flowEntry, .flowMappingEnd] n p.skip
          else if p.sees [.value] then some (.nothing, p)
          else nodeIn? false false n p
        let (value, p) ←
          if isMarked then flowValueIn? .flowMappingEnd n p else some (.nothing, p)
        match ← flowEntriesIn? false n p with
        | (.table entries, p) => return (.table ((key, value) :: entries), p)
        | _ => none

/-- The rest of a list in brackets; before each item but the first one stands a comma. An item with
a key is a table of one entry. -/
def flowItemsIn? (isFirst : Bool) : Nat → Assembly → Option (Node × Assembly)
  | 0, _ => none
  | n + 1, p =>
    if p.sees [.flowSequenceEnd] then some (.list [], p.skip)
    else if !isFirst && !p.sees [.flowEntry] then none
    else
      let p := if isFirst then p else p.skip
      if p.sees [.flowSequenceEnd] then some (.list [], p.skip)
      else do
        let (item, p) ←
          if p.sees [.key] then pairIn? n p.skip else nodeIn? false false n p
        match ← flowItemsIn? false n p with
        | (.list items, p) => return (.list (item :: items), p)
        | _ => none

/-- A table of one entry inside brackets. A mark in the place of its key is passed over. -/
def pairIn? : Nat → Assembly → Option (Node × Assembly)
  | 0, _ => none
  | n + 1, p => do
    let (key, p) ←
      if p.sees [.value, .flowEntry, .flowSequenceEnd] then some (.nothing, p.skip)
      else nodeIn? false false n p
    let (value, p) ← flowValueIn? .flowSequenceEnd n p
    return (.table [(key, value)], p)

end

/-- The node ahead, as a document of its own. -/
def nodeAhead? (p : Assembly) : Option (Node × Assembly) :=
  nodeIn? true false (8 * p.tokens.length + 8) p

/-- The document ahead, which begins with its mark. -/
def markedDocument? (p : Assembly) : Option (Node × Assembly) :=
  match p.tokens.dropWhile (· == .directive) with
  | .documentStart :: r =>
    let p := p.withTokens r
    if r = [] || p.sees [.directive, .documentStart, .documentEnd] then some (.nothing, p)
    else nodeAhead? p
  | _ => none

/-- Without the mark at the end of a document. -/
def Assembly.afterDocument (p : Assembly) : Assembly :=
  if p.sees [.documentEnd] then p.skip else p

/-- The documents ahead after the first one, at most `n` of them. -/
def documentsIn? : Nat → Assembly → Option (List Node)
  | 0, _ => none
  | n + 1, p =>
    match p.tokens.dropWhile (· == .documentEnd) with
    | [] => some []
    | r => do
      let (document, p) ← markedDocument? (p.withTokens r)
      let documents ← documentsIn? n p.afterDocument
      return document :: documents

/-- The documents that tokens make up. Only the first one may go without its mark. -/
def documents? (tokens : List Token) : Option (List Node) :=
  let p : Assembly := { tokens }
  if tokens = [] then some []
  else do
    let (document, p) ←
      if p.sees [.directive, .documentStart] then markedDocument? p else nodeAhead? p
    let documents ← documentsIn? (tokens.length + 1) p.afterDocument
    return document :: documents

/-- The node that a text denotes. A text without a document denotes a table without entries, and
one with several documents none. -/
def read? (s : String) : Option Node := do
  match ← (tokens? s).bind documents? with
  | [] => some (.table [])
  | [document] => some document
  | _ => none

end CommandTimelines.Yaml
