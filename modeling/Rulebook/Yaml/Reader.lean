import Rulebook.Yaml.Layout
import Rulebook.Yaml.Node

/-!
# Reading documents

`Yaml.read?` takes the tokens of a text and builds the value of its document from them. There is at
most one document, and it is a table; a text without any is a table without entries.
-/

set_option autoImplicit false

namespace Rulebook

namespace Yaml

/-! ## Anchors and tags -/

/-- The tokens that are left, and what is known of them: the names of anchors with their numbers,
the latest first, the values of these numbers as far as they are complete, and what the handles of
tags stand for. -/
structure Reading where
  tokens : List Token
  anchors : List (String × Nat)
  values : List (Nat × Node)
  handles : List (String × String)

/-- The properties of a value: the number of its anchor, and its tag. -/
structure Properties where
  anchor : Option Nat
  tag : Option Node.Tag

namespace Reading

/-- With these tokens left. -/
def leaving (r : Reading) (tokens : List Token) : Reading := { r with tokens := tokens }

/-- The value of an anchor. One that is not complete yet is bad. -/
def aliased? (r : Reading) (name : String) : Option Node :=
  (r.anchors.lookup name).map fun n => (r.values.lookup n).getD .bad

/-- Numbers an anchor. -/
def withAnchor (r : Reading) (name : String) : Nat × Reading :=
  (r.anchors.length, { r with anchors := (name, r.anchors.length) :: r.anchors })

/-- Notes the value of an anchor. -/
def withValue (r : Reading) (anchor : Option Nat) (node : Node) : Reading :=
  match anchor with
  | some n => { r with values := (n, node) :: r.values }
  | none => r

/-- A tag in full. A handle with a name has to be declared. -/
def tag? (r : Reading) (handle suffix : String) : Option Node.Tag :=
  match r.handles.lookup handle with
  | some meaning => some ⟨meaning, suffix⟩
  | none =>
      if handle = "!!" then some ⟨Node.standardHandle, suffix⟩
      else if 2 ≤ handle.length then none
      else some ⟨handle, suffix⟩

/-- The properties in front of a value, an anchor and a tag in any order. -/
def properties? (r : Reading) : Option (Properties × Reading) :=
  match r.tokens with
  | .anchor name :: .tag handle suffix :: rest => do
      let (n, r) := r.withAnchor name
      return (⟨some n, some (← r.tag? handle suffix)⟩, r.leaving rest)
  | .tag handle suffix :: .anchor name :: rest => do
      let (n, r) := r.withAnchor name
      return (⟨some n, some (← r.tag? handle suffix)⟩, r.leaving rest)
  | .anchor name :: rest =>
      let (n, r) := r.withAnchor name
      some (⟨some n, none⟩, r.leaving rest)
  | .tag handle suffix :: rest => do
      return (⟨none, some (← r.tag? handle suffix)⟩, r.leaving rest)
  | _ => some (⟨none, none⟩, r)

end Reading

/-! ## Values -/

/-- Where a value may stand: as an entry of a block, as a key or value of a block, whose list need
not be indented, or between brackets or braces. -/
inductive Context where
  | entry
  | field
  | flow
deriving DecidableEq, Repr

/-- What stands where there is no value. -/
def endsField : Token → Bool
  | .key | .value | .blockEnd => true
  | _ => false

/-- What stands where there is no entry of a block. -/
def endsEntry : Token → Bool
  | .entry | .blockEnd => true
  | _ => false

/-- What stands where there is no entry of a list that is not indented. -/
def endsLevelEntry : Token → Bool
  | .entry | .key | .value | .blockEnd => true
  | _ => false

/-- What stands where there is no key between braces. -/
def endsFlowKey : Token → Bool
  | .value | .flowEntry | .flowMappingEnd => true
  | _ => false

/-- What stands where there is no value between braces. -/
def endsFlowValue : Token → Bool
  | .flowEntry | .flowMappingEnd => true
  | _ => false

/-- What stands where there is no key of a pair between brackets. -/
def endsPairKey : Token → Bool
  | .value | .flowEntry | .flowSequenceEnd => true
  | _ => false

/-- What stands where there is no value of a pair between brackets. -/
def endsPairValue : Token → Bool
  | .flowEntry | .flowSequenceEnd => true
  | _ => false

mutual

/-- The value here. -/
def node? : Nat → Context → Reading → Option (Node × Reading)
  | 0, _, _ => none
  | fuel + 1, context, r =>
      match r.tokens with
      | .alias name :: rest => do return (← r.aliased? name, r.leaving rest)
      | _ => do
          let (properties, r) ← r.properties?
          let (node, r) ← content? fuel context properties r
          return (node, r.withValue properties.anchor node)

/-- The value here behind its properties. -/
def content? : Nat → Context → Properties → Reading → Option (Node × Reading)
  | 0, _, _, _ => none
  | fuel + 1, context, properties, r =>
      match r.tokens, context with
      | .scalar plain s :: rest, _ => some (.ofText plain properties.tag s, r.leaving rest)
      | .flowSequenceStart :: rest, _ => do
          let (items, r) ← flowItems? fuel true (r.leaving rest)
          return (.list items, r)
      | .flowMappingStart :: rest, _ => do
          let (parts, r) ← flowParts? fuel true (r.leaving rest)
          return (← Node.ofParts? parts, r)
      | .entry :: _, .field => do
          let (items, r) ← levelItems? fuel r
          return (.list items, r)
      | .sequenceStart :: rest, .entry | .sequenceStart :: rest, .field => do
          let (items, r) ← items? fuel (r.leaving rest)
          return (.list items, r)
      | .mappingStart :: rest, .entry | .mappingStart :: rest, .field => do
          let (parts, r) ← parts? fuel (r.leaving rest)
          return (← Node.ofParts? parts, r)
      | _, _ =>
          if properties.anchor.isSome || properties.tag.isSome then
            some (.ofText true properties.tag "", r)
          else none

/-- The value here, or null in front of one of the tokens that stand where there is none. -/
def slot? : Nat → Context → (Token → Bool) → Reading → Option (Node × Reading)
  | 0, _, _, _ => none
  | fuel + 1, context, isEnd, r =>
      if r.tokens.head?.any isEnd then some (.null, r) else node? fuel context r

/-- The value behind its mark, or null if there is no mark. -/
def slotOf? : Nat → Context → (Token → Bool) → Reading → Option (Node × Reading)
  | 0, _, _, _ => none
  | fuel + 1, context, isEnd, r =>
      match r.tokens with
      | .value :: rest => slot? fuel context isEnd (r.leaving rest)
      | _ => some (.null, r)

/-- The keys and values of a table up to its end. -/
def parts? : Nat → Reading → Option (List Node × Reading)
  | 0, _ => none
  | fuel + 1, r =>
      match r.tokens with
      | .blockEnd :: rest => some ([], r.leaving rest)
      | .key :: rest => do
          let (key, r) ← slot? fuel .field endsField (r.leaving rest)
          let (value, r) ← slotOf? fuel .field endsField r
          let (parts, r) ← parts? fuel r
          return (key :: value :: parts, r)
      | .value :: _ => do
          let (value, r) ← slotOf? fuel .field endsField r
          let (parts, r) ← parts? fuel r
          return (.null :: value :: parts, r)
      | _ => none

/-- The items of a list up to its end. -/
def items? : Nat → Reading → Option (List Node × Reading)
  | 0, _ => none
  | fuel + 1, r =>
      match r.tokens with
      | .blockEnd :: rest => some ([], r.leaving rest)
      | .entry :: rest => do
          let (item, r) ← slot? fuel .entry endsEntry (r.leaving rest)
          let (items, r) ← items? fuel r
          return (item :: items, r)
      | _ => none

/-- The items of a list that is not indented. -/
def levelItems? : Nat → Reading → Option (List Node × Reading)
  | 0, _ => none
  | fuel + 1, r =>
      match r.tokens with
      | .entry :: rest => do
          let (item, r) ← slot? fuel .entry endsLevelEntry (r.leaving rest)
          let (items, r) ← levelItems? fuel r
          return (item :: items, r)
      | _ => some ([], r)

/-- The items between brackets; only the first one has no comma in front. -/
def flowItems? : Nat → Bool → Reading → Option (List Node × Reading)
  | 0, _, _ => none
  | fuel + 1, isFirst, r =>
      match r.tokens, isFirst with
      | .flowSequenceEnd :: rest, _ => some ([], r.leaving rest)
      | .flowEntry :: .flowSequenceEnd :: rest, false => some ([], r.leaving rest)
      | .flowEntry :: rest, false => do
          let (item, r) ← flowItem? fuel (r.leaving rest)
          let (items, r) ← flowItems? fuel false r
          return (item :: items, r)
      | _, true => do
          let (item, r) ← flowItem? fuel r
          let (items, r) ← flowItems? fuel false r
          return (item :: items, r)
      | _, false => none

/-- An item between brackets. It may be a table of a single pair without braces. -/
def flowItem? : Nat → Reading → Option (Node × Reading)
  | 0, _ => none
  | fuel + 1, r =>
      match r.tokens with
      | .key :: next :: rest => do
          let (key, r) ←
            if endsPairKey next then some (.null, r.leaving rest)
            else node? fuel .flow (r.leaving (next :: rest))
          let (value, r) ← slotOf? fuel .flow endsPairValue r
          return (← Node.ofParts? [key, value], r)
      | _ => node? fuel .flow r

/-- The keys and values between braces; only the first key has no comma in front. -/
def flowParts? : Nat → Bool → Reading → Option (List Node × Reading)
  | 0, _, _ => none
  | fuel + 1, isFirst, r =>
      match r.tokens, isFirst with
      | .flowMappingEnd :: rest, _ => some ([], r.leaving rest)
      | .flowEntry :: .flowMappingEnd :: rest, false => some ([], r.leaving rest)
      | .flowEntry :: rest, false => do
          let (key, value, r) ← flowPair? fuel (r.leaving rest)
          let (parts, r) ← flowParts? fuel false r
          return (key :: value :: parts, r)
      | _, true => do
          let (key, value, r) ← flowPair? fuel r
          let (parts, r) ← flowParts? fuel false r
          return (key :: value :: parts, r)
      | _, false => none

/-- A key between braces with its value. -/
def flowPair? : Nat → Reading → Option (Node × Node × Reading)
  | 0, _ => none
  | fuel + 1, r =>
      match r.tokens with
      | .key :: rest => do
          let (key, r) ← slot? fuel .flow endsFlowKey (r.leaving rest)
          let (value, r) ← slotOf? fuel .flow endsFlowValue r
          return (key, value, r)
      | .value :: _ => do
          let (value, r) ← slotOf? fuel .flow endsFlowValue r
          return (.null, value, r)
      | _ => do
          let (key, r) ← node? fuel .flow r
          return (key, .null, r)

end

/-! ## Documents -/

/-- What stands where a document has no value. -/
def endsDocument : Token → Bool
  | .version | .tagDirective _ _ | .documentStart | .documentEnd | .streamEnd => true
  | _ => false

/-- Whether a token is a directive. -/
def isDirective : Token → Bool
  | .version | .tagDirective _ _ => true
  | _ => false

/-- What the handles of tags stand for by the directives in front of a document, and the rest. There
is at most one version. What a directive says goes when another one follows. -/
def directives? (versioned : Bool) (handles : List (String × String)) :
    List Token → Option (List (String × String) × List Token)
  | .version :: rest => if versioned then none else directives? true [] rest
  | .tagDirective handle meaning :: rest => directives? versioned [(handle, meaning)] rest
  | rest => some (handles, rest)

/-- The documents of tokens. One that comes behind another without a mark of its end in between has
a mark at its beginning. -/
def documents? : Nat → Bool → List Token → Option (List Node)
  | 0, _, _ => none
  | fuel + 1, bare, tokens =>
      match tokens.dropWhile (· = .documentEnd) with
      | .streamEnd :: _ => some []
      | tokens => do
          let (handles, body) ← directives? false [] tokens
          let start := ⟨body, [], [], handles⟩
          let (node, r) ←
            match body with
            | .documentStart :: rest =>
              slot? (4 * rest.length + 8) .entry endsDocument (start.leaving rest)
            | _ =>
                if bare && !tokens.head?.any isDirective then
                  node? (4 * body.length + 8) .entry start
                else none
          let nodes ←
            match r.tokens with
            | .documentEnd :: rest => documents? fuel true rest
            | rest => if rest.head?.any isDirective then none else documents? fuel false rest
          return node :: nodes

/-- The table that the text of a settings file stands for. -/
def read? (s : String) : Option Setting := do
  let tokens ← Token.scan? s.toList
  match ← documents? (tokens.length + 1) true tokens with
  | [] => some (.table [])
  | [.table entries] => Node.toSetting? (.table entries)
  | _ => none

end Yaml

end Rulebook
