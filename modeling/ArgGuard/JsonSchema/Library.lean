import ArgGuard.Internet.Resolution
import ArgGuard.JsonSchema.Subschema
import ArgGuard.Json.Pointer

/-!
# Libraries of schemas

A library holds the schemas that references can lead to: every schema with an identifier of its own
under that identifier, and every name under the identifier of the schema around it. `Library.scan?`
collects them from documents. A reference is looked up from a `Context`: the identifier from which
references start, the draft, and the identifiers of the schemas through which one came, since some
names mean the outermost schema that has them.
-/

namespace ArgGuard.JsonSchema

open Internet

/-- A schema with an identifier. -/
structure Resource where
  address : Identifier
  draft : Draft
  contents : Json

/-- A schema with a name; a dynamic name is taken by the outermost schema that has it. -/
structure Anchor where
  address : Identifier
  name : List Char
  isDynamic : Bool
  draft : Draft
  contents : Json

/-- Schemas by identifier and by name, the latest first. -/
structure Library where
  resources : List Resource := []
  anchors : List Anchor := []
  /-- Identifiers that must be known, without their fragments. -/
  wanted : List Identifier := []
  /-- Whether a schema of the drafts themselves is referred to. -/
  usesDrafts : Bool := false

namespace Library

/-- What two libraries hold together; the second one came later. -/
def append (first second : Library) : Library :=
  { resources := second.resources ++ first.resources
    anchors := second.anchors ++ first.anchors
    wanted := first.wanted ++ second.wanted
    usesDrafts := first.usesDrafts || second.usesDrafts }

def resource? (library : Library) (address : Identifier) : Option Resource :=
  library.resources.find? (·.address = address)

def anchor? (library : Library) (address : Identifier) (name : List Char) : Option Anchor :=
  library.anchors.find? fun anchor => anchor.address = address && anchor.name = name

/-! ### Collecting -/

/-- Whether a text is an address at which the schemas of drafts are published. -/
def isDraftAddress (text : List Char) : Bool :=
  (Draft.addressOf "https" "draft/").toList.isPrefixOf text
    || (Draft.addressOf "http" "draft-").toList.isPrefixOf text

/-- What a reference asks of the library. One that starts with a number sign asks nothing. -/
def ofReference? (base : Identifier) (counts : Bool) (text : List Char) : Option Library :=
  if base.scheme = some "urn".toList then some {}
  else if isDraftAddress text || isDraftAddress base.text then some { usesDrafts := counts }
  else if text.head? = some '#' then some {}
  else
    let start := if base.fragment.isSome then (Fields.cutAt '#' text).1 else text
    (base.whole.resolve? start).map fun target => { wanted := [target.whole] }

/-- What a text under a keyword asks of the library, where it is a reference. -/
def ofKeyword? (base : Identifier) (members : Members Json) (keyword : String) (counts : Bool) :
    Option Library :=
  match Draft.textOf? members keyword with
  | some text => ofReference? base counts text
  | none => some {}

/-- A schema that waits to be collected, with the identifier of the one around it. -/
structure Entry where
  base : Identifier
  draft : Draft
  contents : Json

/-- What one schema adds, and the schemas inside it. -/
def ofEntry? (entry : Entry) : Option (Library × List Entry) :=
  match entry.contents with
  | .object members => do
    let id := entry.draft.id? members
    let base ← match id with
      | some id => entry.base.resolve? id
      | none => some entry.base
    let own : Library :=
      { resources := if id.isSome then [⟨base, entry.draft, entry.contents⟩] else []
        anchors := (entry.draft.names members).reverse.map fun (name, isDynamic) =>
          ⟨base, name, isDynamic, entry.draft, entry.contents⟩ }
    let referred ← ofKeyword? base members "$ref" true
    let declared ← ofKeyword? base members "$schema" false
    let inner := (entry.draft.subschemas members).map fun contents =>
      match contents with
      | .object inside => ⟨base, entry.draft.inside inside, contents⟩
      | _ => ⟨base, entry.draft, contents⟩
    return ((own.append referred).append declared, inner)
  | _ => some ({}, [])

/-- Collects schemas level by level, as many levels as there are. -/
def collect? : Nat → Library → List Entry → Option Library
  | 0, library, _ => some library
  | _, library, [] => some library
  | levels + 1, library, entries => do
    let found ← entries.mapM ofEntry?
    collect? levels (found.foldl (fun sum one => sum.append one.1) library)
      (found.flatMap Prod.snd)

/-- What a document at an address adds to a library. -/
def scan? (library : Library) (address : Identifier) (draft : Draft) (contents : Json) :
    Option Library :=
  collect? (contents.height + 1)
    (library.append { resources := [⟨address, draft, contents⟩] }) [⟨address, draft, contents⟩]

/-- Whether all that must be known is known. -/
def isComplete (library : Library) : Bool :=
  library.wanted.all fun address => (library.resource? address).isSome

end Library

/-! ### Looking up -/

/-- Where a schema stands. -/
structure Context where
  /-- The identifier from which references start. -/
  base : Identifier
  draft : Draft
  /-- The identifiers through which one came, the outermost first, each once. -/
  outer : List Identifier := []
  /-- The outermost schema of an unbroken row of recursive ones. -/
  recursiveRoot : Option Identifier := none
deriving DecidableEq

namespace Context

/-- The context of a schema that has an identifier or not. -/
def withId? (context : Context) (members : Members Json) : Option Context :=
  match context.draft.id? members with
  | some id => (context.base.resolve? id).map fun base => { context with base }
  | none => some context

/-- The context inside a schema that stands in this one. -/
def enter? (context : Context) (members : Members Json) : Option Context :=
  withId? { context with draft := context.draft.inside members } members

def isRecursive (contents : Json) : Bool :=
  match contents.get? "$recursiveAnchor" with
  | some (.bool b) => b
  | _ => false

/-- The context at an address. Leaving a base puts it on the way. -/
def moveTo (context : Context) (library : Library) (address : Identifier) : Context :=
  if address = context.base then context
  else
    let isRecursive := (library.resource? context.base).any fun known => isRecursive known.contents
    { context with
      base := address
      outer := if context.outer.contains context.base then context.outer
        else context.outer ++ [context.base]
      recursiveRoot := if isRecursive then context.recursiveRoot.or (some context.base) else none }

/-- Follows steps, from a schema to a schema inside it where they lead to one. -/
def walk? (context : Context) (contents : Json) (passed : List String) :
    List (List Char) → Option (Json × Context)
  | [] => some (contents, context)
  | step :: rest => do
    let next ← Pointer.child? step contents
    let passed := passed ++ [String.ofList (Pointer.unescapeChars step)]
    let inner ← match next with
      | .object members =>
        if context.draft.leadsToSchema true passed then context.withId? members else some context
      | _ => some context
    walk? inner next (if inner = context then passed else []) rest

/-- The schema of a name, and its context. The outermost schema on the way that has a dynamic name
takes it. -/
def takeName? (context : Context) (library : Library) (name : List Char) :
    Option (Json × Context) := do
  let found ← library.anchor? context.base name
  if found.isDynamic then
    let taken := (context.outer.filterMap (library.anchor? · name)).find? (·.isDynamic)
    let last := taken.getD found
    let context := { context with draft := last.draft }
    match last.contents with
    | .object members => return (last.contents, ← context.withId? members)
    | _ => return (last.contents, context)
  else return (found.contents, { context with draft := found.draft })

/-- The bytes of a text in which characters can be written by their bytes. -/
def bytes : List Char → List UInt8
  | '%' :: a :: b :: rest =>
    if Address.isHexDigit a && Address.isHexDigit b then
      (Identifier.hexValue a * 16 + Identifier.hexValue b).toUInt8 :: bytes rest
    else (String.singleton '%').toUTF8.toList ++ bytes (a :: b :: rest)
  | c :: rest => (String.singleton c).toUTF8.toList ++ bytes rest
  | [] => []

/-- The text that bytes stand for. -/
def decode? (text : List Char) : Option (List Char) :=
  (String.fromUTF8? ⟨(bytes text).toArray⟩).map String.toList

/-- The schema at a fragment of a resource: a pointer, a name, or the whole. -/
def fragment? (context : Context) (library : Library) (fragment : List Char) :
    Option (Json × Context) := do
  let known ← library.resource? context.base
  match fragment with
  | [] => return (known.contents, { context with draft := known.draft })
  | '/' :: pointer =>
    let steps := Fields.ofText '/' (← decode? pointer)
    walk? { context with draft := known.draft } known.contents [] steps
  | name => context.takeName? library name

/-- The schema that a reference leads to, and its context. -/
def lookup? (context : Context) (library : Library) (text : List Char) :
    Option (Json × Context) := do
  let _ ← context.base.resolve? text
  match text with
  | '#' :: fragment => context.fragment? library fragment
  | _ =>
    let (start, fragment) := (Fields.splitAtLast '#' text).getD (text, [])
    (context.moveTo library (← context.base.resolve? start)).fragment? library fragment

/-- The schema that a recursive reference leads to: the one around it, or, if that one is recursive,
the outermost one of a row. -/
def recursiveTarget? (context : Context) (library : Library) : Option (Json × Context) := do
  let (contents, inner) ← context.fragment? library []
  match context.recursiveRoot with
  | some root =>
    if isRecursive contents then (context.moveTo library root).fragment? library []
    else return (contents, inner)
  | none => return (contents, inner)

end Context

end ArgGuard.JsonSchema
