import ArgGuard.Pattern.Basic

/-!
# Expressions

The written form of a pattern as a tree: what stands in the text, before it is asked what flags
make of it and whether the properties it names exist. `Expression.depth` measures how deep the
parts lie in each other; an expression may not be deeper than `Expression.deepest`.
-/

namespace ArgGuard.Pattern

/-- What can be switched on and off within a pattern. -/
inductive Flag
  | caseless
  | multiLine
  | dotAll
  | swapGreed
  | unicode
  | carriageReturns
  | verbose
deriving DecidableEq, Repr

namespace Flag

/-- The flag of a letter. -/
def ofChar? (c : Char) : Option Flag :=
  ([('i', caseless), ('m', multiLine), ('s', dotAll), ('U', swapGreed), ('u', unicode),
    ('R', carriageReturns), ('x', verbose)] : List (Char × Flag)).lookup c

end Flag

/-- The flags in force. -/
structure Flags where
  caseless : Bool := false
  multiLine : Bool := false
  dotAll : Bool := false
  swapGreed : Bool := false
  unicode : Bool := true
  carriageReturns : Bool := false
  verbose : Bool := false

namespace Flags

def set (flags : Flags) : Flag → Bool → Flags
  | .caseless, on => { flags with caseless := on }
  | .multiLine, on => { flags with multiLine := on }
  | .dotAll, on => { flags with dotAll := on }
  | .swapGreed, on => { flags with swapGreed := on }
  | .unicode, on => { flags with unicode := on }
  | .carriageReturns, on => { flags with carriageReturns := on }
  | .verbose, on => { flags with verbose := on }

/-- Sets several flags. -/
def change (flags : Flags) (changes : List (Flag × Bool)) : Flags :=
  changes.foldl (fun flags (flag, on) => flags.set flag on) flags

end Flags

/-- The classes that have a letter. -/
inductive Shorthand
  | digit
  | blank
  | word
deriving DecidableEq, Repr

/-- A property, or the value of one. -/
inductive PropertyRef
  | named (name : String)
  | valued (name value : String)
deriving DecidableEq, Repr

/-- A character: as it stands, or as a byte in two hexadecimal digits. -/
structure Literal where
  code : Nat
  byte : Bool := false
deriving DecidableEq, Repr

/-- The operations between the parts of a class. -/
inductive SetOperation
  | inter
  | difference
  | symmetricDifference
deriving DecidableEq, Repr

/-- What stands in brackets. -/
inductive ClassItem
  | char (literal : Literal)
  | range (first last : Literal)
  | ascii (name : String) (negated : Bool)
  | shorthand (kind : Shorthand) (negated : Bool)
  | property (ref : PropertyRef) (negated : Bool)
  | bracketed (negated : Bool) (inner : ClassItem)
  | union (items : List ClassItem)
  | operation (operation : SetOperation) (left right : ClassItem)
deriving Inhabited

/-- An expression. The places of an anchor are those without flags: `lineStart` is `^`. -/
inductive Expression
  | empty
  | flags (changes : List (Flag × Bool))
  | char (literal : Literal)
  | dot
  | place (anchor : Anchor)
  | shorthand (kind : Shorthand) (negated : Bool)
  | property (ref : PropertyRef) (negated : Bool)
  | bracketed (negated : Bool) (inner : ClassItem)
  | repeated (body : Expression) (least : Nat) (most : Option Nat) (greedy : Bool)
  | group (captures : Bool) (changes : List (Flag × Bool)) (body : Expression)
  | concat (items : List Expression)
  | alternation (branches : List Expression)
deriving Inhabited

namespace ClassItem

/-- Several items as one. -/
def ofList : List ClassItem → ClassItem
  | [item] => item
  | items => union items

mutual

/-- How deep an item is. -/
def depth : ClassItem → Nat
  | bracketed _ inner => depth inner + 1
  | union items => deepestOf items + (if items.isEmpty then 0 else 1)
  | operation _ left right => max (depth left) (depth right) + 1
  | _ => 0

def deepestOf : List ClassItem → Nat
  | [] => 0
  | item :: rest => max (depth item) (deepestOf rest)

end

end ClassItem

namespace Expression

def ofItems : List Expression → Expression
  | [] => empty
  | [item] => item
  | items => concat items

def ofBranches : List Expression → Expression
  | [] => empty
  | [branch] => branch
  | branches => alternation branches

mutual

/-- How deep an expression is. -/
def depth : Expression → Nat
  | bracketed _ inner => inner.depth + 1
  | repeated body _ _ _ => depth body + 1
  | group _ _ body => depth body + 1
  | concat items => deepestOf items + 1
  | alternation branches => deepestOf branches + 1
  | _ => 0

def deepestOf : List Expression → Nat
  | [] => 0
  | item :: rest => max (depth item) (deepestOf rest)

end

/-- How deep an expression may be. -/
def deepest : Nat := 250

end Expression

end ArgGuard.Pattern
