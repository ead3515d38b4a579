import Frontend.Tree.Expression

/-!
# Modules

A module has a name, the names it exports and imports, and the declarations of functions. Data
types and type signatures are recognised but not read; they are kept as deferred items.
-/

namespace Frontend

/-- A name and where it was read. -/
structure Identifier where
  name : String
  span : Span
deriving DecidableEq, Repr

namespace Identifier

/-- The identifier of a token, if it is one. -/
def ofToken? (t : Token) : Option Identifier :=
  match t.kind with
  | .identifier name => some ⟨name, t.span⟩
  | _                => none

/-- The exact form of an identifier. -/
def inspect (i : Identifier) : String := Text.quoted i.name ++ " " ++ i.span.inspect

end Identifier

/-- The import of another module under a name of its own. Without bindings everything is
imported. -/
structure Import where
  source : Identifier
  localName : Identifier
  bindings : List Identifier
deriving DecidableEq, Repr

/-- The declaration of a function. -/
structure Declaration where
  binder : Identifier
  body : Expression
deriving Repr

/-- The kinds of items that are not read. -/
inductive DeferredKind where
  /-- The declaration of a data type. -/
  | data
  /-- The type signature of a function. -/
  | signature
deriving DecidableEq, Repr

namespace DeferredKind

/-- The word for a kind in exact forms. -/
def label : DeferredKind → String
  | data      => "Data"
  | signature => "Signature"

/-- What items of a kind are called in messages. -/
def plural : DeferredKind → String
  | data      => "data declarations"
  | signature => "type signatures"

end DeferredKind

/-- An item that is recognised but not read. -/
structure Deferred where
  kind : DeferredKind
  span : Span
deriving DecidableEq, Repr

/-- A module. Without a list of exports everything is exported. -/
structure Module where
  name : Identifier
  exports : Option (List Identifier)
  imports : List Import
  declarations : List Declaration
  deferred : List Deferred
deriving Repr

end Frontend
