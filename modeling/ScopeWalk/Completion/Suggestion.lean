import ScopeWalk.Candidate.Basic
import ScopeWalk.Ty.Printer

/-!
# Suggestions

A suggestion is how a candidate is presented to someone typing. Its label is the candidate's
name, so an alias is suggested under the alias. Lower priorities come first: locals, then what
the module itself declares, then what is of the kind expected at the place, then the rest.
-/
namespace ScopeWalk

/-- Kinds that editors know. -/
inductive SuggestionKind where
  | module
  | function
  | method
  | struct
  | enum
  | enumMember
  | interface
  | constant
  | variable
  | field
  | typeParameter
  | keyword
  deriving DecidableEq, Repr

namespace SuggestionKind

/-- The number of the kind in the language server protocol. -/
def lspNumber : SuggestionKind → Nat
  | .method => 2
  | .function => 3
  | .field => 5
  | .variable => 6
  | .interface => 8
  | .module => 9
  | .enum => 13
  | .keyword => 14
  | .enumMember => 20
  | .constant => 21
  | .struct => 22
  | .typeParameter => 25

/-- The kind under which a declaration is suggested. -/
def ofDecl : DeclKind → SuggestionKind
  | .function true => .method
  | .function false | .macroDef => .function
  | .const => .constant
  | .static | .binding => .variable
  | .struct | .union => .struct
  | .enum => .enum
  | .variant => .enumMember
  | .trait => .interface
  | .typeAlias | .genericParam => .typeParameter
  | .field => .field
  | .label => .keyword
  | .mod | .crateRoot | .externCrate | .use | .impl => .module

end SuggestionKind

structure Suggestion where
  label : Name
  kind : SuggestionKind
  /-- Shown after the label. -/
  detail : Option String
  /-- What is inserted, if not the label. -/
  insertText : Option String
  priority : Nat
  deriving DecidableEq, Repr

namespace Priority

def localBinding : Nat := 0

def sameModule : Nat := 10

def expectedKind : Nat := 50

def other : Nat := 100

end Priority

/-- Where suggestions are asked for. -/
structure CompletionSite where
  module : Module
  /-- The kind that fits there, if that is known. -/
  expected : Option SuggestionKind

/-- How urgent a declaration is at a site. -/
def CompletionSite.priority (site : CompletionSite) (decl : Decl) : Nat :=
  if decl.visibility.isNone then Priority.localBinding
  else if decl.module.same site.module then Priority.sameModule
  else if site.expected = some (.ofDecl decl.kind) then Priority.expectedKind
  else Priority.other

/-- What is shown after the label of a candidate: the type a member is offered for, and
otherwise what kind of thing it is. -/
def Entry.detail (entry : Entry) (decl : Decl) : String :=
  match entry with
  | .member found => found.selfTy.render
  | _ => if entry.isExternCrate then "extern crate" else decl.kind.word

/-- The presentation of a candidate for the given declaration. -/
def Suggestion.ofEntry (site : CompletionSite) (entry : Entry) (decl : Decl) :
    Suggestion where
  label := entry.name
  kind := .ofDecl decl.kind
  detail := some (entry.detail decl)
  insertText := if decl.kind.isFunction then some (entry.name.text ++ "()") else none
  priority := site.priority decl

end ScopeWalk
