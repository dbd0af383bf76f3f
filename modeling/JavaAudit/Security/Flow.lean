import JavaAudit.Scope

/-! How values reach a place: concatenations, lookups and the calls that run queries. -/

set_option autoImplicit false

namespace JavaAudit.Security

def isQueryCall (name : String) : Bool :=
  ["executeQuery", "executeUpdate", "execute"].contains name

def isConcatenation (site : Site) : Bool :=
  1 < site.plusOperands.length

def carriesValue : Kind → Bool
  | .identifier | .fieldAccess | .arrayAccess | .methodInvocation => true
  | _ => false

def concatenatesVariable (site : Site) : Bool :=
  isConcatenation site && site.plusOperands.any (carriesValue ·.kind)

def concatenatesText (site : Site) : Bool :=
  isConcatenation site && site.plusOperands.any fun operand =>
    operand.kind == .stringLiteral || operand.kind == .identifier

/-- The expression below parentheses and at most one cast. -/
def uncast? (site : Site) : Option Site :=
  site.unwrap?.bind fun inner =>
    if inner.kind == .castExpression then (inner.child? .value).bind Site.unwrap? else some inner

def isLookup (site : Site) : Bool :=
  (uncast? site).any fun call =>
    call.kind == .methodInvocation && Vocabulary.isLookupCallName call.callName

def lookupTarget? (site : Site) : Option String :=
  match site.kind with
  | .variableDeclarator =>
    if (site.child? .value).any isLookup then some site.declaredName else none
  | .assignmentExpression =>
    if (site.child? .right).any isLookup then
      nonempty? ((site.child? .left).bind Site.identifier?)
    else none
  | _ => none

/-- Names that are given the result of a lookup anywhere in the body. -/
def lookupNames (body : Site) : List String :=
  body.scope.filterMap lookupTarget?

def concatenatesInto (name : String) (site : Site) : Bool :=
  match site.kind with
  | .variableDeclarator =>
    site.declaredName == name && (site.child? .value).any isConcatenation
  | .assignmentExpression =>
    (site.child? .left).bind Site.identifier? == some name &&
      (site.childText .operator == "+=" || (site.child? .right).any isConcatenation)
  | _ => false

/-- Is `name` given a concatenated value before the offset? The search ends at the first node
that starts there or later. -/
def isBuiltByConcatenation (name : String) (body : Site) (before : Nat) : Bool :=
  (body.scope.takeWhile (·.node.start < before)).any (concatenatesInto name)

/-- Does the receiver of a call hold a statement with bound parameters? -/
def isPreparedReceiver (call : Site) (scope : Scope) : Bool :=
  (call.child? .object).any fun receiver =>
    (nonempty? receiver.identifier?).any (fun name =>
      (scope.typeOf? name).any ["PreparedStatement", "CallableStatement"].contains) ||
    Vocabulary.mentions ["prepare", "callable"] receiver.render

def isInTestMethod (site : Site) : Bool :=
  site.enclosingMethod?.any fun method => Vocabulary.isTestMethodName method.declaredName

end JavaAudit.Security
