import JavaAudit.Tree.Declaration

/-! A summary of the first type that a compilation unit declares. -/

set_option autoImplicit false

namespace JavaAudit

structure FieldSummary where
  name : String
  type : String
  access : String
  isStatic : Bool
  isFinal : Bool
  deriving DecidableEq, Repr

structure MethodSummary where
  name : String
  returnType : String
  parameters : List String
  access : String
  isStatic : Bool
  isAbstract : Bool
  isFinal : Bool
  deriving DecidableEq, Repr

structure TypeSummary where
  name : String
  packageName : String
  fields : List FieldSummary
  methods : List MethodSummary
  imports : List String
  access : String
  isAbstract : Bool
  isFinal : Bool
  isInterface : Bool
  deriving DecidableEq, Repr

namespace Site

def fieldSummaries (declaration : Site) : List FieldSummary :=
  (declaration.childrenIn .declarator).map fun declarator =>
    { name := declarator.declaredName
      type := declaration.childText .type
      access := declaration.access
      isStatic := declaration.modifiers.contains "static"
      isFinal := declaration.modifiers.contains "final" }

def methodSummary (method : Site) : MethodSummary where
  name := method.declaredName
  returnType := if method.kind == .constructorDeclaration then "void" else method.childText .type
  parameters := method.parameters.map fun parameter => parameter.type ++ " " ++ parameter.name
  access := method.access
  isStatic := method.modifiers.contains "static"
  isAbstract := method.modifiers.contains "abstract"
  isFinal := method.modifiers.contains "final"

def qualifiedName? (site : Site) : Option String :=
  (site.namedChildren.find? fun child =>
    child.kind == .identifier || child.kind == .scopedIdentifier).map text

/-- The imported name; an import of all members ends in an asterisk. -/
def importedName? (site : Site) : Option String :=
  site.qualifiedName?.map fun name =>
    if site.namedChildren.any (·.kind == .asterisk) then name ++ ".*" else name

/-- The package of a unit; the last declaration counts. -/
def packageName (root : Site) : String :=
  let declarations := root.namedChildren.filter (·.kind == .packageDeclaration)
  (declarations.getLast?.bind qualifiedName?).getD ""

def imports (root : Site) : List String :=
  (root.namedChildren.filter (·.kind == .importDeclaration)).filterMap importedName?

def primaryType? (root : Site) : Option Site :=
  root.namedChildren.find? (·.kind.isTypeDeclaration)

def summary? (root : Site) : Option TypeSummary :=
  root.primaryType?.map fun type =>
    { name := type.declaredName
      packageName := root.packageName
      fields := (type.members.filter (·.kind.isField)).flatMap fieldSummaries
      methods := (type.members.filter (·.kind.isMethod)).map methodSummary
      imports := root.imports
      access := type.access
      isAbstract := type.modifiers.contains "abstract"
      isFinal := type.modifiers.contains "final"
      isInterface := type.kind == .interfaceDeclaration }

end Site

end JavaAudit
