import JavaAudit.Rendering
import JavaAudit.Tree.Declaration
import JavaAudit.Tree.Expression
import JavaAudit.Vocabulary

/-! What the body of one method does with names.

Each fact is gathered node by node over the body of the method, outside the types nested in it.
Facts are lists in document order and may repeat a name. -/

set_option autoImplicit false

namespace JavaAudit

namespace Usage

open Text

structure Surroundings where
  left : String
  right : String
  deriving DecidableEq, Repr

def surroundings : List Surroundings := [
  ⟨".", "("⟩, ⟨"", "."⟩, ⟨"(", ")"⟩, ⟨"(", ","⟩, ⟨", ", ")"⟩, ⟨", ", ","⟩,
  ⟨"= ", ";"⟩, ⟨"return ", ";"⟩, ⟨"+ ", ""⟩, ⟨"", " +"⟩, ⟨"[", "]"⟩, ⟨"", "["⟩,
  ⟨"if (", ""⟩, ⟨"while (", ""⟩, ⟨"", " =="⟩, ⟨"", " !="⟩, ⟨"== ", ""⟩, ⟨"!= ", ""⟩]

def Surroundings.around (place : Surroundings) (name code : List Char) : Bool :=
  occursWhole place.left.toList name place.right.toList code

/-- Does the code use the name as a whole identifier in one of the known surroundings? -/
def isUsedIn (name code : String) : Bool :=
  !name.isEmpty && surroundings.any fun place => place.around name.toList code.toList

end Usage

structure TypedName where
  name : String
  type : String
  deriving DecidableEq, Repr

def Site.fields (root : Site) : List TypedName :=
  (root.findBelow Kind.isField).flatMap fun declaration =>
    (declaration.childrenIn .declarator).map fun declarator =>
      ⟨declarator.declaredName, declaration.childText .type⟩

def nonempty? (name : Option String) : Option String :=
  name.filter (!·.isEmpty)

namespace Kind

/-- Parents whose name child declares, and does not use, an identifier. -/
def declaresName : Kind → Bool
  | .variableDeclarator | .formalParameter | .catchFormalParameter | .enhancedForStatement
    | .resource | .methodDeclaration | .constructorDeclaration | .classDeclaration
    | .interfaceDeclaration | .enumDeclaration | .recordDeclaration | .enumConstant
    | .methodInvocation | .annotationMarker | .annotationCall => true
  | _ => false

/-- Parents whose identifiers are labels, qualified names or parameters, never uses. -/
def neverUses : Kind → Bool
  | .labeledStatement | .breakStatement | .continueStatement | .methodReference
    | .inferredParameters | .scopedIdentifier | .packageDeclaration | .importDeclaration
    | .elementValuePair => true
  | _ => false

end Kind

namespace Site

def fillsRole (site parent : Site) (role : Role) : Bool :=
  (parent.node.child? role).any (·.sameAs site.node)

/-- Does an identifier stand where its value is used? -/
def isUse (site : Site) : Bool :=
  match site.parent? with
  | none => false
  | some parent =>
    if parent.kind.neverUses then false
    else if parent.kind.declaresName then !site.fillsRole parent .name
    else
      match parent.kind with
      | .fieldAccess => !site.fillsRole parent .field
      | .lambdaExpression => !site.fillsRole parent .parameters
      | _ => true

def ownField? (site : Site) : Option String :=
  if site.kind == .fieldAccess && (site.child? .object).any (·.kind == .thisReference) then
    some (site.childText .field)
  else none

def changedName? (site : Site) : Option String :=
  match site.kind with
  | .assignmentExpression => nonempty? ((site.child? .left).bind identifier?)
  | .updateExpression => nonempty? (site.namedChildren.head?.bind identifier?)
  | _ => none

def changedField? (site : Site) : Option String :=
  if site.kind == .assignmentExpression && site.changedName?.isNone then
    (site.child? .left).bind ownField?
  else none

def assignedNames (site : Site) : List String :=
  site.changedName?.toList ++ site.changedField?.toList

def usedNames (site : Site) : List String :=
  (if site.kind == .identifier && site.isUse then [site.text] else []) ++
    site.ownField?.toList ++ site.assignedNames

def localDeclarators (site : Site) : List Site :=
  if site.kind == .localVariableDeclaration then site.childrenIn .declarator else []

def resourceName? (site : Site) : Option String :=
  if site.kind == .resource then (site.child? .name).map text else none

def declaredNames (site : Site) : List String :=
  site.localDeclarators.map declaredName ++ site.resourceName?.toList

def initializedNames (site : Site) : List String :=
  (site.localDeclarators.filter fun declarator => (declarator.child? .value).isSome).map
      declaredName ++
    site.resourceName?.toList ++
    (if site.kind == .assignmentExpression then site.changedName?.toList else [])

def loopVariable? (site : Site) : Option String :=
  if site.kind == .enhancedForStatement then some site.declaredName else none

def exceptionName? (site : Site) : Option String :=
  if site.kind == .catchFormalParameter then some site.declaredName else none

/-- Names declared with a type by this node. -/
def typedNames (site : Site) : List TypedName :=
  (site.declaredNames ++ site.loopVariable?.toList).map (⟨·, site.childText .type⟩)

def nullCompared? (site : Site) : Option String :=
  if site.kind == .binaryExpression && site.childText .operator == "!=" then
    if (site.child? .right).any (·.kind == .nullLiteral) then
      (site.child? .left).bind identifier?
    else if (site.child? .left).any (·.kind == .nullLiteral) then
      (site.child? .right).bind identifier?
    else none
  else none

def nullAsserted? (site : Site) : Option String :=
  if site.kind == .methodInvocation && site.childText .object == "Objects"
      && ["nonNull", "requireNonNull"].contains site.callName then
    site.arguments.head?.bind identifier?
  else none

def nullCheckedNames (site : Site) : List String :=
  (nonempty? site.nullCompared?).toList ++ (nonempty? site.nullAsserted?).toList

end Site

structure Scope where
  fieldNames : List String
  parameterNames : List String
  declared : List String
  used : List String
  assigned : List String
  nullChecked : List String
  initialized : List String
  exceptions : List String
  loopVariables : List String
  /-- Fields, then parameters, then locals; the latest entry of a name counts. -/
  types : List TypedName
  /-- The canonical text of the body. -/
  bodyText : String
  deriving DecidableEq, Repr

namespace Scope

def ofMethod (fields : List TypedName) (method : Site) : Scope :=
  let parameters := method.parameters
  let nodes := (method.body?.map Site.scope).getD []
  { fieldNames := fields.map (·.name)
    parameterNames := (parameters.map (·.name)).filter (!·.isEmpty)
    declared := nodes.flatMap Site.declaredNames
    used := nodes.flatMap Site.usedNames
    assigned := nodes.flatMap Site.assignedNames
    nullChecked := nodes.flatMap Site.nullCheckedNames
    initialized := nodes.flatMap Site.initializedNames
    exceptions := nodes.filterMap Site.exceptionName?
    loopVariables := nodes.filterMap Site.loopVariable?
    types := fields ++ parameters.map (fun parameter => ⟨parameter.name, parameter.type⟩) ++
      nodes.flatMap Site.typedNames
    bodyText := renderOf method.body? }

def typeOf? (scope : Scope) (name : String) : Option String :=
  (scope.types.reverse.find? (·.name == name)).map (·.type)

/-- Is the name declared as a string, or named like one? -/
def isStringTyped (scope : Scope) (name : String) : Bool :=
  scope.typeOf? name == some "String" || Vocabulary.isStringLikeName name

/-- Names that are never reported as unused. -/
def isExempt (scope : Scope) (name : String) : Bool :=
  name.toList.head? == some '_' ||
    ["args", "e", "ex", "exception", "ignored"].contains name ||
    scope.fieldNames.contains name || scope.parameterNames.contains name

end Scope

/-- Does the text of a while loop assign and count up the name, or compare it? -/
def drivesLoop (name loop : String) : Bool :=
  let mentions := fun (suffix : String) => Text.contains loop (name ++ suffix)
  (mentions " =" && mentions "++") || mentions " <" || mentions " >"

namespace Site

def controlsLoopAmong (name : String) : List Site → Bool
  | [] => false
  | ancestor :: rest =>
    if ancestor.kind.isTypeBody then false
    else
      match ancestor.kind with
      | .forStatement | .enhancedForStatement => true
      | .whileStatement => drivesLoop name ancestor.render
      | .methodDeclaration | .constructorDeclaration => false
      | _ => controlsLoopAmong name rest

/-- Is a local declared inside a for loop, or does it drive the while loop around it? -/
def isLoopControl (declarator : Site) : Bool :=
  controlsLoopAmong declarator.declaredName declarator.ancestors

end Site

namespace Kind

def usesEvery (kind : Kind) : Bool :=
  !(kind.neverUses || kind.declaresName || kind == .fieldAccess || kind == .lambdaExpression)

end Kind

namespace Site

theorem isUse_of_usesEvery {site parent : Site} (isChild : site ∈ parent.children)
    (plain : parent.kind.usesEvery = true) : site.isUse = true := by
  simp only [Kind.usesEvery, Bool.not_eq_true', Bool.or_eq_false_iff, beq_eq_false_iff_ne] at plain
  obtain ⟨⟨⟨used, undeclared⟩, noAccess⟩, noLambda⟩ := plain
  rw [isUse, parent?_of_mem_children isChild]
  dsimp only
  rw [if_neg (ne_true_of_eq_false used), if_neg (ne_true_of_eq_false undeclared)]
  split
  next access => exact absurd access noAccess
  next lambda => exact absurd lambda noLambda
  next => rfl

/-- An expression that names an identifier, in parentheses or not, holds a use of it, provided that
the expression is a use if it is bare. -/
theorem exists_use_of_identifier? {start operand : Site} {name : String}
    (member : operand ∈ start.scope) (bareUse : operand.kind = .identifier → operand.isUse = true)
    (named : operand.identifier? = some name) :
    ∃ use ∈ start.scope, use.kind = .identifier ∧ use.isUse = true ∧ use.text = name := by
  induction operand using induction_children with
  | step operand ih =>
    rw [identifier?_eq_bind, unwrap?_eq] at named
    split at named
    -- Parentheses use what stands in them, so the hypothesis about bare operands is met
    -- inside.
    next parenthesized =>
      have isParenthesized := beq_iff_eq.mp parenthesized
      rw [Option.bind_assoc] at named
      obtain ⟨inner, found, innerNamed⟩ := Option.bind_eq_some_iff.mp named
      have isInner := List.mem_of_find?_eq_some found
      rw [← identifier?_eq_bind] at innerNamed
      refine ih inner isInner (mem_scope_of_child member ?_ isInner)
        (fun _ => isUse_of_usesEvery isInner ?_) innerNamed
      all_goals
        rw [isParenthesized]
        rfl
    next =>
      rw [Option.bind_some] at named
      split at named
      next isIdentifier =>
        have bare := beq_iff_eq.mp isIdentifier
        exact ⟨operand, member, bare, bareUse bare, Option.some.inj named⟩
      next => cases named

theorem usedNames_of_identifier {receiver : Site} (bare : receiver.kind = .identifier) :
    receiver.usedNames = if receiver.isUse then [receiver.text] else [] := by
  simp [usedNames, ownField?, assignedNames, changedName?, changedField?, bare]

theorem assignedNames_subset_usedNames (site : Site) : site.assignedNames ⊆ site.usedNames :=
  List.subset_append_right ..

theorem initializedNames_subset (site : Site) :
    site.initializedNames ⊆ site.declaredNames ++ site.assignedNames := by
  intro name member
  simp only [initializedNames, List.mem_append, List.mem_map] at member
  simp only [declaredNames, assignedNames, List.mem_append, List.mem_map]
  rcases member with (⟨declarator, given, named⟩ | ofResource) | ofAssignment
  · exact .inl (.inl ⟨declarator, (List.mem_filter.mp given).1, named⟩)
  · exact .inl (.inr ofResource)
  · split at ofAssignment
    · exact .inr (.inl ofAssignment)
    · cases ofAssignment

theorem map_name_typedNames (site : Site) :
    site.typedNames.map (·.name) = site.declaredNames ++ site.loopVariable?.toList := by
  rw [typedNames, List.map_map]
  exact List.map_id _

end Site

namespace Scope

theorem typeOf?_isSome_iff {scope : Scope} {name : String} :
    (scope.typeOf? name).isSome ↔ name ∈ scope.types.map (·.name) := by
  simp [typeOf?]

theorem mem_types_of_parameter (fields : List TypedName) (method : Site) {name : String}
    (member : name ∈ (ofMethod fields method).parameterNames) :
    name ∈ (ofMethod fields method).types.map (·.name) := by
  obtain ⟨parameter, isParameter, rfl⟩ := List.mem_map.mp (List.mem_filter.mp member).1
  simp only [ofMethod, List.map_append, List.mem_append, List.map_map, List.mem_map]
  exact .inl (.inr ⟨parameter, isParameter, rfl⟩)

theorem types_ofMethod (fields : List TypedName) (method : Site) :
    (ofMethod fields method).types = fields ++ (ofMethod [] method).types := by
  simp [ofMethod]

end Scope

end JavaAudit
