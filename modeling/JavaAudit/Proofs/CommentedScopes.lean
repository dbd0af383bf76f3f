import JavaAudit.Proofs.InsertedComments
import JavaAudit.Proofs.Ownership

/-! What comments in a method change about its scope.

Nodes that correspond say the same about names, with two exceptions. An update takes its first
named child as its operand, and the type of a variable arity parameter is the last named child that
is no declarator; both may be comments. So comments can hide that a name is assigned, and they can
change the text of types, but nothing else. -/

set_option autoImplicit false

namespace JavaAudit

namespace Site

theorem IsRemark.kind_ne {site : Site} (remark : site.IsRemark) {kind : Kind}
    (code : kind.isComment = false) : site.kind ≠ kind := by
  rintro rfl
  have comment : site.kind.isComment = true := remark.comment
  rw [code] at comment
  cases comment

/-- The node is no reason for any fact about names. -/
structure SaysNothing (site : Site) : Prop where
  declared : site.declaredNames = []
  used : site.usedNames = []
  assigned : site.assignedNames = []
  nullChecked : site.nullCheckedNames = []
  initialized : site.initializedNames = []
  exception : site.exceptionName? = none
  loopVariable : site.loopVariable? = none
  typed : site.typedNames = []
  parameter : site.parameter? = none

theorem IsRemark.saysNothing {site : Site} (remark : site.IsRemark) : site.SaysNothing := by
  have kind : site.kind = .lineComment ∨ site.kind = .blockComment := by
    have comment : site.kind.isComment = true := remark.comment
    revert comment
    cases site.kind <;> simp [Kind.isComment]
  rcases kind with kind | kind <;> constructor <;>
    simp [declaredNames, localDeclarators, resourceName?, usedNames, ownField?, assignedNames,
      changedName?, changedField?, nullCheckedNames, nullCompared?, nullAsserted?, nonempty?,
      initializedNames, exceptionName?, loopVariable?, typedNames, parameter?, kind]

namespace Corresponds

variable {condition : Node → Node → Prop} {before after : Site}

theorem isUse_eq (corresponds : Corresponds condition before after) :
    after.isUse = before.isUse := by
  have parents := corresponds.parentKind
  have fills := corresponds.fills
  unfold isUse
  cases beforeParent : before.parent? with
  | none =>
    rw [beforeParent, Option.map_none, Option.map_eq_none_iff] at parents
    rw [parents]
  | some parent =>
    rw [beforeParent] at parents
    obtain ⟨parentAfter, afterParent, kindEq⟩ := Option.map_eq_some_iff.mp parents
    simp only [beforeParent, afterParent, Option.any_some] at fills
    simp only [afterParent, kindEq, fills]

end Corresponds

theorem isNamed_of_kind {site : Site} {kind : Kind} (isKind : site.kind = kind)
    (known : [Kind.variableDeclarator, .formalParameter, .catchFormalParameter,
      .enhancedForStatement, .resource, .methodInvocation].contains kind = true) :
    site.node.isNamed = true := by
  have nodeKind : site.node.kind = kind := isKind
  rw [Node.isNamed, nodeKind, known, Bool.or_true]

namespace Matches

variable {condition : Node → Node → Prop} {before after : Site}

theorem ownField?_eq (matched : Matches condition before after) :
    after.ownField? = before.ownField? := by
  have throughThis : (after.child? .object).any (·.kind == .thisReference) =
      (before.child? .object).any (·.kind == .thisReference) :=
    any_eq_of_rel (matched.child? .object) fun _ _ same => by rw [same.kind_eq]
  rw [ownField?, ownField?, matched.kind_eq, throughThis, matched.childText_eq (by decide)]

theorem bind_identifier?_eq (matched : Matches condition before after) (role : Role) :
    (after.child? role).bind identifier? = (before.child? role).bind identifier? :=
  bind_eq_of_rel (matched.child? role) fun _ _ same => same.identifier?_eq

theorem changedName?_eq (matched : Matches condition before after)
    (noUpdate : before.kind ≠ .updateExpression) : after.changedName? = before.changedName? := by
  unfold changedName?
  rw [matched.kind_eq, matched.bind_identifier?_eq]
  split
  · rfl
  · contradiction
  · rfl

theorem changedField?_eq (matched : Matches condition before after) :
    after.changedField? = before.changedField? := by
  have field : (after.child? .left).bind ownField? = (before.child? .left).bind ownField? :=
    bind_eq_of_rel (matched.child? .left) fun _ _ same => same.ownField?_eq
  by_cases isAssignment : before.kind = .assignmentExpression
  · rw [changedField?, changedField?, matched.kind_eq, field, matched.changedName?_eq]
    rw [isAssignment]
    decide
  · simp [changedField?, matched.kind_eq, isAssignment]

theorem assignedNames_eq (matched : Matches condition before after)
    (noUpdate : before.kind ≠ .updateExpression) :
    after.assignedNames = before.assignedNames := by
  rw [assignedNames, assignedNames, matched.changedName?_eq noUpdate, matched.changedField?_eq]

theorem localDeclarators (matched : Matches condition before after) :
    List.Forall₂ (fun first second => Corresponds condition first second ∧
        first.node.isNamed = true)
      before.localDeclarators after.localDeclarators := by
  unfold Site.localDeclarators
  rw [matched.kind_eq]
  split
  · refine (matched.childrenIn .declarator).imp ?_
    rintro first second ⟨same, inRole⟩
    exact ⟨same, by simp [Node.isNamed, inRole]⟩
  · exact .nil

theorem resourceName?_eq (matched : Matches condition before after) :
    after.resourceName? = before.resourceName? := by
  rw [resourceName?, resourceName?, matched.kind_eq]
  split
  next isResource =>
    have isNamed : before.node.isNamed = true := isNamed_of_kind (beq_iff_eq.mp isResource) rfl
    have name := matched.node.keeps.name isNamed
    rw [← map_node_child?, ← map_node_child?, Option.map_map, Option.map_map] at name
    exact name
  next => rfl

theorem declaredNames_eq (matched : Matches condition before after) :
    after.declaredNames = before.declaredNames := by
  rw [declaredNames, declaredNames, matched.resourceName?_eq,
    map_eq_of_forall₂ matched.localDeclarators fun _ _ same => same.1.declaredName_eq same.2]

theorem initializedNames_eq (matched : Matches condition before after) :
    after.initializedNames = before.initializedNames := by
  have withValue : List.Forall₂ (fun first second => Corresponds condition first second ∧
        first.node.isNamed = true)
      (before.localDeclarators.filter fun declarator => (declarator.child? .value).isSome)
      (after.localDeclarators.filter fun declarator => (declarator.child? .value).isSome) := by
    refine List.rel_filter ?_ matched.localDeclarators
    rintro first second ⟨same, _⟩
    simp only [isSome_eq_of_rel (same.child? .value)]
  -- Only updates hide their operand, so an assignment changes the same name.
  have assigned : (if after.kind == .assignmentExpression then after.changedName?.toList else []) =
      if before.kind == .assignmentExpression then before.changedName?.toList else [] := by
    rw [matched.kind_eq]
    split
    next isAssignment =>
      rw [matched.changedName?_eq]
      rw [beq_iff_eq.mp isAssignment]
      decide
    next => rfl
  rw [initializedNames, initializedNames, matched.resourceName?_eq, assigned,
    map_eq_of_forall₂ withValue fun _ _ same => same.1.declaredName_eq same.2]

theorem loopVariable?_eq (matched : Matches condition before after) :
    after.loopVariable? = before.loopVariable? := by
  rw [loopVariable?, loopVariable?, matched.kind_eq]
  split
  next isLoop =>
    exact congrArg some (matched.declaredName_eq (isNamed_of_kind (beq_iff_eq.mp isLoop) rfl))
  next => rfl

theorem exceptionName?_eq (matched : Matches condition before after) :
    after.exceptionName? = before.exceptionName? := by
  rw [exceptionName?, exceptionName?, matched.kind_eq]
  split
  next isCatch =>
    exact congrArg some (matched.declaredName_eq (isNamed_of_kind (beq_iff_eq.mp isCatch) rfl))
  next => rfl

theorem nullCompared?_eq (matched : Matches condition before after) :
    after.nullCompared? = before.nullCompared? := by
  have isNull : ∀ role, (after.child? role).any (·.kind == .nullLiteral) =
      (before.child? role).any (·.kind == .nullLiteral) := fun role =>
    any_eq_of_rel (matched.child? role) fun _ _ same => by rw [same.kind_eq]
  rw [nullCompared?, nullCompared?, matched.kind_eq, matched.childText_eq (by decide), isNull,
    isNull, matched.bind_identifier?_eq, matched.bind_identifier?_eq]

theorem isObjects_eq (matched : Matches condition before after) :
    (after.childText .object == "Objects") = (before.childText .object == "Objects") := by
  have reads : ∀ site : Site, (site.childText .object == "Objects") =
      (site.child? .object).any (·.text == "Objects") := by
    intro site
    rw [childText_eq_child?]
    cases site.child? .object <;> rfl
  rw [reads, reads]
  refine any_eq_of_rel (matched.child?_role .object) ?_
  rintro first second ⟨same, _, inRole⟩
  exact same.node.keeps.receiver inRole

theorem callName_eq (matched : Matches condition before after)
    (isCall : before.kind = .methodInvocation) : after.callName = before.callName :=
  matched.declaredName_eq (isNamed_of_kind isCall rfl)

theorem nullAsserted?_eq (matched : Matches condition before after) :
    after.nullAsserted? = before.nullAsserted? := by
  have argument : after.arguments.head?.bind identifier? =
      before.arguments.head?.bind identifier? :=
    bind_eq_of_rel (rel_head? matched.arguments) fun _ _ same => same.identifier?_eq
  rw [nullAsserted?, nullAsserted?, matched.kind_eq, matched.isObjects_eq, argument]
  by_cases isCall : before.kind = .methodInvocation
  · rw [matched.callName_eq isCall]
  · simp [isCall]

theorem nullCheckedNames_eq (matched : Matches condition before after) :
    after.nullCheckedNames = before.nullCheckedNames := by
  rw [nullCheckedNames, nullCheckedNames, matched.nullCompared?_eq, matched.nullAsserted?_eq]

end Matches

/-- Does a comment stand in the place of the operand of an update? -/
def isHidden (site : Site) : Bool :=
  site.kind == .updateExpression && site.namedChildren.head?.any (·.kind.isComment)

/-- The name that an assignment or an update changes, if comments are passed over. -/
def target? (site : Site) : Option String :=
  if site.kind == .updateExpression then nonempty? (site.parts.head?.bind identifier?)
  else site.changedName?

theorem changedName?_eq_ite (site : Site) :
    site.changedName? = if site.isHidden then none else site.target? := by
  by_cases isUpdate : site.kind = .updateExpression
  · cases comment : site.namedChildren.head?.any (·.kind.isComment) with
    | true =>
      cases first : site.namedChildren.head? with
      | none => simp [first] at comment
      | some operand =>
        rw [first, Option.any_some] at comment
        simp [changedName?, isHidden, isUpdate, first, comment, nonempty?,
          identifier?_eq_none_of_isComment comment]
    | false => simp [changedName?, isHidden, target?, isUpdate, comment, head?_parts comment]
  · simp [isHidden, target?, isUpdate]

def hiddenName? (site : Site) : Option String :=
  if site.isHidden then site.target? else none

/-- The names that are not seen to change in a method, because the operands of updates are
hidden. -/
def hiddenNames (method : Site) : List String :=
  method.ownScope.filterMap hiddenName?

def targets (site : Site) : List String :=
  site.target?.toList ++ site.changedField?.toList

theorem mem_targets_iff {site : Site} {name : String} :
    name ∈ site.targets ↔ name ∈ site.assignedNames ∨ site.hiddenName? = some name := by
  rw [targets, assignedNames, changedName?_eq_ite, hiddenName?]
  cases site.isHidden <;> simp [or_comm]

theorem IsRemark.targets_eq_nil {site : Site} (remark : site.IsRemark) : site.targets = [] := by
  have target : site.target? = site.changedName? :=
    if_neg fun isUpdate => remark.kind_ne rfl (beq_iff_eq.mp isUpdate)
  rw [targets, target]
  exact remark.saysNothing.assigned

namespace Matches

variable {condition : Node → Node → Prop} {before after : Site}

theorem target?_eq (matched : Matches condition before after) :
    after.target? = before.target? := by
  have first : after.parts.head?.bind identifier? = before.parts.head?.bind identifier? :=
    bind_eq_of_rel (rel_head? matched.parts) fun _ _ same => same.identifier?_eq
  rw [target?, target?, matched.kind_eq, first]
  split
  next => rfl
  next noUpdate => exact matched.changedName?_eq (ne_of_beq_false (eq_false_of_ne_true noUpdate))

theorem isHidden_of_before (matched : Matches condition before after)
    (hidden : before.isHidden = true) : after.isHidden = true := by
  rw [isHidden, Bool.and_eq_true_iff] at hidden ⊢
  rw [matched.kind_eq]
  refine ⟨hidden.1, ?_⟩
  have named := matched.namedChildren
  have comment := hidden.2
  generalize before.namedChildren = operands at named comment
  generalize after.namedChildren = operandsAfter at named ⊢
  cases named with
  | nil => exact comment
  | keep same _ =>
    rw [List.head?_cons, Option.any_some] at comment ⊢
    rwa [same.kind_eq]
  | insert remark _ => exact remark.comment

theorem assignedNames_subset (matched : Matches condition before after) :
    after.assignedNames ⊆ before.assignedNames := by
  rw [assignedNames, assignedNames, matched.changedField?_eq, changedName?_eq_ite after,
    changedName?_eq_ite before, matched.target?_eq]
  cases hidden : after.isHidden with
  | true =>
    rw [if_pos rfl]
    exact List.subset_append_right ..
  | false =>
    -- Comments only come to hide an operand, so one that is seen now was seen before.
    have shown : before.isHidden ≠ true := fun hiddenBefore => by
      rw [matched.isHidden_of_before hiddenBefore] at hidden
      cases hidden
    rw [if_neg shown]
    exact List.Subset.refl _

theorem targets_eq (matched : Matches condition before after) : after.targets = before.targets := by
  rw [targets, targets, matched.target?_eq, matched.changedField?_eq]

end Matches

/-- The names used other than by an update. -/
def plainUses (site : Site) : List String :=
  if site.kind == .updateExpression then [] else site.usedNames

theorem mem_used_iff {start : Site} {name : String} :
    name ∈ start.scope.flatMap usedNames ↔ name ∈ start.scope.flatMap plainUses := by
  simp only [List.mem_flatMap]
  constructor
  · rintro ⟨site, member, used⟩
    by_cases isUpdate : site.kind = .updateExpression
    -- What an update uses is its operand, and the identifier in there is a use by itself.
    · have changed : site.changedName? = some name := by
        simpa [usedNames, assignedNames, changedField?, ownField?, isUpdate] using used
      simp only [changedName?, isUpdate, nonempty?] at changed
      obtain ⟨operand, first, named⟩ :=
        Option.bind_eq_some_iff.mp (Option.filter_eq_some_iff.mp changed).1
      have isChild := (List.mem_filter.mp (List.mem_of_mem_head? first)).1
      have isOperand : operand ∈ start.scope := by
        refine mem_scope_of_child member ?_ isChild
        rw [isUpdate]
        rfl
      obtain ⟨use, inScope, isIdentifier, isUse, text⟩ :=
        exists_use_of_identifier? isOperand
          (fun _ => isUse_of_usesEvery isChild (by rw [isUpdate]; rfl)) named
      exact ⟨use, inScope, by simp [plainUses, usedNames, isIdentifier, isUse, text]⟩
    · exact ⟨site, member, by simpa [plainUses, isUpdate] using used⟩
  · rintro ⟨site, member, used⟩
    refine ⟨site, member, ?_⟩
    unfold plainUses at used
    split at used
    · cases used
    · exact used

theorem Corresponds.plainUses_eq {condition : Node → Node → Prop} {before after : Site}
    (corresponds : Corresponds condition before after) :
    after.plainUses = before.plainUses := by
  by_cases isUpdate : before.kind = .updateExpression
  · simp [plainUses, corresponds.kind_eq, isUpdate]
  · have read : (if after.kind == .identifier && after.isUse then [after.text] else []) =
        if before.kind == .identifier && before.isUse then [before.text] else [] := by
      rw [corresponds.kind_eq, corresponds.isUse_eq]
      split
      next isIdentifier =>
        rw [corresponds.text_eq_of_identifier (Bool.and_eq_true_iff.mp isIdentifier).1]
      next => rfl
    rw [plainUses, plainUses, corresponds.kind_eq, usedNames, usedNames, read,
      corresponds.ownField?_eq, corresponds.assignedNames_eq isUpdate]

end Site

namespace Node

/-- The child that is read as the type of a variable arity parameter. -/
def spreadType? (node : Node) : Option Node :=
  (node.children.filter (·.named)).reverse.find? fun part =>
    part.kind != .variableDeclarator && part.kind != .modifiers

/-- No comment was put in front of the operand of an update, behind the type of a variable arity
parameter or inside a type. -/
structure Spares (before after : Node) : Prop where
  operand : before.kind = .updateExpression →
    (after.children.find? (·.named)).any (·.kind.isComment) =
      (before.children.find? (·.named)).any (·.kind.isComment)
  spread : before.kind = .spreadParameter →
    after.spreadType?.map text = before.spreadType?.map text
  type : textOf (after.child? .type) = textOf (before.child? .type)

instance : DecidableRel Spares := fun _ _ =>
  decidable_of_iff (_ ∧ _ ∧ _) ⟨fun ⟨operand, spread, type⟩ => ⟨operand, spread, type⟩,
    fun ⟨operand, spread, type⟩ => ⟨operand, spread, type⟩⟩

end Node

namespace Site

theorem spreadParameter_eq (site : Site) :
    site.spreadParameter =
      ⟨(site.node.spreadType?.map fun part => part.text ++ "...").getD "",
        ((site.namedChildren.reverse.find? (·.kind == .variableDeclarator)).map
          declaredName).getD ""⟩ := by
  rw [spreadParameter, Node.spreadType?, ← map_node_namedChildren, ← List.map_reverse,
    List.find?_map, Option.map_map]
  rfl

namespace Matches

variable {before after : Site}

theorem assignedNames_eq_of_spares (matched : Matches Node.Spares before after) :
    after.assignedNames = before.assignedNames := by
  have hidden : after.isHidden = before.isHidden := by
    by_cases isUpdate : before.kind = .updateExpression
    · rw [isHidden, isHidden, matched.kind_eq, any_isComment_head?, any_isComment_head?,
        matched.node.here.operand isUpdate]
    · rw [isHidden, isHidden, matched.kind_eq, beq_false_of_ne isUpdate, Bool.false_and,
        Bool.false_and]
  rw [assignedNames, assignedNames, changedName?_eq_ite, changedName?_eq_ite, hidden,
    matched.target?_eq, matched.changedField?_eq]

theorem map_name_typedNames_eq {condition : Node → Node → Prop}
    (matched : Matches condition before after) :
    after.typedNames.map (·.name) = before.typedNames.map (·.name) := by
  rw [typedNames, typedNames, List.map_map, List.map_map, matched.declaredNames_eq,
    matched.loopVariable?_eq]
  rfl

theorem typeText_eq (matched : Matches Node.Spares before after) :
    after.childText .type = before.childText .type :=
  matched.node.here.type

theorem typedNames_eq (matched : Matches Node.Spares before after) :
    after.typedNames = before.typedNames := by
  rw [typedNames, typedNames, matched.declaredNames_eq, matched.loopVariable?_eq,
    matched.typeText_eq]

theorem spreadName_eq {condition : Node → Node → Prop} (matched : Matches condition before after) :
    after.spreadParameter.name = before.spreadParameter.name := by
  rw [spreadParameter, spreadParameter]
  refine congrArg (Option.getD · "") (map_eq_of_rel (matched.namedChildren.reverse.find? ?_ ?_) ?_)
  · exact fun added remark => beq_false_of_ne (remark.kind_ne rfl)
  · intro first second same
    rw [same.kind_eq]
  · rintro first second ⟨same, _, isDeclarator⟩
    exact same.declaredName_eq (isNamed_of_kind (beq_iff_eq.mp isDeclarator) rfl)

theorem parameterName_eq {condition : Node → Node → Prop}
    (matched : Matches condition before after) :
    after.parameter?.map (·.name) = before.parameter?.map (·.name) := by
  unfold parameter?
  rw [matched.kind_eq]
  split
  next isParameter => exact congrArg some (matched.declaredName_eq (isNamed_of_kind isParameter rfl))
  next => exact congrArg some matched.spreadName_eq
  next => rfl

theorem parameter?_eq (matched : Matches Node.Spares before after) :
    after.parameter? = before.parameter? := by
  unfold parameter?
  rw [matched.kind_eq]
  split
  next isParameter =>
    rw [matched.typeText_eq, matched.declaredName_eq (isNamed_of_kind isParameter rfl)]
  next isSpread =>
    have name := matched.spreadName_eq
    have type := congrArg (Option.map (· ++ "...")) (matched.node.here.spread isSpread)
    rw [Option.map_map, Option.map_map] at type
    rw [spreadParameter_eq, spreadParameter_eq] at name ⊢
    exact congrArg some (congr (congrArg Parameter.mk (congrArg (Option.getD · "") type)) name)
  next => rfl

theorem ownScope {condition : Node → Node → Prop} (matched : Matches condition before after) :
    Interspersed IsRemark (Corresponds condition) before.ownScope after.ownScope := by
  have found := matched.child? .body
  unfold Site.ownScope body?
  generalize before.child? .body = body at found ⊢
  generalize after.child? .body = bodyAfter at found ⊢
  cases found with
  | none => exact .nil
  | some same => exact same.walk Kind.isTypeBody

theorem renderOf_body?_eq {condition : Node → Node → Prop}
    (matched : Matches condition before after) : renderOf after.body? = renderOf before.body? := by
  refine congrArg (Option.getD · "") (map_eq_of_rel (matched.child? .body) fun _ _ same => ?_)
  rw [render_eq, render_eq, same.node.tokens_eq]

theorem parameterNames_eq {condition : Node → Node → Prop}
    (matched : Matches condition before after) :
    after.parameters.map (·.name) = before.parameters.map (·.name) := by
  have found := matched.child? .parameters
  unfold Site.parameters
  generalize before.child? .parameters = list at found ⊢
  generalize after.child? .parameters = listAfter at found ⊢
  cases found with
  | none => rfl
  | some same =>
    simp only [Option.map_some, Option.getD_some, List.map_filterMap]
    refine same.namedChildren.filterMap_eq (fun added remark => ?_) fun _ _ same =>
      same.parameterName_eq
    rw [remark.saysNothing.parameter, Option.map_none]

theorem parameters_eq (matched : Matches Node.Spares before after) :
    after.parameters = before.parameters := by
  refine congrArg (Option.getD · []) (map_eq_of_rel (matched.child? .parameters) fun _ _ same => ?_)
  exact same.namedChildren.filterMap_eq (fun added remark => remark.saysNothing.parameter)
    fun _ _ same => same.parameter?_eq

end Matches

theorem mem_ownScope_used_iff {method : Site} {name : String} :
    name ∈ method.ownScope.flatMap usedNames ↔ name ∈ method.ownScope.flatMap plainUses := by
  unfold ownScope
  cases method.body? with
  | none => exact Iff.rfl
  | some body => exact mem_used_iff

end Site

namespace Scope

/-- The scopes see the same, except perhaps for assignments and the text of types. -/
structure SeesAlike (left right : Scope) : Prop where
  parameterNames : left.parameterNames = right.parameterNames
  declared : left.declared = right.declared
  used : ∀ name, name ∈ left.used ↔ name ∈ right.used
  nullChecked : left.nullChecked = right.nullChecked
  initialized : left.initialized = right.initialized
  exceptions : left.exceptions = right.exceptions
  loopVariables : left.loopVariables = right.loopVariables
  typed : left.types.map (·.name) = right.types.map (·.name)
  bodyText : left.bodyText = right.bodyText

/-- The scopes see the same. -/
structure Agrees (left right : Scope) : Prop extends SeesAlike left right where
  assigned : ∀ name, name ∈ left.assigned ↔ name ∈ right.assigned
  types : ∀ name, left.typeOf? name = right.typeOf? name

section
variable {condition : Node → Node → Prop} {method commented : Site}

theorem seesAlike_of_matches (fields : List TypedName)
    (matched : method.Matches condition commented) :
    (ofMethod fields method).SeesAlike (ofMethod fields commented) where
  parameterNames := by
    simp only [ofMethod, matched.parameterNames_eq]
  declared := (matched.ownScope.flatMap_eq (fun _ remark => remark.saysNothing.declared)
    fun _ _ same => same.declaredNames_eq).symm
  used name := by
    -- The operand of an update is a use by itself, so updates need not be looked at.
    have uses := matched.ownScope.flatMap_eq (f := Site.plainUses) (g := Site.plainUses)
      (fun added remark => by simp [Site.plainUses, remark.saysNothing.used])
      fun _ _ same => same.plainUses_eq
    exact Site.mem_ownScope_used_iff.trans (uses ▸ Site.mem_ownScope_used_iff.symm)
  nullChecked := (matched.ownScope.flatMap_eq (fun _ remark => remark.saysNothing.nullChecked)
    fun _ _ same => same.nullCheckedNames_eq).symm
  initialized := (matched.ownScope.flatMap_eq (fun _ remark => remark.saysNothing.initialized)
    fun _ _ same => same.initializedNames_eq).symm
  exceptions := (matched.ownScope.filterMap_eq (fun _ remark => remark.saysNothing.exception)
    fun _ _ same => same.exceptionName?_eq).symm
  loopVariables := (matched.ownScope.filterMap_eq
    (fun _ remark => remark.saysNothing.loopVariable) fun _ _ same => same.loopVariable?_eq).symm
  typed := by
    have names := matched.ownScope.flatMap_eq (f := fun site => site.typedNames.map (·.name))
      (g := fun site => site.typedNames.map (·.name))
      (fun added remark => by rw [remark.saysNothing.typed, List.map_nil])
      fun _ _ same => same.map_name_typedNames_eq
    simp only [Site.ownScope] at names
    simp only [ofMethod, List.map_append, List.map_map, List.map_flatMap, names]
    exact congrArg (_ ++ · ++ _) matched.parameterNames_eq.symm
  bodyText := matched.renderOf_body?_eq.symm

theorem assigned_subset (fields : List TypedName) (matched : method.Matches condition commented) :
    (ofMethod fields commented).assigned ⊆ (ofMethod fields method).assigned := by
  intro name member
  obtain ⟨site, inScope, assigned⟩ := List.mem_flatMap.mp member
  rcases matched.ownScope.isNew_or_exists_before inScope with remark | ⟨other, found, same⟩
  · rw [remark.saysNothing.assigned] at assigned
    cases assigned
  · exact List.mem_flatMap.mpr ⟨other, found, same.assignedNames_subset assigned⟩

theorem mem_assigned_or_hidden_iff (fields : List TypedName) (method : Site) (name : String) :
    name ∈ (ofMethod fields method).assigned ∨ name ∈ method.hiddenNames ↔
      name ∈ method.ownScope.flatMap Site.targets := by
  have assigned : name ∈ (ofMethod fields method).assigned ↔
      ∃ site ∈ method.ownScope, name ∈ site.assignedNames := List.mem_flatMap
  rw [assigned, Site.hiddenNames, List.mem_filterMap, List.mem_flatMap, ← exists_or]
  refine exists_congr fun site => ?_
  rw [← and_or_left, Site.mem_targets_iff]

theorem assigned_or_hidden_iff (fields : List TypedName)
    (matched : method.Matches condition commented) (name : String) :
    name ∈ (ofMethod fields method).assigned ∨ name ∈ method.hiddenNames ↔
      name ∈ (ofMethod fields commented).assigned ∨ name ∈ commented.hiddenNames := by
  rw [mem_assigned_or_hidden_iff, mem_assigned_or_hidden_iff,
    matched.ownScope.flatMap_eq (fun _ remark => remark.targets_eq_nil)
      fun _ _ same => same.targets_eq]

theorem agrees_of_spares (fields : List TypedName)
    (matched : method.Matches Node.Spares commented) :
    (ofMethod fields method).Agrees (ofMethod fields commented) where
  toSeesAlike := seesAlike_of_matches fields matched
  assigned name := by
    have same := matched.ownScope.flatMap_eq (fun _ remark => remark.saysNothing.assigned)
      fun _ _ same => same.assignedNames_eq_of_spares
    exact iff_of_eq (congrArg (name ∈ ·) same.symm)
  types name := by
    have typed := matched.ownScope.flatMap_eq (f := Site.typedNames) (g := Site.typedNames)
      (fun _ remark => remark.saysNothing.typed) fun _ _ same => same.typedNames_eq
    have types : (ofMethod fields commented).types = (ofMethod fields method).types := by
      unfold ofMethod
      rw [matched.parameters_eq]
      exact congrArg (_ ++ ·) typed
    rw [typeOf?, typeOf?, types]

end

/-- Comments put into a method change at most which names its scope sees assigned and the text of
types. No assigned name is gained, and the assigned and the hidden names together stay the same;
comments that stand in front of no operand and in no type change nothing. -/
theorem sees_alike_in_spite_of_comments (fields : List TypedName) (method commented : Site)
    (inserted : method.node.Commented (fun _ _ => True) commented.node) :
    let before := ofMethod fields method
    let after := ofMethod fields commented
    before.SeesAlike after ∧ after.assigned ⊆ before.assigned ∧
      (∀ name, name ∈ before.assigned ∨ name ∈ method.hiddenNames ↔
        name ∈ after.assigned ∨ name ∈ commented.hiddenNames) ∧
      (method.node.Commented Node.Spares commented.node → before.Agrees after) := by
  intro before after
  exact ⟨seesAlike_of_matches fields ⟨inserted⟩, assigned_subset fields ⟨inserted⟩,
    assigned_or_hidden_iff fields ⟨inserted⟩, fun spared => agrees_of_spares fields ⟨spared⟩⟩

def updating (source : String) (parts : List Node) : Node :=
  let stop := source.length
  .voidMethod source 0 stop [
    .ofAscii source .expressionStatement true none 11 (stop - 2) [
      .ofAscii source .updateExpression true none 11 (stop - 3) parts,
      .token source ";" (stop - 3)]]

def postfixUpdate : Node :=
  let source := "void f() \x7b i++; \x7d"
  updating source [.ofAscii source .identifier true none 11 12 [], .token source "++" 12]

def postfixCommented : Node :=
  let source := "void f() \x7b i/**/++; \x7d"
  updating source [.ofAscii source .identifier true none 11 12 [],
    .ofAscii source .blockComment true none 12 16 [], .token source "++" 16]

theorem comment_behind_operand_changes_nothing :
    postfixUpdate.Commented Node.Spares postfixCommented ∧
      (ofMethod [] (.root postfixUpdate)).Agrees (ofMethod [] (.root postfixCommented)) ∧
      (ofMethod [] (.root postfixCommented)).assigned = ["i"] := by
  have inserted : postfixUpdate.Commented (fun _ _ => True) postfixCommented := by decide +kernel
  have spared : postfixUpdate.Commented Node.Spares postfixCommented := by decide +kernel
  obtain ⟨_, _, _, agrees⟩ := sees_alike_in_spite_of_comments [] (.root postfixUpdate)
    (.root postfixCommented) inserted
  exact ⟨spared, agrees spared, by decide +kernel⟩

def prefixUpdate : Node :=
  let source := "void f() \x7b ++i; \x7d"
  updating source [.token source "++" 11, .ofAscii source .identifier true none 13 14 []]

def prefixCommented : Node :=
  let source := "void f() \x7b ++/**/i; \x7d"
  updating source [.token source "++" 11, .ofAscii source .blockComment true none 13 17 [],
    .ofAscii source .identifier true none 17 18 []]

theorem comment_before_operand_hides_assignment :
    prefixUpdate.Commented (fun _ _ => True) prefixCommented ∧
      (ofMethod [] (.root prefixUpdate)).assigned = ["i"] ∧
      (ofMethod [] (.root prefixCommented)).assigned = [] := by
  decide +kernel

end Scope

end JavaAudit
