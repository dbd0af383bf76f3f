import JavaAudit.Proofs.Displacement
import JavaAudit.Proofs.RenamedKeys
import JavaAudit.Rule
import JavaAudit.Security.Flow

/-! What rules know about a moved method.

The scope of a moved method is that of the method, its decision points are moved with it, and the
questions that rules ask about the flow of values have the same answers. -/

set_option autoImplicit false

namespace JavaAudit

namespace Site

variable (delta : Displacement)

@[simp] theorem fields_move (root : Site) : (root.move delta).fields = root.fields := by
  simp [fields, List.flatMap_map, Function.comp_def]

@[simp] theorem fillsRole_move (site parent : Site) (role : Role) :
    (site.move delta).fillsRole (parent.move delta) role = site.fillsRole parent role := by
  simp [fillsRole, Option.any_map]

@[simp] theorem isUse_move (site : Site) : (site.move delta).isUse = site.isUse := by
  unfold isUse
  rw [parent?_move]
  cases site.parent? <;> simp

@[simp] theorem ownField?_move (site : Site) : (site.move delta).ownField? = site.ownField? := by
  simp [ownField?, Option.any_map]

@[simp] theorem changedName?_move (site : Site) :
    (site.move delta).changedName? = site.changedName? := by
  simp [changedName?]

@[simp] theorem changedField?_move (site : Site) :
    (site.move delta).changedField? = site.changedField? := by
  rw [changedField?, changedField?, kind_move, changedName?_move, child?_move]
  cases site.child? .left <;> simp

@[simp] theorem assignedNames_move (site : Site) :
    (site.move delta).assignedNames = site.assignedNames := by
  simp [assignedNames]

@[simp] theorem usedNames_move (site : Site) :
    (site.move delta).usedNames = site.usedNames := by
  simp [usedNames]

@[simp] theorem localDeclarators_move (site : Site) :
    (site.move delta).localDeclarators = site.localDeclarators.map (move delta) := by
  unfold localDeclarators
  rw [kind_move, childrenIn_move]
  split <;> rfl

@[simp] theorem resourceName?_move (site : Site) :
    (site.move delta).resourceName? = site.resourceName? := by
  simp [resourceName?, Function.comp_def]

@[simp] theorem declaredNames_move (site : Site) :
    (site.move delta).declaredNames = site.declaredNames := by
  simp [declaredNames, Function.comp_def]

@[simp] theorem initializedNames_move (site : Site) :
    (site.move delta).initializedNames = site.initializedNames := by
  simp [initializedNames, List.filter_map, Function.comp_def]

@[simp] theorem loopVariable?_move (site : Site) :
    (site.move delta).loopVariable? = site.loopVariable? := by
  simp [loopVariable?]

@[simp] theorem exceptionName?_move (site : Site) :
    (site.move delta).exceptionName? = site.exceptionName? := by
  simp [exceptionName?]

@[simp] theorem typedNames_move (site : Site) :
    (site.move delta).typedNames = site.typedNames := by
  simp [typedNames]

@[simp] theorem nullCompared?_move (site : Site) :
    (site.move delta).nullCompared? = site.nullCompared? := by
  simp [nullCompared?, Option.any_map]

@[simp] theorem nullAsserted?_move (site : Site) :
    (site.move delta).nullAsserted? = site.nullAsserted? := by
  simp [nullAsserted?]

@[simp] theorem nullCheckedNames_move (site : Site) :
    (site.move delta).nullCheckedNames = site.nullCheckedNames := by
  simp [nullCheckedNames]

end Site

variable (delta : Displacement)

@[simp] theorem Scope.ofMethod_move (fields : List TypedName) (method : Site) :
    ofMethod fields (method.move delta) = ofMethod fields method := by
  unfold ofMethod
  rw [Site.body?_move]
  cases method.body? with
  | none => simp
  | some body => simp [List.flatMap_map, List.filterMap_map, renderOf]

@[simp] theorem Site.controlsLoopAmong_move (name : String) (sites : List Site) :
    controlsLoopAmong name (sites.map (move delta)) = controlsLoopAmong name sites := by
  induction sites with
  | nil => rfl
  | cons site rest ih =>
    rw [List.map_cons, controlsLoopAmong, controlsLoopAmong, kind_move, render_move, ih]

@[simp] theorem Site.isLoopControl_move (declarator : Site) :
    (declarator.move delta).isLoopControl = declarator.isLoopControl := by
  simp [isLoopControl]

@[simp] theorem Site.isDecisionPoint_move (site : Site) :
    (site.move delta).isDecisionPoint = site.isDecisionPoint := by
  simp [isDecisionPoint]

@[simp] theorem Site.decisionPoints_move (method : Site) :
    (method.move delta).decisionPoints = method.decisionPoints.map (move delta) := by
  unfold decisionPoints
  rw [body?_move]
  cases method.body? with
  | none => rfl
  | some body => simp [List.filter_map, Function.comp_def]

def Complexity.move (complexity : Complexity) : Complexity :=
  { complexity with decisions := complexity.decisions.shift delta.lines id }

@[simp] theorem Complexity.ofMethod_move (method : Site) :
    ofMethod (method.move delta) = (ofMethod method).move delta := by
  have lines :
      ((method.move delta).decisionPoints.map fun point => ((point.line : Int), (1 : Nat))) =
        (method.decisionPoints.map fun point => ((point.line : Int), (1 : Nat))).map fun entry =>
          (entry.1 + (delta.lines : Int), entry.2) := by
    simp [Function.comp_def]
  unfold ofMethod
  rw [lines, Assoc.tally_shift]
  simp [move]

def MethodContext.move (context : MethodContext) : MethodContext :=
  { context with
    method := context.method.move delta
    complexity := context.complexity.move delta }

@[simp] theorem MethodContext.name_move (context : MethodContext) :
    (context.move delta).name = context.name := by
  simp [name, move]

namespace Security

@[simp] theorem isConcatenation_move (site : Site) :
    isConcatenation (site.move delta) = isConcatenation site := by
  simp [isConcatenation]

@[simp] theorem concatenatesVariable_move (site : Site) :
    concatenatesVariable (site.move delta) = concatenatesVariable site := by
  simp [concatenatesVariable, Function.comp_def]

@[simp] theorem concatenatesText_move (site : Site) :
    concatenatesText (site.move delta) = concatenatesText site := by
  simp [concatenatesText, Function.comp_def]

@[simp] theorem uncast?_move (site : Site) :
    uncast? (site.move delta) = (uncast? site).map (Site.move delta) := by
  unfold uncast?
  rw [Site.unwrap?_move]
  cases site.unwrap? with
  | none => rfl
  | some inner =>
    simp only [Option.map_some, Option.bind_some, Site.kind_move, Site.child?_move]
    split
    · cases inner.child? .value <;> simp
    · rfl

@[simp] theorem isLookup_move (site : Site) : isLookup (site.move delta) = isLookup site := by
  simp [isLookup, Option.any_map]

@[simp] theorem lookupTarget?_move (site : Site) :
    lookupTarget? (site.move delta) = lookupTarget? site := by
  simp [lookupTarget?, Option.any_map]

@[simp] theorem lookupNames_move (body : Site) :
    lookupNames (body.move delta) = lookupNames body := by
  simp [lookupNames, List.filterMap_map]

@[simp] theorem concatenatesInto_move (name : String) (site : Site) :
    concatenatesInto name (site.move delta) = concatenatesInto name site := by
  simp [concatenatesInto, Option.any_map]

@[simp] theorem isBuiltByConcatenation_move (name : String) (body : Site) (before : Nat) :
    isBuiltByConcatenation name (body.move delta) (before + delta.bytes) =
      isBuiltByConcatenation name body before := by
  simp [isBuiltByConcatenation, List.takeWhile_map, Function.comp_def]

@[simp] theorem isPreparedReceiver_move (call : Site) (scope : Scope) :
    isPreparedReceiver (call.move delta) scope = isPreparedReceiver call scope := by
  simp [isPreparedReceiver, Option.any_map]

@[simp] theorem isInTestMethod_move (site : Site) :
    isInTestMethod (site.move delta) = isInTestMethod site := by
  simp [isInTestMethod, Option.any_map]

end Security

end JavaAudit
