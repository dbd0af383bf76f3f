import Mathlib.Data.List.Pairwise
import JavaAudit.Proofs.CommentedScopes
import JavaAudit.Proofs.UnusedLocals

/-! Receivers as uses.

A call, a field access, an array access and a method reference go through a receiver. An identifier
there is a use, unless it cannot be told from the selected name, or the access is a method
reference: all identifiers of a method reference are passed over, its receiver too. So a local that
is used only to refer to methods is reported as unused. -/

set_option autoImplicit false

namespace JavaAudit

def Node.InSequence (node : Node) : Prop :=
  node.children.Pairwise fun left right => left.stop ≤ right.start

instance : DecidablePred Node.InSequence :=
  fun node => inferInstanceAs (Decidable (node.children.Pairwise _))

namespace Site

def receiver? (access : Site) : Option Site :=
  match access.kind with
  | .methodInvocation | .fieldAccess => access.child? .object
  | .arrayAccess => access.child? .array
  | .methodReference =>
    ((access.children.takeWhile (·.kind != .other "::")).filter (·.node.isPart)).getLast?
  | _ => none

/-- Is a bare receiver passed over? A method reference passes over all its identifiers, and a call
and a field access pass over what stands where the selected name stands. -/
def passesOver (access receiver : Site) : Bool :=
  receiver.kind == .identifier &&
    match access.kind with
    | .methodInvocation => receiver.fillsRole access .name
    | .fieldAccess => receiver.fillsRole access .field
    | .methodReference => true
    | _ => false

variable {access receiver : Site}

theorem kind_of_receiver?_eq_some (received : access.receiver? = some receiver) :
    access.kind = .methodInvocation ∨ access.kind = .fieldAccess ∨ access.kind = .arrayAccess ∨
      access.kind = .methodReference := by
  unfold receiver? at received
  split at received
  next kind => exact .inl kind
  next kind => exact .inr (.inl kind)
  next kind => exact .inr (.inr (.inl kind))
  next kind => exact .inr (.inr (.inr kind))
  next => cases received

theorem mem_children_of_receiver? (received : access.receiver? = some receiver) :
    receiver ∈ access.children := by
  unfold receiver? at received
  split at received
  next => exact List.mem_of_find?_eq_some received
  next => exact List.mem_of_find?_eq_some received
  next => exact List.mem_of_find?_eq_some received
  next =>
    have isPart := (List.mem_filter.mp (List.mem_of_getLast? received)).1
    exact (List.takeWhile_sublist _).mem isPart
  next => cases received

theorem isUse_of_receiver? (received : access.receiver? = some receiver)
    (bare : receiver.kind = .identifier) : receiver.isUse = !access.passesOver receiver := by
  rw [isUse, parent?_of_mem_children (mem_children_of_receiver? received), passesOver, bare]
  rcases kind_of_receiver?_eq_some received with kind | kind | kind | kind <;>
    simp [kind, Kind.neverUses, Kind.declaresName]

/-- An access in the body of a method, with its receiver. -/
structure Receives (method access receiver : Site) : Prop where
  inBody : access ∈ method.ownScope
  received : access.receiver? = some receiver

theorem exists_scope_of_mem_ownScope {method site : Site} (member : site ∈ method.ownScope) :
    ∃ body : Site, method.ownScope = body.scope := by
  unfold ownScope at member ⊢
  cases found : method.body? with
  | none => simp [found] at member
  | some body => exact ⟨body, rfl⟩

theorem Receives.mem_ownScope {method : Site} (receives : method.Receives access receiver) :
    receiver ∈ method.ownScope := by
  have inBody := receives.inBody
  obtain ⟨body, scope⟩ := exists_scope_of_mem_ownScope inBody
  rw [scope] at inBody ⊢
  refine mem_scope_of_child inBody ?_ (mem_children_of_receiver? receives.received)
  rcases kind_of_receiver?_eq_some receives.received with kind | kind | kind | kind <;>
    rw [kind] <;> rfl

theorem Receives.exists_use {method : Site} {name : String}
    (receives : method.Receives access receiver) (counted : access.passesOver receiver = false)
    (named : receiver.identifier? = some name) :
    ∃ user ∈ method.ownScope, name ∈ user.usedNames := by
  have isReceiver := receives.mem_ownScope
  obtain ⟨body, scope⟩ := exists_scope_of_mem_ownScope isReceiver
  have bareUse (bare : receiver.kind = .identifier) : receiver.isUse = true := by
    rw [isUse_of_receiver? receives.received bare, counted]
    rfl
  rw [scope] at isReceiver ⊢
  obtain ⟨use, inScope, bare, isUse, rfl⟩ := exists_use_of_identifier? isReceiver bareUse named
  refine ⟨use, inScope, ?_⟩
  rw [usedNames_of_identifier bare, isUse, if_pos rfl]
  exact List.mem_singleton_self _

theorem kind_of_passesOver (passed : access.passesOver receiver = true) :
    receiver.kind = .identifier := by
  simpa using (Bool.and_eq_true_iff.mp passed).1

theorem usedNames_of_passesOver (received : access.receiver? = some receiver)
    (passed : access.passesOver receiver = true) : receiver.usedNames = [] := by
  have bare := kind_of_passesOver passed
  rw [usedNames_of_identifier bare, isUse_of_receiver? received bare, passed]
  rfl

/-- Children in different roles stand at different places, if they cover any text. -/
theorem fillsRole_eq_false {role other : Role} (ordered : access.node.InSequence)
    (found : access.child? role = some receiver) (wide : receiver.node.start < receiver.node.stop)
    (different : role ≠ other) : receiver.fillsRole access other = false := by
  have inRole : access.node.child? role = some receiver.node := by
    rw [← map_node_child?, found]
    rfl
  rw [fillsRole]
  cases named : access.node.child? other with
  | none => rfl
  | some selected =>
    have apart : access.node.children.Pairwise fun left right =>
        left.stop ≤ right.start ∨ right.stop ≤ left.start := ordered.imp .inl
    have : Std.Symm fun left right : Node =>
        left.stop ≤ right.start ∨ right.stop ≤ left.start := ⟨fun _ _ => Or.symm⟩
    have ne : selected ≠ receiver.node := by
      rintro rfl
      have isOther : receiver.node.role = some other := by
        simpa using List.find?_some named
      have isRole : receiver.node.role = some role := by
        simpa using List.find?_some inRole
      exact different (Option.some.inj (isRole.symm.trans isOther))
    -- Disjoint ranges, of which one is not empty, do not agree in both ends.
    have disjoint := apart.forall (List.mem_of_find?_eq_some named)
      (List.mem_of_find?_eq_some inRole) ne
    rw [Option.any_some, Node.sameAs]
    by_cases start : selected.start = receiver.node.start
    · have stop : selected.stop ≠ receiver.node.stop := by omega
      simp [stop]
    · simp [start]

/-- Among children that follow each other, only method references pass over a receiver. -/
theorem passesOver_iff_of_inSequence (ordered : access.node.InSequence)
    (received : access.receiver? = some receiver)
    (wide : receiver.node.start < receiver.node.stop) :
    access.passesOver receiver = true ↔
      access.kind = .methodReference ∧ receiver.kind = .identifier := by
  rw [passesOver, Bool.and_eq_true_iff, beq_iff_eq, and_comm]
  rcases kind_of_receiver?_eq_some received with kind | kind | kind | kind
  · rw [receiver?, kind] at received
    have notName : receiver.fillsRole access .name = false :=
      fillsRole_eq_false ordered received wide (by decide)
    simp [kind, notName]
  · rw [receiver?, kind] at received
    have notField : receiver.fillsRole access .field = false :=
      fillsRole_eq_false ordered received wide (by decide)
    simp [kind, notField]
  · simp [kind]
  · simp [kind]

theorem text_mem_used_iff {fields : List TypedName} {method : Site}
    (received : access.receiver? = some receiver) (passed : access.passesOver receiver = true) :
    receiver.text ∈ (Scope.ofMethod fields method).used ↔
      ∃ user ∈ method.ownScope, user ≠ receiver ∧ receiver.text ∈ user.usedNames := by
  have unused := usedNames_of_passesOver received passed
  constructor
  · intro used
    obtain ⟨user, inScope, uses⟩ := List.mem_flatMap.mp used
    refine ⟨user, inScope, ?_, uses⟩
    rintro rfl
    rw [unused] at uses
    cases uses
  · rintro ⟨user, inScope, -, uses⟩
    exact List.mem_flatMap.mpr ⟨user, inScope, uses⟩

end Site

namespace Optimization

theorem unusedVariable_of_mem_used {context : MethodContext} {declarator : Site}
    (used : declarator.declaredName ∈ context.scope.used) :
    unusedVariable declarator context = silent := by
  have busy : isIdleLocal context declarator = false := by
    simp [isIdleLocal, used]
  rw [unusedVariable_eq, busy]
  rfl

/-- A receiver that is not passed over is used, and no local of its name is reported as unused.
All receivers are used exactly if other nodes use those that are passed over. Where the children
of an access follow each other, these are the bare receivers of method references. -/
theorem receivers_used_iff (fields : List TypedName) (method : Site) (owner : String)
    (complexity : Complexity) :
    let context : MethodContext := ⟨method, owner, .ofMethod fields method, complexity⟩
    (∀ access receiver : Site, method.Receives access receiver →
      access.passesOver receiver = false → ∀ name, receiver.identifier? = some name →
      name ∈ context.scope.used ∧ ∀ declarator : Site, declarator.declaredName = name →
        unusedVariable declarator context = silent) ∧
    ((∀ access receiver : Site, method.Receives access receiver →
        ∀ name, receiver.identifier? = some name → name ∈ context.scope.used) ↔
      ∀ access receiver : Site, method.Receives access receiver →
        access.passesOver receiver = true →
        ∃ user ∈ method.ownScope, user ≠ receiver ∧ receiver.text ∈ user.usedNames) ∧
    ∀ access receiver : Site, method.Receives access receiver → access.node.InSequence →
      receiver.node.start < receiver.node.stop →
      (access.passesOver receiver = true ↔
        access.kind = .methodReference ∧ receiver.kind = .identifier) := by
  intro context
  have counted (access receiver : Site) (receives : method.Receives access receiver)
      (kept : access.passesOver receiver = false) (name : String)
      (named : receiver.identifier? = some name) : name ∈ context.scope.used :=
    List.mem_flatMap.mpr (receives.exists_use kept named)
  refine ⟨?_, ⟨?_, ?_⟩, ?_⟩
  · intro access receiver receives kept name named
    have used := counted access receiver receives kept name named
    exact ⟨used, fun _ declares => unusedVariable_of_mem_used (declares ▸ used)⟩
  · intro all access receiver receives passed
    have named := Site.identifier?_of_identifier (Site.kind_of_passesOver passed)
    exact (Site.text_mem_used_iff receives.received passed).mp
      (all access receiver receives _ named)
  · intro others access receiver receives name named
    -- Only for receivers that are passed over is another node needed.
    cases passed : access.passesOver receiver with
    | false => exact counted access receiver receives passed name named
    | true =>
      rw [Site.identifier?_of_identifier (Site.kind_of_passesOver passed)] at named
      rw [← Option.some.inj named]
      exact (Site.text_mem_used_iff receives.received passed).mpr
        (others access receiver receives passed)
  · intro access receiver receives ordered wide
    exact Site.passesOver_iff_of_inSequence ordered receives.received wide

def runnableLocal (source : String) (call : Node) : Node :=
  let node := Node.ofAscii source
  .voidMethod source 0 source.length [
    node .localVariableDeclaration true none 11 29 [
      node (.other "type_identifier") true (some .type) 11 19 [],
      node .variableDeclarator true (some .declarator) 20 28 [
        node .identifier true (some .name) 20 21 [], .token source "=" 22,
        node .nullLiteral true (some .value) 24 28 []],
      node .semicolon false none 28 29 []],
    node .expressionStatement true none 30 (source.length - 2) [
      call, node .semicolon false none (source.length - 3) (source.length - 2) []]]

def runningLocal : Node :=
  let source := "void f() { Runnable r = null; r.run(); }"
  let node := Node.ofAscii source
  let token := Node.token source
  runnableLocal source (node .methodInvocation true none 30 37 [
    node .identifier true (some .object) 30 31 [], token "." 31,
    node .identifier true (some .name) 32 35 [],
    node .argumentList true (some .arguments) 35 37 [token "(" 35, token ")" 36]])

def referredLocal : Node :=
  let source := "void f() { Runnable r = null; g(r::run); }"
  let node := Node.ofAscii source
  let token := Node.token source
  runnableLocal source (node .methodInvocation true none 30 39 [
    node .identifier true (some .name) 30 31 [],
    node .argumentList true (some .arguments) 31 39 [
      token "(" 31,
      node .methodReference true none 32 38 [
        node .identifier true none 32 33 [], token "::" 33, node .identifier true none 35 38 []],
      token ")" 38]])

theorem running_local_used :
    let method := Site.root runningLocal
    let context := MethodContext.alone [] runningLocal
    ∃ access receiver : Site, method.Receives access receiver ∧ access.node.InSequence ∧
      receiver.node.start < receiver.node.stop ∧ receiver.identifier? = some "r" ∧
      access.passesOver receiver = false ∧ "r" ∈ context.scope.used ∧
      ∀ declarator ∈ localsOf runningLocal, unusedVariable declarator context = silent := by
  intro method context
  let access := method.ownScope.get ⟨9, by decide +kernel⟩
  let receiver := access.receiver?.get (by decide +kernel)
  have receives : method.Receives access receiver :=
    ⟨List.get_mem .., (Option.some_get _).symm⟩
  have ordered : access.node.InSequence := by decide +kernel
  have wide : receiver.node.start < receiver.node.stop := by decide +kernel
  have named : receiver.identifier? = some "r" := by decide +kernel
  obtain ⟨counted, _, passed⟩ := receivers_used_iff [] method context.owner context.complexity
  have kept : access.passesOver receiver = false := by
    rw [← Bool.not_eq_true, passed access receiver receives ordered wide]
    decide +kernel
  obtain ⟨used, quiet⟩ := counted access receiver receives kept "r" named
  have declares : ∀ declarator ∈ localsOf runningLocal, declarator.declaredName = "r" := by
    decide +kernel
  exact ⟨access, receiver, receives, ordered, wide, named, kept, used,
    fun declarator isLocal => quiet declarator (declares declarator isLocal)⟩

/-- A local that is used only to refer to its method is reported as unused. -/
theorem referred_local_reported :
    let method := Site.root referredLocal
    let context := MethodContext.alone [] referredLocal
    ∃ access receiver : Site, method.Receives access receiver ∧
      receiver.identifier? = some "r" ∧ "r" ∉ context.scope.used ∧
      (analyzeMethod {} context).findings = (localsOf referredLocal).map unusedFinding ∧
      (localsOf referredLocal).map (·.declaredName) = ["r"] := by
  intro method context
  let access := method.ownScope.get ⟨13, by decide +kernel⟩
  let receiver := access.receiver?.get (by decide +kernel)
  have receives : method.Receives access receiver :=
    ⟨List.get_mem .., (Option.some_get _).symm⟩
  refine ⟨access, receiver, receives, ?_, ?_, ?_, ?_⟩ <;> decide +kernel

end Optimization

end JavaAudit
