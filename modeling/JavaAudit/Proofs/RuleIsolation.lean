import Mathlib.Data.List.Basic
import JavaAudit.Rule

/-! What the rules of a table have to do with each other.

A run is a list of contributions, one for each node and each rule that inspects it, and a
contribution depends on its own rule and node only. Main statement: a rule finds in a table what it
finds alone, whatever the other rules do, and a rule that fails contributes nothing. -/

set_option autoImplicit false

namespace JavaAudit

section
variable {α β : Type}

theorem flatMap_ite (items : List α) (wanted : α → Bool) (f : α → List β) :
    items.flatMap (fun item => if wanted item then f item else []) =
      (items.filter wanted).flatMap f := by
  induction items with
  | nil => rfl
  | cons item rest ih =>
    rw [List.flatMap_cons, ih, List.filter_cons]
    cases wanted item <;> rfl

theorem flatMap_zipIdx_fst (items : List α) (f : α → List β) :
    items.zipIdx.flatMap (fun entry => f entry.1) = items.flatMap f := by
  rw [← List.flatMap_map Prod.fst f, List.zipIdx_map_fst]

theorem zipIdx_mapIdx (items : List α) (f : Nat → α → β) :
    (items.mapIdx f).zipIdx = items.zipIdx.map fun entry => (f entry.2 entry.1, entry.2) := by
  apply List.ext_getElem?
  intro index
  simp [Option.map_map, Function.comp_def]

theorem zipIdx_ascending (items : List α) :
    items.zipIdx.Pairwise fun left right => left.2 < right.2 := by
  rw [← List.pairwise_map (f := Prod.snd) (R := (· < ·)), List.zipIdx_map_snd]
  exact List.pairwise_lt_range' 1

theorem filter_zipIdx_eq (items : List α) (start index : Nat) :
    (items.zipIdx start).filter (·.2 == start + index) =
      (items[index]?.map fun item => (item, start + index)).toList := by
  induction items generalizing start index with
  | nil => simp
  | cons item rest ih =>
    rw [List.zipIdx_cons, List.filter_cons]
    cases index with
    | zero =>
      -- The places behind the first are higher.
      have later : (rest.zipIdx (start + 1)).filter (·.2 == start) = [] := by
        refine List.filter_eq_nil_iff.mpr fun entry member => ?_
        have := List.le_snd_of_mem_zipIdx member
        simp only [beq_iff_eq]
        omega
      simp [later]
    | succ index =>
      have shifted : start + (index + 1) = start + 1 + index := by omega
      have other : (start == start + 1 + index) = false := by
        rw [beq_eq_false_iff_ne]
        omega
      rw [shifted, other, ih (start + 1) index]
      rfl

theorem filter_zipIdx_set (items : List α) (start index : Nat) (item : α) :
    ((items.set index item).zipIdx start).filter (·.2 != start + index) =
      (items.zipIdx start).filter (·.2 != start + index) := by
  induction items generalizing start index with
  | nil => rfl
  | cons first rest ih =>
    cases index with
    | zero => simp
    | succ index =>
      have shifted : start + (index + 1) = start + 1 + index := by omega
      rw [List.set_cons_succ, List.zipIdx_cons, List.zipIdx_cons, List.filter_cons,
        List.filter_cons, shifted, ih (start + 1) index]

theorem filter_key_eq {key : α → β} [BEq β] [LawfulBEq β] {items : List α} {item : α}
    (distinct : items.Pairwise fun left right => key left ≠ key right) (member : item ∈ items) :
    items.filter (fun other => key other == key item) = [item] := by
  obtain ⟨before, after, rfl⟩ := List.append_of_mem member
  rw [List.pairwise_append, List.pairwise_cons] at distinct
  obtain ⟨_, ⟨behind, _⟩, across⟩ := distinct
  have none : ∀ part : List α, (∀ other ∈ part, key other ≠ key item) →
      part.filter (fun other => key other == key item) = [] := fun part apart =>
    List.filter_eq_nil_iff.mpr fun other inPart same => apart other inPart (eq_of_beq same)
  rw [List.filter_append, List.filter_cons, if_pos (beq_self_eq_true (key item)),
    none before fun other inPart => across other inPart item (List.mem_cons_self ..),
    none after fun other inPart => (behind other inPart).symm]
  rfl

end

inductive Reply (α : Type) where
  | nothing
  | one (finding : α)
  | several (list : List α)
  | failure (reason : String)

namespace Reply

variable {α : Type}

/-- A finding by itself is reported like a list of one. -/
def verdict : Reply α → Verdict α
  | .nothing => .findings []
  | .one finding => .findings [finding]
  | .several list => .findings list
  | .failure reason => .failed reason

def findings : Reply α → List α
  | .nothing | .failure _ => []
  | .one finding => [finding]
  | .several list => list

end Reply

namespace Rule

variable {γ α : Type}

def found (rules : List (Rule γ α)) (root : Site) (context : γ) : List α :=
  (run rules root context).flatMap (·.findings)

/-- What a rule adds to the findings at a node. -/
def contribution (rule : Rule γ α) (context : γ) (site : Site) : List α :=
  if rule.inspects site.kind then (rule.apply site context).findings else []

/-- The rule with its failures at the chosen nodes turned into replies without a finding. -/
def silencedAt (rule : Rule γ α) (chosen : Site → Bool) : Rule γ α :=
  { rule with
    check := fun site context =>
      match rule.check site context with
      | .failed reason => if chosen site then .findings [] else .failed reason
      | verdict => verdict }

theorem contribution_of_reply {rule : Rule γ α} {context : γ} {site : Site} {reply : Reply α}
    (inspects : rule.inspects site.kind = true)
    (replies : rule.check site context = reply.verdict) :
    rule.contribution context site = reply.findings := by
  rw [contribution, if_pos inspects, apply, Application.findings, replies]
  cases reply <;> rfl

theorem contribution_silencedAt (rule : Rule γ α) (chosen : Site → Bool) (context : γ)
    (site : Site) : (rule.silencedAt chosen).contribution context site =
      rule.contribution context site := by
  unfold contribution apply Application.findings silencedAt
  dsimp only
  cases rule.check site context with
  | findings list => rfl
  | malformedLiteral line => rfl
  | failed reason => cases chosen site <;> rfl

theorem findings_applyAll (rules : List (Rule γ α)) (context : γ) (site : Site) :
    (applyAll rules context site).flatMap (·.findings) =
      rules.flatMap (·.contribution context site) := by
  unfold contribution
  rw [applyAll, List.flatMap_map, flatMap_ite rules (·.inspects site.kind)]

theorem found_eq (rules : List (Rule γ α)) (root : Site) (context : γ) :
    found rules root context =
      root.scope.flatMap fun site => rules.flatMap (·.contribution context site) := by
  rw [found, run, List.flatMap_assoc]
  simp only [findings_applyAll]

structure Attributed (α : Type) where
  site : Site
  rule : Nat
  finding : α

/-- Document order of the nodes, then the order of the table. -/
def Attributed.InOrder (left right : Attributed α) : Prop :=
  left.site.position < right.site.position ∨ left.site = right.site ∧ left.rule ≤ right.rule

def attributedAt (rules : List (Rule γ α)) (context : γ) (site : Site) : List (Attributed α) :=
  rules.zipIdx.flatMap fun entry =>
    (entry.1.contribution context site).map fun finding => ⟨site, entry.2, finding⟩

def attributed (rules : List (Rule γ α)) (root : Site) (context : γ) : List (Attributed α) :=
  root.scope.flatMap (attributedAt rules context)

theorem of_mem_attributedAt {rules : List (Rule γ α)} {context : γ} {site : Site}
    {item : Attributed α} (member : item ∈ attributedAt rules context site) : item.site = site := by
  obtain ⟨entry, _, inEntry⟩ := List.mem_flatMap.mp member
  obtain ⟨finding, _, rfl⟩ := List.mem_map.mp inEntry
  rfl

section
variable (rules : List (Rule γ α)) (root : Site) (context : γ) (site : Site)

theorem map_finding_attributedAt :
    (attributedAt rules context site).map (·.finding) =
      rules.flatMap (·.contribution context site) := by
  rw [attributedAt, List.map_flatMap, ← flatMap_zipIdx_fst rules (·.contribution context site)]
  simp [Function.comp_def]

theorem map_finding_attributed :
    (attributed rules root context).map (·.finding) = found rules root context := by
  rw [found_eq, attributed, List.map_flatMap]
  simp only [map_finding_attributedAt]

theorem attributedAt_inOrder :
    (attributedAt rules context site).Pairwise fun left right =>
      left.site = right.site ∧ left.rule ≤ right.rule := by
  rw [attributedAt, List.pairwise_flatMap]
  constructor
  · intro entry _
    rw [List.pairwise_map]
    exact List.pairwise_of_forall fun _ _ => ⟨rfl, Nat.le_refl _⟩
  · refine (zipIdx_ascending rules).imp ?_
    intro first second before left inFirst right inSecond
    obtain ⟨_, _, rfl⟩ := List.mem_map.mp inFirst
    obtain ⟨_, _, rfl⟩ := List.mem_map.mp inSecond
    exact ⟨rfl, Nat.le_of_lt before⟩

theorem attributed_inOrder : (attributed rules root context).Pairwise Attributed.InOrder := by
  rw [attributed, List.pairwise_flatMap]
  constructor
  · intro site _
    exact (attributedAt_inOrder rules context site).imp .inr
  · refine (Site.walk_ascending _ root).imp ?_
    intro first second before left inFirst right inSecond
    rw [← of_mem_attributedAt inFirst, ← of_mem_attributedAt inSecond] at before
    exact .inl before

theorem filter_attributedAt (wanted : Nat → Bool) :
    (attributedAt rules context site).filter (wanted ·.rule) =
      (rules.zipIdx.filter (wanted ·.2)).flatMap fun entry =>
        (entry.1.contribution context site).map fun finding => ⟨site, entry.2, finding⟩ := by
  rw [attributedAt, List.filter_flatMap, ← flatMap_ite]
  refine List.flatMap_congr fun entry _ => ?_
  rw [List.filter_map]
  cases kept : wanted entry.2 with
  | true => simp [Function.comp_def, kept]
  | false => simp [Function.comp_def, kept]

variable {rules}

theorem filter_attributedAt_eq {index : Nat} {rule : Rule γ α} (found : rules[index]? = some rule) :
    (attributedAt rules context site).filter (·.rule == index) =
      (rule.contribution context site).map fun finding => ⟨site, index, finding⟩ := by
  have single : rules.zipIdx.filter (·.2 == index) = [(rule, index)] := by
    have chosen := filter_zipIdx_eq rules 0 index
    rw [Nat.zero_add, found] at chosen
    exact chosen
  rw [filter_attributedAt rules context site (· == index), single, List.flatMap_singleton]

theorem filter_attributed_eq {index : Nat} {rule : Rule γ α} (found : rules[index]? = some rule) :
    (attributed rules root context).filter (·.rule == index) =
      root.scope.flatMap fun site =>
        (rule.contribution context site).map fun finding => ⟨site, index, finding⟩ := by
  rw [attributed, List.filter_flatMap]
  simp only [filter_attributedAt_eq context _ found]

variable {root site}

/-- What comes from one rule at one node is the contribution of the rule there. -/
theorem filter_attributed_place {index : Nat} {rule : Rule γ α} (found : rules[index]? = some rule)
    (member : site ∈ root.scope) :
    ((attributed rules root context).filter fun item =>
        item.site.position == site.position && item.rule == index) =
      (rule.contribution context site).map fun finding => ⟨site, index, finding⟩ := by
  -- A position is taken by one node of the walk.
  have distinct : root.scope.Pairwise fun left right => left.position ≠ right.position := by
    refine (Site.walk_ascending _ root).imp ?_
    intro left right before same
    rw [same] at before
    exact List.lt_irrefl _ before
  rw [← List.filter_filter, filter_attributed_eq root context found, List.filter_flatMap]
  calc
    _ = root.scope.flatMap (fun other =>
          if other.position == site.position then
            (rule.contribution context other).map fun finding => ⟨other, index, finding⟩
          else []) := by
      refine List.flatMap_congr fun other _ => ?_
      rw [List.filter_map]
      cases same : other.position == site.position <;> simp [Function.comp_def, same]
    _ = _ := by
      rw [flatMap_ite root.scope (·.position == site.position), filter_key_eq distinct member,
        List.flatMap_singleton]

end

/-- The rules of a table do not interfere in a run. -/
structure Isolated (rules : List (Rule γ α)) (root : Site) (context : γ) : Prop where
  /-- Every finding of the run has an origin. -/
  complete : (attributed rules root context).map (·.finding) = found rules root context
  ordered : (attributed rules root context).Pairwise Attributed.InOrder
  /-- A rule finds in the table what it finds alone. -/
  alone : ∀ (index : Nat) (rule : Rule γ α), rules[index]? = some rule →
    ((attributed rules root context).filter (·.rule == index)).map (·.finding) =
      found [rule] root context
  /-- Each rule adds its reply, and nothing if it fails, at each node that it inspects. -/
  flattened : ∀ (index : Nat) (rule : Rule γ α), rules[index]? = some rule →
    ∀ site ∈ root.scope, rule.inspects site.kind = true →
      ∀ reply : Reply α, rule.check site context = reply.verdict →
        ((attributed rules root context).filter fun item =>
          item.site.position == site.position && item.rule == index).map (·.finding) =
          reply.findings
  /-- Whatever takes the place of a rule, the others find the same. -/
  unaffected : ∀ (index : Nat) (other : Rule γ α),
    (attributed (rules.set index other) root context).filter (·.rule != index) =
      (attributed rules root context).filter (·.rule != index)
  /-- Failures may as well be replies without a finding, for all rules and nodes or for some. -/
  silenced : ∀ chosen : Nat → Site → Bool,
    attributed (rules.mapIdx fun index rule => rule.silencedAt (chosen index)) root context =
      attributed rules root context

/-- The rules of a table do not interfere: in a run, the findings of one rule are, in order, those
of a run with that rule alone. A rule that fails at a node adds nothing there, leaves the findings
of all other rules and nodes and their order as they are, and might as well have found nothing. -/
theorem rules_isolated (rules : List (Rule γ α)) (root : Site) (context : γ) :
    Isolated rules root context where
  complete := map_finding_attributed rules root context
  ordered := attributed_inOrder rules root context
  alone := by
    intro index rule inTable
    rw [filter_attributed_eq root context inTable, List.map_flatMap, found_eq]
    simp [Function.comp_def]
  flattened := by
    intro index rule inTable site member inspects reply replies
    rw [filter_attributed_place context inTable member, contribution_of_reply inspects replies]
    simp [Function.comp_def]
  unaffected := by
    intro index other
    -- A table with one rule replaced has the same rules at all other places.
    have others := filter_zipIdx_set rules 0 index other
    rw [Nat.zero_add] at others
    rw [attributed, attributed, List.filter_flatMap, List.filter_flatMap]
    refine List.flatMap_congr fun site _ => ?_
    rw [filter_attributedAt _ context site (· != index), others,
      filter_attributedAt _ context site (· != index)]
  silenced := by
    intro chosen
    unfold attributed attributedAt
    rw [zipIdx_mapIdx]
    simp only [List.flatMap_map, contribution_silencedAt]

end Rule

end JavaAudit
