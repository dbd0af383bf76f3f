import JavaAudit.Proofs.UnusedLocals

/-! Names in canonical text.

Two searches in canonical text spare a local the report that it is unused. The search for uses takes
its name as a whole identifier in one of the known surroundings. The search in a while loop asks for
the letters of the name in front of an operator and does not look at what stands before them. So a
longer name that ends in the name of the local drives the loop in its place. -/

set_option autoImplicit false

namespace JavaAudit

open Text

namespace Usage

/-- The name stands between the two other parts of the code as a whole identifier, and there in one
of the known surroundings. -/
structure UsedBetween (code before name after : List Char) : Prop where
  whole : WholeIn code before name after
  surrounded : ∃ place ∈ surroundings, place.left.toList <:+ before ∧ place.right.toList <+: after

theorem around_iff {place : Surroundings} {name code : List Char} :
    place.around name code = true ↔ ∃ before after, WholeIn code before name after ∧
      place.left.toList <:+ before ∧ place.right.toList <+: after := by
  rw [Surroundings.around, occursWhole_iff]
  constructor
  · rintro ⟨before, after, whole⟩
    exact ⟨_, _, whole, List.suffix_append .., List.prefix_append ..⟩
  · rintro ⟨_, _, whole, ⟨before, rfl⟩, ⟨after, rfl⟩⟩
    exact ⟨before, after, whole⟩

theorem isUsedIn_iff {name code : String} (filled : name ≠ "") :
    isUsedIn name code = true ↔
      ∃ before after, UsedBetween code.toList before name.toList after := by
  have notEmpty : name.isEmpty = false := by simpa using filled
  rw [isUsedIn, notEmpty, Bool.not_false, Bool.true_and, List.any_eq_true]
  simp only [around_iff]
  constructor
  · rintro ⟨place, known, before, after, whole, left, right⟩
    exact ⟨before, after, whole, place, known, left, right⟩
  · rintro ⟨before, after, whole, place, known, left, right⟩
    exact ⟨place, known, before, after, whole, left, right⟩

/-- A name is used exactly if it occurs somewhere with no identifier character next to it, in one of
the eighteen surroundings. If every occurrence is touched by such a character, it is not used. -/
theorem used_iff_whole_in_surroundings (name code : String) (filled : name ≠ "") :
    surroundings.length = 18 ∧
    (isUsedIn name code = true ↔
      ∃ before after, UsedBetween code.toList before name.toList after) ∧
    ((∀ before after, code.toList = before ++ (name.toList ++ after) → ¬Untouched before after) →
      isUsedIn name code = false) := by
  refine ⟨rfl, isUsedIn_iff filled, fun touched => ?_⟩
  rw [Bool.eq_false_iff, ne_eq, isUsedIn_iff filled]
  rintro ⟨before, after, whole, _⟩
  exact touched before after whole.split whole.untouched

theorem argument_used_beside_longer_names :
    "x" ≠ "" ∧ isUsedIn "x" "foo(max, x);" = true ∧ isUsedIn "x" "max + xs" = false := by
  have filled : "x" ≠ "" := by decide
  obtain ⟨_, used, _⟩ := used_iff_whole_in_surroundings "x" "foo(max, x);" filled
  obtain ⟨_, _, unused⟩ := used_iff_whole_in_surroundings "x" "max + xs" filled
  refine ⟨filled, used.mpr ⟨"foo(max, ".toList, ");".toList, ?_, ?_⟩,
    unused fun before after split untouched => ?_⟩
  · exact ⟨by decide, by decide +kernel, by decide +kernel⟩
  · exact ⟨⟨", ", ")"⟩, by decide, ⟨"foo(max".toList, by decide⟩, ⟨";".toList, by decide⟩⟩
  · have found : occursWhole [] "x".toList [] "max + xs".toList = true :=
      occursWhole_iff.mpr ⟨before, after, by rw [List.append_nil]; exact ⟨split, untouched⟩⟩
    exact absurd found (by decide +kernel)

end Usage

/-- The name stands in the text as a whole identifier, with the mark right behind it. -/
def MentionsWhole (text name mark : List Char) : Prop :=
  ∃ before after, WholeIn text before name (mark ++ after)

/-- The name stands in the text as the end of a longer identifier, with the mark right behind it. -/
def MentionsEnd (text name mark : List Char) : Prop :=
  ∃ before after, text = before ++ (name ++ (mark ++ after)) ∧
    before.getLast?.any isIdentifierChar = true

/-- What the text of a loop does with a name that drives it: it assigns the name and counts it up, or
compares it. -/
def Drives (mentions : List Char → Prop) : Prop :=
  (mentions " =".toList ∧ mentions "++".toList) ∨ mentions " <".toList ∨ mentions " >".toList

/-- The name drives the loop with the help of longer identifiers that end in it. -/
inductive DrivesByEnd (text name : List Char) : Prop where
  | compared {mark : List Char} (isComparison : mark = " <".toList ∨ mark = " >".toList)
      (longer : MentionsEnd text name mark)
  | assigned (longer : MentionsEnd text name " =".toList) (counted : name ++ "++".toList <:+: text)
  | counted (assigned : MentionsWhole text name " =".toList)
      (longer : MentionsEnd text name "++".toList)

variable {text name mark : List Char}

theorem mentionsWhole_iff :
    MentionsWhole text name mark ↔ occursWhole [] name mark text = true := by
  simp only [occursWhole_iff, List.append_nil, MentionsWhole]

instance (text name mark : List Char) : Decidable (MentionsWhole text name mark) :=
  decidable_of_iff _ mentionsWhole_iff.symm

instance (mentions : List Char → Prop) [DecidablePred mentions] : Decidable (Drives mentions) :=
  inferInstanceAs (Decidable (_ ∨ _))

theorem MentionsWhole.isInfix (whole : MentionsWhole text name mark) :
    name ++ mark <:+: text := by
  obtain ⟨before, after, split, _⟩ := whole
  exact ⟨before, after, by simp [split]⟩

theorem MentionsEnd.isInfix (longer : MentionsEnd text name mark) :
    name ++ mark <:+: text := by
  obtain ⟨before, after, split, _⟩ := longer
  exact ⟨before, after, by simp [split]⟩

/-- A mark behind the name that no identifier holds leaves only the other side open. -/
theorem infix_iff_mentions (free : mark.head?.any isIdentifierChar = false)
    (filled : mark ≠ []) :
    name ++ mark <:+: text ↔ MentionsWhole text name mark ∨ MentionsEnd text name mark := by
  constructor
  · rintro ⟨before, after, rfl⟩
    have split : before ++ (name ++ mark) ++ after = before ++ (name ++ (mark ++ after)) := by simp
    cases longer : before.getLast?.any isIdentifierChar with
    | true => exact .inr ⟨before, after, split, longer⟩
    | false =>
      refine .inl ⟨before, after, split, longer, ?_⟩
      rwa [List.head?_append_of_ne_nil _ filled]
  · exact fun mentions => mentions.elim MentionsWhole.isInfix MentionsEnd.isInfix

theorem drivesLoop_iff (name loop : String) :
    drivesLoop name loop = true ↔ Drives fun mark => name.toList ++ mark <:+: loop.toList := by
  simp only [drivesLoop, Text.contains, String.toList_append, Bool.or_eq_true, Bool.and_eq_true,
    occursIn_iff_isInfix, or_assoc, Drives]

theorem Drives.mono {first second : List Char → Prop} (weaker : ∀ mark, first mark → second mark)
    (drives : Drives first) : Drives second :=
  Or.imp (And.imp (weaker _) (weaker _)) (Or.imp (weaker _) (weaker _)) drives

theorem drives_infix_iff :
    (Drives fun mark => name ++ mark <:+: text) ↔
      Drives (MentionsWhole text name) ∨ DrivesByEnd text name := by
  constructor
  · rintro (⟨assigned, counted⟩ | below | above)
    · -- Assigning and counting may each be done by a longer name; it takes both to be whole.
      rcases (infix_iff_mentions rfl (by decide)).mp assigned with wholeAssigned | longer
      · rcases (infix_iff_mentions rfl (by decide)).mp counted with wholeCounted | longer
        · exact .inl (.inl ⟨wholeAssigned, wholeCounted⟩)
        · exact .inr (.counted wholeAssigned longer)
      · exact .inr (.assigned longer counted)
    · exact ((infix_iff_mentions rfl (by decide)).mp below).imp (fun whole => .inr (.inl whole))
        (.compared (.inl rfl))
    · exact ((infix_iff_mentions rfl (by decide)).mp above).imp (fun whole => .inr (.inr whole))
        (.compared (.inr rfl))
  · rintro (drives | byEnd)
    · exact drives.mono fun _ whole => whole.isInfix
    · cases byEnd with
      | compared isComparison longer =>
        rcases isComparison with rfl | rfl
        · exact .inr (.inl longer.isInfix)
        · exact .inr (.inr longer.isInfix)
      | assigned longer counted => exact .inl ⟨longer.isInfix, counted⟩
      | counted assigned longer => exact .inl ⟨assigned.isInfix, longer.isInfix⟩

namespace Site

def nearestLoop? (site : Site) : Option Site :=
  site.enclosing? Kind.isLoop Optimization.boundsMethod

theorem controlsLoopAmong_eq_drivesLoop (name : String) {sites : List Site} {loop : Site}
    (nearest : nearest? Kind.isLoop Optimization.boundsMethod sites = some loop)
    (isWhile : loop.kind = .whileStatement) :
    controlsLoopAmong name sites = drivesLoop name loop.render := by
  -- Both searches go up the same ancestors, and the first loop that they meet is the while
  -- loop.
  induction sites with
  | nil => cases nearest
  | cons site rest ih =>
    rw [nearest?] at nearest
    rw [controlsLoopAmong_cons]
    split at nearest
    case isTrue =>
      cases nearest
      rw [isWhile]
      rfl
    case isFalse noLoop =>
      split at nearest
      case isTrue => cases nearest
      case isFalse inside =>
        have other (kind : Kind) (isLoop : kind.isLoop = true) : (site.kind == kind) = false :=
          beq_false_of_ne fun same => noLoop (same ▸ isLoop)
        rw [if_neg inside, other .forStatement rfl, other .enhancedForStatement rfl,
          other .whileStatement rfl, ih nearest]
        rfl

/-- A local whose nearest loop is a while loop counts as driving it exactly if its name does so, as
a whole identifier or with the help of longer ones. -/
theorem isLoopControl_iff_of_while {declarator loop : Site}
    (nearest : declarator.nearestLoop? = some loop) (isWhile : loop.kind = .whileStatement) :
    declarator.isLoopControl = true ↔
      Drives (MentionsWhole loop.render.toList declarator.declaredName.toList) ∨
        DrivesByEnd loop.render.toList declarator.declaredName.toList := by
  rw [isLoopControl, controlsLoopAmong_eq_drivesLoop _ nearest isWhile, drivesLoop_iff,
    drives_infix_iff]

end Site

namespace Optimization

/-- Inside a while loop a local counts as driving the loop exactly if its name does so as a whole
identifier or with the help of longer ones that end in it, and only then is an idle local not
reported. So being exempt takes the whole name, unless longer names are all there is. -/
theorem while_local_exempt_iff {declarator loop : Site}
    (nearest : declarator.nearestLoop? = some loop) (isWhile : loop.kind = .whileStatement) :
    let whole := Drives (MentionsWhole loop.render.toList declarator.declaredName.toList)
    let byEnd := DrivesByEnd loop.render.toList declarator.declaredName.toList
    (declarator.isLoopControl = true ↔ whole ∨ byEnd) ∧
      ((declarator.isLoopControl = true → whole) ↔ (byEnd → whole)) ∧
      ∀ context : MethodContext, isIdleLocal context declarator = true →
        (unusedVariable declarator context = silent ↔ whole ∨ byEnd) := by
  intro whole byEnd
  have control : declarator.isLoopControl = true ↔ whole ∨ byEnd :=
    Site.isLoopControl_iff_of_while nearest isWhile
  refine ⟨control, ?_, fun context idle => ?_⟩
  · rw [control, or_imp, and_iff_right id]
  · rw [← control, ← not_iff_not, ← ne_eq, reported_iff_of_idle idle, Bool.not_eq_true]

def whileLocal (compared : String) : Node :=
  let source := s!"void f() \x7b while ({compared} < 1) \x7b int n = 1; \x7d \x7d"
  let node := Node.ofAscii source
  let token := Node.token source
  let behind := 18 + compared.length
  let body := behind + 6
  .voidMethod source 0 source.length [
    node .whileStatement true none 11 (body + 14) [
      token "while" 11,
      node .parenthesizedExpression true (some .condition) 17 (behind + 5) [
        token "(" 17,
        node .binaryExpression true none 18 (behind + 4) [
          node .identifier true (some .left) 18 behind [],
          node (.other "<") false (some .operator) (behind + 1) (behind + 2) [],
          node .decimalIntegerLiteral true (some .right) (behind + 3) (behind + 4) []],
        token ")" (behind + 4)],
      node .block true (some .body) body (body + 14) [
        token "\x7b" body, intLocal source none (body + 2), token "\x7d" (body + 13)]]]

theorem compared_local_exempt :
    (∃ declarator ∈ localsOf (whileLocal "n"), ∃ loop ∈ declarator.nearestLoop?,
      loop.kind = .whileStatement ∧
      Drives (MentionsWhole loop.render.toList declarator.declaredName.toList) ∧
      declarator.isLoopControl = true) ∧
    ∃ declarator ∈ localsOf (whileLocal "m"), ∃ loop ∈ declarator.nearestLoop?,
      loop.kind = .whileStatement ∧
      isIdleLocal (.alone [] (whileLocal "m")) declarator = true ∧
      ¬DrivesByEnd loop.render.toList declarator.declaredName.toList ∧
      unusedVariable declarator (.alone [] (whileLocal "m")) ≠ silent := by
  -- A comparison of the local exempts it, and one of another variable leaves it to be reported.
  constructor
  · obtain ⟨declarator, isLocal, loop, nearest, isWhile, whole⟩ :
        ∃ declarator ∈ localsOf (whileLocal "n"), ∃ loop ∈ declarator.nearestLoop?,
          loop.kind = .whileStatement ∧
          Drives (MentionsWhole loop.render.toList declarator.declaredName.toList) := by
      decide +kernel
    obtain ⟨control, _⟩ := while_local_exempt_iff nearest isWhile
    exact ⟨declarator, isLocal, loop, nearest, isWhile, whole, control.mpr (.inl whole)⟩
  · obtain ⟨declarator, isLocal, loop, nearest, isWhile, idle, free⟩ :
        ∃ declarator ∈ localsOf (whileLocal "m"), ∃ loop ∈ declarator.nearestLoop?,
          loop.kind = .whileStatement ∧
          isIdleLocal (.alone [] (whileLocal "m")) declarator = true ∧
          ¬declarator.isLoopControl = true := by
      decide +kernel
    obtain ⟨control, _, ofIdle⟩ := while_local_exempt_iff nearest isWhile
    rw [control] at free
    exact ⟨declarator, isLocal, loop, nearest, isWhile, idle, fun byEnd => free (.inr byEnd),
      fun quiet => free ((ofIdle _ idle).mp quiet)⟩

/-- A comparison of `bn` passes for one of `n`, and nobody learns that `n` is unused. -/
theorem longer_name_exempts_local :
    ∃ declarator ∈ localsOf (whileLocal "bn"), ∃ loop ∈ declarator.nearestLoop?,
      loop.kind = .whileStatement ∧
      isIdleLocal (.alone [] (whileLocal "bn")) declarator = true ∧
      ¬Drives (MentionsWhole loop.render.toList declarator.declaredName.toList) ∧
      declarator.isLoopControl = true ∧
      unusedVariable declarator (.alone [] (whileLocal "bn")) = silent := by
  decide +kernel

end Optimization

end JavaAudit
