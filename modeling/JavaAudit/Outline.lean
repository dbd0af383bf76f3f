import JavaAudit.Complexity

/-! The types and methods of a compilation unit, with their metrics.

All parts of an index are determined by the list of keys that the methods are given one after
another: the maps are those of the keys paired with the methods, so a key finds the last method
that was given it. -/

set_option autoImplicit false

namespace JavaAudit

structure MethodMetrics where
  /-- The name, or name and line for a method whose name is taken. -/
  key : String
  name : String
  /-- The type that declares the method. -/
  owner : String
  startLine : Int
  endLine : Int
  parameterCount : Int
  cyclomatic : Int
  deriving DecidableEq, Repr

def MethodMetrics.lineCount (metrics : MethodMetrics) : Int :=
  metrics.endLine - metrics.startLine + 1

structure TypeMetrics where
  name : String
  startLine : Int
  methodCount : Int
  /-- Field declarations; one declaration may declare several fields. -/
  fieldCount : Int
  methodKeys : List String
  deriving DecidableEq, Repr

structure MethodIndex where
  metrics : List MethodMetrics
  sites : Assoc String Site
  complexity : Assoc String Complexity
  /-- The key of the method at a byte range. -/
  keys : Assoc (Nat × Nat) String
  deriving Repr

namespace MethodIndex

def empty : MethodIndex :=
  ⟨[], .empty, .empty, .empty⟩

/-- A method is keyed by its name; if that is taken, by its name and line. -/
def keyFor (index : MethodIndex) (method : Site) : String :=
  let name := method.declaredName
  let line := method.line
  if index.sites.contains name then s!"{name}:{line}" else name

def add (index : MethodIndex) (method : Site) : MethodIndex :=
  let key := index.keyFor method
  let complexity := Complexity.ofMethod method
  { metrics := index.metrics ++ [{
      key := key
      name := method.declaredName
      owner := (method.owner?.map Site.declaredName).getD ""
      startLine := method.line
      endLine := method.node.endLine
      parameterCount := method.parameters.length
      cyclomatic := complexity.cyclomatic }]
    sites := index.sites.insert key method
    complexity := index.complexity.insert key complexity
    keys := index.keys.insert (method.node.start, method.node.stop) key }

def ofMethods (methods : List Site) : MethodIndex :=
  methods.foldl add empty

def keyOf? (index : MethodIndex) (method : Site) : Option String :=
  index.keys.get? (method.node.start, method.node.stop)

/-- The metrics of a type, if all its methods are indexed. -/
def typeMetrics? (index : MethodIndex) (declaration : Site) : Option TypeMetrics := do
  let methods := declaration.members.filter (·.kind.isMethod)
  let keys ← methods.mapM index.keyOf?
  some {
    name := declaration.declaredName
    startLine := declaration.line
    methodCount := methods.length
    fieldCount := (declaration.members.filter (·.kind.isField)).length
    methodKeys := keys }

def lineDecisions (index : MethodIndex) : Assoc Int Nat :=
  let decisions := index.complexity.values.flatMap (·.decisions.entries)
  (Assoc.tally decisions).sorted

end MethodIndex

structure Outline where
  index : MethodIndex
  types : List TypeMetrics
  deriving Repr

namespace Outline

def methods (outline : Outline) : List MethodMetrics :=
  outline.index.metrics

/-- The outline of a unit, if every member method of every type is a method of the unit. -/
def ofRoot? (root : Site) : Option Outline := do
  let index := MethodIndex.ofMethods (root.findBelow Kind.isMethod)
  let types ← (root.findBelow Kind.isTypeDeclaration).mapM index.typeMetrics?
  some ⟨index, types⟩

end Outline

def Node.methods (tree : Node) : List Site :=
  (Site.root tree).findBelow Kind.isMethod

theorem Node.mem_methods {tree : Node} {site : Site} :
    site ∈ tree.methods ↔ site.IsBelow tree ∧ site.kind.isMethod = true := by
  rw [methods, Site.mem_findBelow, Site.mem_below_root_iff]

def Node.typeDeclarations (tree : Node) : List Site :=
  (Site.root tree).findBelow Kind.isTypeDeclaration

theorem Node.mem_typeDeclarations {tree : Node} {site : Site} :
    site ∈ tree.typeDeclarations ↔ site.IsBelow tree ∧ site.kind.isTypeDeclaration = true := by
  rw [typeDeclarations, Site.mem_findBelow, Site.mem_below_root_iff]

def Site.qualifiedName (method : Site) : String :=
  s!"{method.declaredName}:{method.line}"

def Site.ownerName (method : Site) : String :=
  (method.owner?.map Site.declaredName).getD ""

def Site.metrics (method : Site) (key : String) : MethodMetrics where
  key := key
  name := method.declaredName
  owner := method.ownerName
  startLine := method.line
  endLine := method.node.endLine
  parameterCount := method.parameters.length
  cyclomatic := (Complexity.ofMethod method).cyclomatic

def Site.range (site : Site) : Nat × Nat :=
  (site.node.start, site.node.stop)

namespace MethodIndex

def assignedKeys (methods : List Site) : List String :=
  (ofMethods methods).metrics.map (·.key)

theorem ofMethods_concat (methods : List Site) (method : Site) :
    ofMethods (methods ++ [method]) = (ofMethods methods).add method := by
  simp [ofMethods, List.foldl_append]

theorem assignedKeys_concat_eq (methods : List Site) (method : Site) :
    assignedKeys (methods ++ [method]) =
      assignedKeys methods ++ [(ofMethods methods).keyFor method] := by
  simp [assignedKeys, ofMethods_concat, add]

theorem length_metrics_foldl (methods : List Site) (index : MethodIndex) :
    (methods.foldl add index).metrics.length = index.metrics.length + methods.length := by
  induction methods generalizing index with
  | nil => rfl
  | cons method rest ih =>
    rw [List.foldl_cons, ih, add, List.length_append, List.length_singleton, List.length_cons]
    omega

@[simp] theorem assignedKeys_length (methods : List Site) :
    (assignedKeys methods).length = methods.length := by
  rw [assignedKeys, List.length_map, ofMethods, length_metrics_foldl]
  exact Nat.zero_add _

theorem zip_concat {α : Type} (methods : List Site) (method : Site) (values : List α) (value : α)
    (sameLength : values.length = methods.length) :
    (assignedKeys (methods ++ [method])).zip (values ++ [value]) =
      (assignedKeys methods).zip values ++ [((ofMethods methods).keyFor method, value)] := by
  rw [assignedKeys_concat_eq, List.zip_append (by simp [sameLength])]
  rfl

theorem ofMethods_eq (methods : List Site) :
    ofMethods methods = {
      metrics := ((assignedKeys methods).zip methods).map fun entry => entry.2.metrics entry.1
      sites := .ofList ((assignedKeys methods).zip methods)
      complexity := .ofList ((assignedKeys methods).zip (methods.map Complexity.ofMethod))
      keys := .ofList ((methods.map Site.range).zip (assignedKeys methods)) } := by
  -- Methods are added one behind the other, so the induction takes away the last of them.
  obtain ⟨reversed, rfl⟩ : ∃ reversed : List Site, methods = reversed.reverse :=
    ⟨methods.reverse, methods.reverse_reverse.symm⟩
  induction reversed with
  | nil => rfl
  | cons method reversed ih =>
    rw [List.reverse_cons]
    generalize reversed.reverse = methods at ih ⊢
    rw [List.map_append, List.map_append, List.map_singleton, List.map_singleton,
      zip_concat methods method methods method rfl, zip_concat methods _ _ _ (by simp),
      assignedKeys_concat_eq, List.zip_append (by simp), List.map_append, List.zip_cons_cons,
      List.zip_nil_right, Assoc.ofList_concat, Assoc.ofList_concat, Assoc.ofList_concat,
      ofMethods_concat]
    have metrics := congrArg MethodIndex.metrics ih
    have sites := congrArg MethodIndex.sites ih
    have complexity := congrArg MethodIndex.complexity ih
    have keys := congrArg MethodIndex.keys ih
    dsimp only at metrics sites complexity keys
    rw [← metrics, ← sites, ← complexity, ← keys]
    rfl

theorem metrics_eq (methods : List Site) :
    (ofMethods methods).metrics =
      ((assignedKeys methods).zip methods).map fun entry => entry.2.metrics entry.1 :=
  congrArg MethodIndex.metrics (ofMethods_eq methods)

theorem sites_eq (methods : List Site) :
    (ofMethods methods).sites = .ofList ((assignedKeys methods).zip methods) :=
  congrArg MethodIndex.sites (ofMethods_eq methods)

theorem complexity_eq (methods : List Site) :
    (ofMethods methods).complexity =
      .ofList ((assignedKeys methods).zip (methods.map Complexity.ofMethod)) :=
  congrArg MethodIndex.complexity (ofMethods_eq methods)

theorem keys_eq (methods : List Site) :
    (ofMethods methods).keys = .ofList ((methods.map Site.range).zip (assignedKeys methods)) :=
  congrArg MethodIndex.keys (ofMethods_eq methods)

theorem contains_sites_iff {methods : List Site} {key : String} :
    (ofMethods methods).sites.contains key = true ↔ key ∈ assignedKeys methods := by
  rw [Assoc.contains_iff, sites_eq, Assoc.mem_keys_ofList, List.map_fst_zip (by simp)]

theorem assignedKeys_concat (methods : List Site) (method : Site) :
    assignedKeys (methods ++ [method]) = assignedKeys methods ++
      [if method.declaredName ∈ assignedKeys methods then method.qualifiedName
        else method.declaredName] := by
  rw [assignedKeys_concat_eq, keyFor]
  simp only [contains_sites_iff, Site.qualifiedName]

theorem get?_complexity (methods : List Site) (key : String) :
    (ofMethods methods).complexity.get? key =
      ((ofMethods methods).sites.get? key).map Complexity.ofMethod := by
  rw [complexity_eq, sites_eq, List.zip_map_right]
  exact Assoc.get?_ofList_map Complexity.ofMethod _ key

theorem exists_site {methods : List Site} {key : String} (known : key ∈ assignedKeys methods) :
    ∃ method, (ofMethods methods).sites.get? key = some method :=
  Option.isSome_iff_exists.mp (contains_sites_iff.mpr known)

theorem mem_zip_of_get?_sites {methods : List Site} {key : String} {method : Site}
    (found : (ofMethods methods).sites.get? key = some method) :
    (key, method) ∈ (assignedKeys methods).zip methods := by
  rw [sites_eq] at found
  exact Assoc.mem_of_get?_ofList found

theorem mem_of_get?_sites {methods : List Site} {key : String} {method : Site}
    (found : (ofMethods methods).sites.get? key = some method) : method ∈ methods :=
  (List.of_mem_zip (mem_zip_of_get?_sites found)).2

theorem exists_key {methods : List Site} {method : Site} (member : method ∈ methods) :
    ∃ key, (ofMethods methods).keyOf? method = some key := by
  rw [keyOf?, keys_eq, ← Option.isSome_iff_exists]
  apply Assoc.contains_iff.mpr
  rw [Assoc.mem_keys_ofList, List.map_fst_zip (by simp)]
  exact List.mem_map_of_mem member

theorem get?_sites_of_mem_zip {methods : List Site} {key : String} {method : Site}
    (distinct : (assignedKeys methods).Nodup)
    (member : (key, method) ∈ (assignedKeys methods).zip methods) :
    (ofMethods methods).sites.get? key = some method := by
  rw [sites_eq]
  apply Assoc.get?_ofList_of_mem _ member
  rwa [List.map_fst_zip (by simp)]

end MethodIndex

theorem mapM_eq_filterMap {α β : Type} {f : α → Option β} {items : List α}
    (defined : ∀ item ∈ items, (f item).isSome) : items.mapM f = some (items.filterMap f) := by
  induction items with
  | nil => rfl
  | cons item rest ih =>
    obtain ⟨value, found⟩ := Option.isSome_iff_exists.mp (defined item (List.mem_cons_self ..))
    rw [List.mapM_cons, found, ih fun other member => defined other (List.mem_cons_of_mem _ member),
      List.filterMap_cons_some found]
    rfl

theorem filterMap_eq_map_of_mem {α β : Type} {f : α → Option β} {g : α → β} {items : List α}
    (found : ∀ item ∈ items, f item = some (g item)) : items.filterMap f = items.map g := by
  induction items with
  | nil => rfl
  | cons item rest ih =>
    rw [List.filterMap_cons_some (found item (List.mem_cons_self ..)), List.map_cons,
      ih fun other member => found other (List.mem_cons_of_mem _ member)]

def Site.memberMethods (declaration : Site) : List Site :=
  declaration.members.filter (·.kind.isMethod)

namespace MethodIndex

theorem exists_member_key {tree : Node} {declaration method : Site}
    (isDeclaration : declaration ∈ tree.typeDeclarations)
    (isMethod : method ∈ declaration.memberMethods) :
    ((ofMethods tree.methods).keyOf? method).isSome := by
  obtain ⟨isMember, kind⟩ := List.mem_filter.mp isMethod
  have inside := (Site.mem_findBelow.mp isDeclaration).1
  have indexed : method ∈ tree.methods :=
    Site.mem_findBelow.mpr ⟨Site.mem_below_of_mem_members inside isMember, kind⟩
  exact Option.isSome_iff_exists.mpr (exists_key indexed)

def typeMetrics (index : MethodIndex) (declaration : Site) : TypeMetrics where
  name := declaration.declaredName
  startLine := declaration.line
  methodCount := declaration.memberMethods.length
  fieldCount := (declaration.members.filter (·.kind.isField)).length
  methodKeys := declaration.memberMethods.filterMap index.keyOf?

theorem typeMetrics?_eq {tree : Node} {declaration : Site}
    (isDeclaration : declaration ∈ tree.typeDeclarations) :
    (ofMethods tree.methods).typeMetrics? declaration =
      some ((ofMethods tree.methods).typeMetrics declaration) := by
  have keyed : declaration.memberMethods.mapM (ofMethods tree.methods).keyOf? =
      some (declaration.memberMethods.filterMap (ofMethods tree.methods).keyOf?) :=
    mapM_eq_filterMap fun _ isMethod => exists_member_key isDeclaration isMethod
  simp only [Site.memberMethods] at keyed
  simp only [typeMetrics?, keyed]
  rfl

end MethodIndex

namespace Outline

def ofTree (tree : Node) : Outline where
  index := .ofMethods tree.methods
  types := tree.typeDeclarations.map (MethodIndex.ofMethods tree.methods).typeMetrics

/-- Every tree has an outline. -/
theorem ofRoot?_eq (tree : Node) : ofRoot? (.root tree) = some (ofTree tree) := by
  have found : ∀ declaration ∈ tree.typeDeclarations,
      (MethodIndex.ofMethods tree.methods).typeMetrics? declaration =
        some ((MethodIndex.ofMethods tree.methods).typeMetrics declaration) :=
    fun _ isDeclaration => MethodIndex.typeMetrics?_eq isDeclaration
  have outlined := mapM_eq_filterMap fun declaration isDeclaration =>
    Option.isSome_iff_exists.mpr ⟨_, found declaration isDeclaration⟩
  rw [filterMap_eq_map_of_mem found] at outlined
  rw [ofRoot?, ← Node.methods, ← Node.typeDeclarations, outlined]
  rfl

theorem exists_ofRoot? (tree : Node) :
    ∃ types, ofRoot? (.root tree) = some ⟨.ofMethods tree.methods, types⟩ :=
  ⟨_, ofRoot?_eq tree⟩

end Outline

namespace MethodIndex

theorem lineDecisions_ascending (index : MethodIndex) :
    index.lineDecisions.keys.Pairwise (· < ·) :=
  Assoc.sorted_keys_ascending _

end MethodIndex

end JavaAudit
