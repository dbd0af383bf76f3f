import JavaAudit.Tree.Node

/-! Source text and trees written as the preorder list of their nodes.

The line of an offset grows with the offset and stays within the rows of the text. Text that is put
in front moves offsets by its bytes and lines by its line feeds, and leaves slices as they are. In a
dump each line is a node. Its fields are separated by tabs: the kind, the flags, the role or
nothing, the offsets of the start and the end, and the number of children. The flags are one for a
named node, two for a missing one, and their sum for both. -/

set_option autoImplicit false

namespace JavaAudit

/-- Source text, addressed by byte. -/
structure Source where
  bytes : ByteArray
  /-- Offsets of the line feeds, ascending. -/
  lineFeeds : List Nat

namespace Source

def ofText (text : String) : Source :=
  let bytes := text.toUTF8
  ⟨bytes, (bytes.toList.zipIdx.filter (·.1 == 10)).map (·.2)⟩

/-- The line of an offset, counted from one; only line feeds end a line. -/
def lineAt (source : Source) (offset : Nat) : Nat :=
  source.lineFeeds.countP (· < offset) + 1

/-- The text between two offsets that fall on character boundaries. -/
def slice (source : Source) (start stop : Nat) : String :=
  (String.fromUTF8? (source.bytes.extract start stop)).getD ""

def rowCount (text : String) : Nat :=
  text.toList.count '\n' + 1

theorem toList_loop (bytes : ByteArray) (index : Nat) (before : List UInt8) :
    ByteArray.toList.loop bytes index before = before.reverse ++ bytes.data.toList.drop index := by
  fun_induction ByteArray.toList.loop bytes index before with
  | case1 index before inside ih =>
    have bound : index < bytes.data.toList.length := by simpa using inside
    rw [ih, List.drop_eq_getElem_cons bound]
    simp [ByteArray.get!, getElem!_pos, inside]
  | case2 index before outside =>
    have past : bytes.data.toList.length ≤ index := by simpa using outside
    rw [List.drop_eq_nil_of_le past, List.append_nil]

theorem toList_bytes (bytes : ByteArray) : bytes.toList = bytes.data.toList :=
  (toList_loop bytes 0 []).trans (by simp)

theorem toList_append (left right : String) :
    (left ++ right).toUTF8.toList = left.toUTF8.toList ++ right.toUTF8.toList := by
  simp only [toList_bytes, String.toUTF8, String.toByteArray_append]
  exact ByteArray.toList_data_append

theorem length_toList (text : String) : text.toUTF8.toList.length = text.utf8ByteSize := by
  rw [toList_bytes, ← String.size_toByteArray]
  rfl

theorem toList_eq_flatMap (text : String) :
    text.toUTF8.toList = text.toList.flatMap String.utf8EncodeChar := by
  rw [toList_bytes, String.toUTF8, ← String.utf8Encode_toList]
  exact List.toList_data_toByteArray

theorem ofNat_beq_feed {code : Nat} (bound : code < 256) :
    (UInt8.ofNat code == 10) = decide (code = 10) := by
  rw [Bool.eq_iff_iff, beq_iff_eq, decide_eq_true_eq, ← UInt8.toNat_inj, UInt8.toNat_ofNat',
    Nat.mod_eq_of_lt bound]
  rfl

theorem countP_encode (char : Char) :
    (String.utf8EncodeChar char).countP (· == 10) = if char == '\n' then 1 else 0 := by
  have isFeed : (char == '\n') = decide (char.val.toNat = 10) := by
    rw [Bool.eq_iff_iff, beq_iff_eq, decide_eq_true_eq, Char.toNat_val, ← Char.toNat_inj]
    rfl
  rw [isFeed]
  unfold String.utf8EncodeChar
  generalize char.val.toNat = code
  dsimp only
  by_cases ascii : code ≤ 127
  · simp (disch := omega) [ascii, ofNat_beq_feed]
  · -- All bytes of a longer encoding have their highest bit set.
    have high : ∀ byte, 128 ≤ byte → byte < 256 → (UInt8.ofNat byte == 10) = false := by
      intro byte atLeast bound
      rw [ofNat_beq_feed bound, decide_eq_false (by omega)]
    rw [if_neg ascii, decide_eq_false (by omega)]
    split
    · simp (disch := omega) only [List.countP_cons, List.countP_nil, high]
      rfl
    · split <;> (simp (disch := omega) only [List.countP_cons, List.countP_nil, high]; rfl)

theorem countP_toUTF8 (text : String) :
    text.toUTF8.toList.countP (· == 10) = text.toList.count '\n' := by
  rw [toList_eq_flatMap]
  induction text.toList with
  | nil => rfl
  | cons char rest ih =>
    rw [List.flatMap_cons, List.countP_append, ih, countP_encode, List.count_cons, Nat.add_comm]

def feedsFrom (offset : Nat) (bytes : List UInt8) : List Nat :=
  ((bytes.zipIdx offset).filter (·.1 == 10)).map (·.2)

theorem lineFeeds_eq (text : String) :
    (ofText text).lineFeeds = feedsFrom 0 text.toUTF8.toList := rfl

theorem feedsFrom_append (offset : Nat) (left right : List UInt8) :
    feedsFrom offset (left ++ right) =
      feedsFrom offset left ++ feedsFrom (offset + left.length) right := by
  simp only [feedsFrom, List.zipIdx_append, List.filter_append, List.map_append]

theorem feedsFrom_eq_map (offset : Nat) (bytes : List UInt8) :
    feedsFrom offset bytes = (feedsFrom 0 bytes).map (offset + ·) := by
  simp only [feedsFrom]
  rw [List.zipIdx_eq_map_add, List.filter_map, List.map_map, List.map_map]
  rfl

theorem length_feedsFrom (offset : Nat) (bytes : List UInt8) :
    (feedsFrom offset bytes).length = bytes.countP (· == 10) := by
  calc
    (feedsFrom offset bytes).length = ((bytes.zipIdx offset).map (·.1)).countP (· == 10) := by
      rw [feedsFrom, List.length_map, ← List.countP_eq_length_filter, List.countP_map]
      rfl
    _ = bytes.countP (· == 10) := congrArg _ (List.zipIdx_map_fst offset bytes)

theorem length_lineFeeds (text : String) :
    (ofText text).lineFeeds.length = text.toList.count '\n' := by
  rw [lineFeeds_eq, length_feedsFrom, countP_toUTF8]

theorem lt_of_mem_lineFeeds {text : String} {feed : Nat}
    (member : feed ∈ (ofText text).lineFeeds) : feed < text.utf8ByteSize := by
  obtain ⟨entry, inside, rfl⟩ := List.mem_map.mp member
  have bound := (List.mem_zipIdx (List.mem_filter.mp inside).1).2.1
  rwa [Nat.zero_add, length_toList] at bound

theorem lineFeeds_append (before text : String) :
    (ofText (before ++ text)).lineFeeds =
      (ofText before).lineFeeds ++ (ofText text).lineFeeds.map (before.utf8ByteSize + ·) := by
  simp only [lineFeeds_eq, toList_append, feedsFrom_append, length_toList, Nat.zero_add]
  rw [feedsFrom_eq_map before.utf8ByteSize]

theorem lineAt_mono (source : Source) {first second : Nat} (order : first ≤ second) :
    source.lineAt first ≤ source.lineAt second := by
  apply Nat.add_le_add_right
  apply List.countP_mono_left
  intro feed _ before
  simp only [decide_eq_true_eq] at before ⊢
  omega

theorem one_le_lineAt (source : Source) (offset : Nat) : 1 ≤ source.lineAt offset :=
  Nat.le_add_left 1 _

theorem lineAt_le_rowCount (text : String) (offset : Nat) :
    (ofText text).lineAt offset ≤ rowCount text := by
  rw [rowCount, ← length_lineFeeds]
  exact Nat.add_le_add_right List.countP_le_length 1

theorem lineAt_append (before text : String) (offset : Nat) :
    (ofText (before ++ text)).lineAt (offset + before.utf8ByteSize) =
      (ofText text).lineAt offset + before.toList.count '\n' := by
  -- Every line feed of the text in front comes before the offset.
  have inFront : (ofText before).lineFeeds.countP (· < offset + before.utf8ByteSize) =
      before.toList.count '\n' := by
    rw [← length_lineFeeds, List.countP_eq_length]
    intro feed member
    have := lt_of_mem_lineFeeds member
    simp only [decide_eq_true_eq]
    omega
  have moved : ((ofText text).lineFeeds.map (before.utf8ByteSize + ·)).countP
      (· < offset + before.utf8ByteSize) = (ofText text).lineFeeds.countP (· < offset) := by
    rw [List.countP_map]
    apply List.countP_congr
    intro feed _
    simp only [Function.comp_apply, decide_eq_true_eq]
    omega
  simp only [lineAt, lineFeeds_append, List.countP_append, inFront, moved]
  omega

theorem slice_append (before text : String) (start stop : Nat) :
    (ofText (before ++ text)).slice (start + before.utf8ByteSize) (stop + before.utf8ByteSize) =
      (ofText text).slice start stop := by
  have size : before.utf8ByteSize = before.toByteArray.size := String.size_toByteArray.symm
  simp only [slice, ofText, String.toUTF8, String.toByteArray_append, size,
    Nat.add_comm _ before.toByteArray.size, ByteArray.extract_append_size_add]

end Source

structure Entry where
  kind : Kind
  named : Bool
  missing : Bool
  role : Option Role
  start : Nat
  stop : Nat
  childCount : Nat

namespace Entry

def label (source : Source) (entry : Entry) : Label where
  kind := entry.kind
  named := entry.named
  missing := entry.missing
  role := entry.role
  start := entry.start
  stop := entry.stop
  line := source.lineAt entry.start
  endLine := source.lineAt entry.stop
  text := source.slice entry.start entry.stop

/-- Put an entry in front of the trees that follow it, of which the first are its children. -/
def attach (source : Source) (entry : Entry) (following : List Node) : List Node :=
  .node (entry.label source) (following.take entry.childCount) :: following.drop entry.childCount

end Entry

def Node.ofPreorder? (source : Source) (entries : List Entry) : Option Node :=
  match entries.foldr (Entry.attach source) [] with
  | [tree] => some tree
  | _ => none

def Entry.ofFields? : List String → Option Entry
  | [kind, flags, role, start, stop, childCount] => do
    let flags ← flags.toNat?
    let start ← start.toNat?
    let stop ← stop.toNat?
    let childCount ← childCount.toNat?
    some {
      kind := .ofName kind
      named := flags % 2 == 1
      missing := flags / 2 % 2 == 1
      role := Role.ofName? role
      start
      stop
      childCount }
  | _ => none

/-- The tree of a dump, with the source that it describes. -/
def Node.ofDump? (source : Source) (dump : String) : Option Node := do
  let lines := (dump.splitOn "\n").filter (!·.isEmpty)
  let entries ← lines.mapM fun line => Entry.ofFields? (line.splitOn "\t")
  Node.ofPreorder? source entries

end JavaAudit
