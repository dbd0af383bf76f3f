import Mathlib.Data.List.Infix
import JavaAudit.Optimization.Check
import JavaAudit.Proofs.InsertedComments
import JavaAudit.Proofs.TokenGaps

/-! The text of a part inside the text of the whole.

The class of a token depends on its real parent and a gap on the two tokens around it, so a node is
written alike alone and in place. Main statement: its text is one piece of the text of every node
above it, unless a comment or a literal lies between. So is every word that is searched for. -/

set_option autoImplicit false

namespace JavaAudit

namespace Text

theorem lower_infix {part whole : List Char} (inside : part <:+: whole) :
    lower part <:+: lower whole :=
  inside.flatMap _

end Text

/-- Nodes that are not written out child by child: comments and literals. -/
def Kind.isSealed (kind : Kind) : Bool :=
  kind.isComment || kind.isAtomic

theorem Node.tokens_of_mem_children {node child : Node} (isOpen : node.kind.isSealed = false)
    (isChild : child ∈ node.children) (parent : Option Kind) :
    node.tokens parent = node.children.flatMap (tokens (some node.kind)) := by
  obtain ⟨isCode, isWritten⟩ := Bool.or_eq_false_iff.mp isOpen
  have notToken : node.isToken = false := by
    rw [isToken, isWritten, Bool.false_or, List.isEmpty_eq_false_iff]
    exact List.ne_nil_of_mem isChild
  rw [tokens_eq, isCode, notToken]
  rfl

namespace Site

/-- The part is the whole or stands below it, and neither the whole nor a node on the way down is a
comment or a literal. -/
inductive Exposes : Site → Site → Prop where
  | self (site : Site) : Exposes site site
  | deeper {whole child part : Site} (isOpen : whole.kind.isSealed = false)
      (isChild : child ∈ whole.children) (inside : Exposes child part) : Exposes whole part

theorem exposes_of_mem_walk {whole part : Site} (isOpen : whole.kind.isSealed = false)
    (member : part ∈ whole.walk Kind.isSealed) : whole.Exposes part := by
  induction whole using induction_children with
  | step whole ih =>
    obtain ⟨child, isChild, rfl | ⟨childOpen, below⟩⟩ := mem_walk_step.mp member
    · exact .deeper isOpen isChild (.self _)
    · exact .deeper isOpen isChild (ih child isChild childOpen below)

theorem tokens_infix_of_mem_children {site child : Site} (isOpen : site.kind.isSealed = false)
    (isChild : child ∈ site.children) : child.tokens <:+: site.tokens := by
  obtain ⟨index, node, found, rfl⟩ := mem_children_iff.mp isChild
  have inside : node ∈ site.node.children := List.mem_of_getElem? found
  -- Also on its own, the child is written with its real parent in view.
  have ofChild : (site.descend index node).tokens = node.tokens (some site.node.kind) := rfl
  rw [ofChild, tokens, Node.tokens_of_mem_children isOpen inside, List.flatMap_def]
  exact List.infix_of_mem_flatten (List.mem_map_of_mem inside)

theorem Exposes.tokens_infix {whole part : Site} (exposed : whole.Exposes part) :
    part.tokens <:+: whole.tokens := by
  induction exposed with
  | self => exact List.infix_rfl
  | deeper isOpen isChild _ ih => exact ih.trans (tokens_infix_of_mem_children isOpen isChild)

theorem Exposes.render_infix {whole part : Site} (exposed : whole.Exposes part) :
    part.render.toList <:+: whole.render.toList := by
  rw [toList_render, toList_render]
  exact Token.spaced_infix exposed.tokens_infix

/-- If no comment and no literal lies between them, the text of a node is one piece of the text of a
node above it. So a word that is found in the one is found in the other, also in lower case. -/
theorem parts_written_in_place (whole part : Site) (exposed : whole.Exposes part) :
    part.render.toList <:+: whole.render.toList ∧
      (∀ words, Text.containsAny words part.render.toList = true →
        Text.containsAny words whole.render.toList = true) ∧
      ∀ words, Vocabulary.mentions words part.render = true →
        Vocabulary.mentions words whole.render = true := by
  have inside := exposed.render_infix
  exact ⟨inside, fun _ => Text.containsAny_of_infix inside,
    fun _ => Text.containsAny_of_infix (Text.lower_infix inside)⟩

theorem arguments_written_in_assignment :
    ∃ part, (root commentedCall).Exposes part ∧ part.kind = .argumentList ∧
      part.render = "(\"x y\")" ∧
      part.render.toList <:+: (root commentedCall).render.toList ∧
      (root commentedCall).render = "s = f(\"x y\")" := by
  -- The arguments of a call are written inside the assignment, without the comment among them.
  let parts := (root commentedCall).walk Kind.isSealed
  let part := parts.get ⟨4, by decide +kernel⟩
  have exposed : (root commentedCall).Exposes part := exposes_of_mem_walk rfl (List.get_mem ..)
  exact ⟨part, exposed, by decide +kernel, by decide +kernel,
    (parts_written_in_place (root commentedCall) part exposed).1, by decide +kernel⟩

end Site

end JavaAudit
