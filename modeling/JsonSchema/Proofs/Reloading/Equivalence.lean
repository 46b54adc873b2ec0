import JsonSchema.Proofs.Building.Links
import JsonSchema.Proofs.Recursion.Hops
import JsonSchema.Proofs.Reloading.Agreement
import JsonSchema.Proofs.Reloading.Templates
import JsonSchema.Schema.Parse

/-!
# A schema and its document

A schema that was built can be read back from its document, and what is read back gives the same answers.
-/

namespace JsonSchema

open Comparison

/-- Both are verdicts that are the same, or errors that differ in the sign of zero at most. -/
inductive SameAnswer : Except SchemaError Verdict → Except SchemaError Verdict → Prop where
  | verdict {r r' : Verdict} (h : r.valid = r'.valid) : SameAnswer (.ok r) (.ok r')
  | error {e e' : SchemaError} (h : e.Same e') : SameAnswer (.error e) (.error e')

theorem Comparison.sameAnswer_of_agree {x y : Except SchemaError Verdict}
    (h : verdicts.Agree (fun r r' => r.valid = r'.valid) x y) : SameAnswer x y := by
  cases x with
  | ok r =>
    obtain ⟨r', rfl, hvalid⟩ := h
    exact .verdict hvalid
  | error e =>
    rcases h with h | ⟨e', rfl, hsame⟩
    · cases h
    · exact .error hsame

theorem Comparison.eq_of_agree {x y : Except SchemaError α} (h : nullVerdicts.Agree Eq x y) : x = y := by
  cases x with
  | ok a =>
    obtain ⟨_, rfl, rfl⟩ := h
    rfl
  | error e =>
    rcases h with h | ⟨_, rfl, rfl⟩
    · cases h
    · rfl

namespace Schema

/-! ## Built schemas -/

theorem WellBuilt.of_build {e : Expr} {s : Schema} (hbuild : e.build = .ok s)
    (hingredients : e.Ingredients (·.keysDistinct = true) Leaf.HasEdit) (hplain : s.IsPlain) : s.WellBuilt where
  orderly := orderly_buildIn (by simp) hbuild
  plain := hplain
  candid := preserved_candid.buildIn (by simp) hingredients hbuild
  synced := (preserved_synced.buildIn (by simp) hingredients hbuild).2
  nested := (preserved_nested.buildIn (by simp) e.ingredients_true hbuild).2

/-! ## Answers -/

namespace Reloaded

variable {s s' : Schema} {docs : List Json} (h : s.Reloaded s' docs) (shared : FormatRegistry)
include h

theorem reloads_lenientContext :
    (s.lenientContext shared).Reloads (s'.lenientContext shared) docs := ⟨h, rfl, rfl, rfl, rfl, rfl⟩

theorem reloads_context (options : ValidateOptions) :
    (s.context shared options).Reloads (s'.context shared options) docs := ⟨h, rfl, rfl, rfl, rfl, rfl⟩

theorem coerce_eq (v : Json) (options : CoerceOptions) :
    s.coerce shared v options = s'.coerce shared v options :=
  eq_of_agree ((h.reloads_lenientContext shared).agree_coerce options h.meets_root 0 v)

theorem sameAnswer_validate (v : Json) (options : ValidateOptions) :
    SameAnswer (s.validate shared v options) (s'.validate shared v options) := by
  have hcoerce : ∀ v, verdicts.Agree Eq (s.coerceAt shared Schema.root v) (s'.coerceAt shared Schema.root v) := by
    intro v
    have heq : s.coerceAt shared Schema.root v = s'.coerceAt shared Schema.root v := h.coerce_eq shared v {}
    rw [heq]
    cases s'.coerceAt shared Schema.root v with
    | ok w => exact .ok rfl
    | error e => exact .error e
  have hcontext := h.reloads_context shared options
  have hvalid : ∀ found found' : List Failure, (found = [] ↔ found' = []) →
      (Verdict.ofFailures found).valid = (Verdict.ofFailures found').valid := by
    intro found found' hfound
    rw [Verdict.ofFailures, Verdict.ofFailures, Bool.eq_iff_iff, List.isEmpty_iff, List.isEmpty_iff]
    exact hfound
  refine sameAnswer_of_agree (agree_validateAt hvalid hcoerce (fun v at_ => ?_) v)
  refine hcontext.agree_check coarse_verdicts ?_ h.meets_root 0 trivial at_ at_
  intro l l' hl v _ p q
  rw [hcontext.formats]
  exact agree_leaf_verdicts _ hl v

theorem parse_clone (hload : ofJson s.toJson = .ok s') (v : Json) (options : ParseOptions) :
    s.parse shared v { options with clone := true } =
      s.parse shared v { options with clone := false } := by
  have htemplate : ∀ seed extended,
      s'.template seed { withOptional := true, withExtendedOptional := extended } =
        s.template seed { withOptional := true, withExtendedOptional := extended } := fun seed extended =>
    (h.templateFrom_eq rfl h.meets_root false seed).symm
  have hprepare : s.prepare shared v { options with clone := true } =
      s.prepare shared v { options with clone := false } := by
    unfold prepare working
    rw [if_pos rfl, if_neg Bool.false_ne_true, hload]
    simp only [Except.ok_bind, ← h.coerce_eq shared, htemplate]
  unfold parse
  rw [hprepare]

end Reloaded

/-! ## The theorem -/

/-- A schema that was built can be read back from its document: what is read back judges and converts
every value alike, and it makes no difference which of the two prepares a value that is parsed. The keywords
that have been set as they are have edits of their own. -/
theorem reload_equivalent {e : Expr} {s : Schema} (hbuild : e.build = .ok s)
    (hingredients : e.Ingredients (·.keysDistinct = true) Leaf.HasEdit) (hplain : s.IsPlain) :
    ∃ s', ofJson s.toJson = .ok s' ∧
      (∀ shared v options, SameAnswer (s.validate shared v options) (s'.validate shared v options)) ∧
      (∀ shared v options, s.coerce shared v options = s'.coerce shared v options) ∧
      ∀ shared v (options : ParseOptions), s.parse shared v { options with clone := true } =
        s.parse shared v { options with clone := false } := by
  obtain ⟨s', docs, hload, hreloaded⟩ := (WellBuilt.of_build hbuild hingredients hplain).exists_reloaded
  exact ⟨s', hload, hreloaded.sameAnswer_validate, hreloaded.coerce_eq,
    fun shared => hreloaded.parse_clone shared hload⟩

/-! ### A tree -/

/-- Each part of a tree is a tree, and has a size of at least one. -/
def tree : Expr :=
  .recursive "tree" (.object .plain [("size", .edited (.typed .integer) [.keyword (.bound .minimum 1.0)]),
    ("parts", .array (.edited (.this "tree") [.optional]))])

def treeNodes : List Node := [
  { kind := .object, keywords := [.leaf (.types [.object]),
    .keyed .properties [("size", 1), ("parts", 2)], .leaf (.required ["size", "parts"])] },
  { kind := .integer, keywords := [.leaf (.types [.integer]), .leaf (.bound .minimum 1.0)] },
  { kind := .array, keywords := [.leaf (.types [.array]), .single .items 3] },
  { kind := .link 0, optional := true }]

theorem build_tree : tree.build = .ok ⟨treeNodes.toArray⟩ := by with_unfolding_all rfl

theorem isPlain_treeNodes : Schema.IsPlain ⟨treeNodes.toArray⟩ := by
  intro id n hn
  have hmem : n ∈ treeNodes := List.mem_toArray.1 (Array.mem_of_getElem? hn)
  have hfinite : (1.0 : Float).isFinite = true := by decide +kernel
  simp only [treeNodes, List.mem_cons, List.not_mem_nil, or_false] at hmem
  rcases hmem with rfl | rfl | rfl | rfl
  all_goals
    constructor
    · rfl
    · simp [Keyword.IsPlain, Leaf.IsPlain, hfinite]
    · simp [Kind.IsBare]
    · simp

theorem reload_equivalent_tree :
    tree.build = .ok ⟨treeNodes.toArray⟩ ∧ tree.Ingredients (·.keysDistinct = true) Leaf.HasEdit ∧
      Schema.IsPlain ⟨treeNodes.toArray⟩ ∧
      ∃ s', ofJson (Schema.toJson ⟨treeNodes.toArray⟩) = .ok s' ∧
        (∀ shared v options,
          SameAnswer (Schema.validate ⟨treeNodes.toArray⟩ shared v options) (s'.validate shared v options)) ∧
        (∀ shared v options,
          Schema.coerce ⟨treeNodes.toArray⟩ shared v options = s'.coerce shared v options) ∧
        ∀ shared v (options : ParseOptions),
          Schema.parse ⟨treeNodes.toArray⟩ shared v { options with clone := true } =
            Schema.parse ⟨treeNodes.toArray⟩ shared v { options with clone := false } := by
  have hingredients : tree.Ingredients (·.keysDistinct = true) Leaf.HasEdit := by
    simp [tree, Expr.Ingredients, Expr.IngredientsOfEntries, Expr.IngredientsOfEdits, Expr.IngredientsOfEdit, Leaf.HasEdit]
  exact ⟨build_tree, hingredients, isPlain_treeNodes,
    reload_equivalent build_tree hingredients isPlain_treeNodes⟩

/-! ### A truth value with a reference -/

/-- The document of a truth value leaves its keywords out. So the reference that a coercion follows is
gone once the schema has been read back. -/
theorem constant_reference_forgotten :
    (Expr.edited (.constant true) [.ref "#"]).build = .ok constantLoop ∧
      ∃ s', ofJson constantLoop.toJson = .ok s' ∧
        constantLoop.coerce .empty .null = .error (.recursionLimit maxHops) ∧
        s'.coerce .empty .null = .ok .null := by
  have hjson : constantLoop.toJson = .bool true := documentAt_constant rfl rfl
  have hload : ofJson (.bool true) = .ok (ofNode (.ofKind (.constant true))) := by
    rw [ofJson, Loader.load]
  refine ⟨by with_unfolding_all rfl, _, hjson ▸ hload, coerce_constantLoop .empty .null, ?_⟩
  have hnode : ((ofNode (.ofKind (.constant true))).lenientContext .empty).schema.node? root =
      some (.ofKind (.constant true)) := rfl
  exact Context.coerce_inert hnode rfl (Node.inert_of_nil rfl) (by simp [Node.ofKind])
    (.inr (by simp [Node.ofKind, Kind.IsBare])) {} 0 .null

end Schema

end JsonSchema
