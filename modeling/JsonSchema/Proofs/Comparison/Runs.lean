import JsonSchema.Proofs.Comparison.Locality
import JsonSchema.Proofs.Reloading.Limits

/-!
# Two runs in one schema

Runs in one schema that agree on each turn agree on every judgement.
-/

namespace JsonSchema

open Comparison

/-- The turns are settled alike, go on alike, or the first one ends in an error that is forgiven. -/
inductive Comparison.Turns (C : Comparison) : Turn → Turn → Prop where
  | settled {x y : Outcome} (h : C.Agree C.failures x y) : Turns C (.settled x) (.settled y)
  | forgiven {e : SchemaError} (h : C.forgiving e) (t : Turn) : Turns C (.settled (.error e)) t
  | handed (hops : Nat) (target : NodeId) (v : Json) :
      Turns C (.handed hops target v) (.handed hops target v)
  | asked (hops : Nat) (place : NodeId) (node : Node) (v : Json) :
      Turns C (.asked hops place node v) (.asked hops place node v)

namespace Context

/-- The contexts hold the same schema, and their runs agree on each turn. -/
structure Accords (C : Comparison) (c c' : Context) : Prop where
  schema : c.schema = c'.schema
  formats : c.formats = c'.formats
  shortCircuit : c.shortCircuit = c'.shortCircuit
  leaves : C.leaves = Eq
  values : ∀ v, C.values v
  turn : ∀ hops id value p q, C.locations p q →
    C.Turns (c.turn hops id value p) (c'.turn hops id value q)

namespace Accords

variable {C : Comparison} {c c' : Context} (h : c.Accords C c')
include h

/-- The keywords of a node agree if the judgements of its children do. -/
theorem agree_asked {hops : Nat} {judge judge' : Judge}
    (hjudge : ∀ child v p q, C.locations p q →
      C.Agree C.failures (judge child v p) (judge' child v q)) (n : Node) (v : Json) {p q : Location}
    (hat : C.locations p q) :
    C.Agree C.failures
      (Outcome.ofAll c.shortCircuit (fun k => k.check c judge hops n v p) n.keywords)
      (Outcome.ofAll c'.shortCircuit (fun k => k.check c' judge' hops n v q) n.keywords) := by
  have hrelated : ∀ x y, x = y ∧ x ∈ n.places → ∀ v, C.values v → ∀ p q, C.locations p q →
      C.Agree C.failures (judge x v p) (judge' y v q) := by
    rintro x _ ⟨rfl, _⟩ v _ p q hat
    exact hjudge x v p q hat
  have hleaf : ∀ l l', C.leaves l l' → ∀ v, C.values v → ∀ p q, C.locations p q →
      C.Agree C.failures (l.check c.formats v p) (l'.check c'.formats v q) := by
    intro l l' hl v _ p q hat
    obtain rfl : l = l' := by rwa [h.leaves] at hl
    rw [h.formats]
    exact agree_leaf hat _ l v
  have hextra : ∀ x y, x = y ∧ x ∈ n.places → ∀ ms, C.values (.object ms) → ∀ p q,
      C.locations p q → C.Agree C.failures (Keyword.checkExtra c judge hops n x ms p)
        (Keyword.checkExtra c' judge' hops n y ms q) := by
    rintro x _ ⟨rfl, hx⟩ ms hms p q hat
    have hleads : C.Agree (fun a b => c.schema.kind? a.2 = c.schema.kind? b.2)
        (c.schema.follow hops x) (c.schema.follow hops x) := .same (fun a => Eq.refl (c.schema.kind? a.2)) _
    exact agree_checkExtra hrelated hat (h.schema ▸ hleads) (fun _ => rfl) ⟨rfl, hx⟩ hms
  have hsame : ∀ l l', C.leaves l l' → l.Same l' := by
    intro l l' hl
    obtain rfl : l = l' := by rwa [h.leaves] at hl
    exact .refl l
  have halike : List.Forall₂ (Keyword.Alike C.leaves fun x y => x = y ∧ x ∈ n.places)
      n.keywords n.keywords := by
    rw [h.leaves]
    exact n.alike_self
  rw [h.shortCircuit]
  exact agree_ofAll _ (fun k k' hk => agree_check (h.values v) hat hrelated hleaf hextra hsame halike hk)
    halike

theorem exists_turn {hops : Nat} {id : NodeId} {value : Option Json} {p q : Location} (hat : C.locations p q)
    {t : Turn} (hturn : c.turn hops id value p = t) : ∃ t', c'.turn hops id value q = t' ∧ C.Turns t t' :=
  ⟨_, rfl, hturn ▸ h.turn hops id value p q hat⟩

theorem agree_check (hops : Nat) (id : NodeId) (value : Option Json) {p q : Location}
    (hat : C.locations p q) :
    C.Agree C.failures (c.check hops id value p) (c'.check hops id value q) := by
  refine check_induction (c := c) (P := fun hops id value p => ∀ q, C.locations p q →
    C.Agree C.failures (c.check hops id value p) (c'.check hops id value q)) ?_ ?_ ?_ hops id value p
    q hat
  · intro hops id value p outcome hturn q hat
    obtain ⟨t, hturn', hturns⟩ := h.exists_turn hat hturn
    rw [check_eq_turn, check_eq_turn, hturn, hturn']
    cases hturns with
    | settled hagree => exact hagree
    | forgiven hforgiven => exact .inl hforgiven
  · intro hops id value p reached target v hturn ih q hat
    obtain ⟨t, hturn', hturns⟩ := h.exists_turn hat hturn
    rw [check_eq_turn, check_eq_turn, hturn, hturn']
    cases hturns
    exact ih _ (C.descend _ _ hat)
  · intro hops id value p reached place node v hturn ih q hat
    obtain ⟨t, hturn', hturns⟩ := h.exists_turn hat hturn
    rw [check_eq_turn, check_eq_turn, hturn, hturn']
    cases hturns
    refine h.agree_asked ?_ node v hat
    intro child w p q hat
    by_cases hbelow : c.schema.Below place child
    · rw [judgeBelow_of_below hbelow, judgeBelow_of_below (h.schema ▸ hbelow)]
      exact ih child w p hbelow q hat
    · rw [judgeBelow_of_not_below hbelow, judgeBelow_of_not_below (h.schema ▸ hbelow)]
      exact agree_pass

end Accords

end Context

end JsonSchema
