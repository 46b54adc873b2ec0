import JsonSchema.Proofs.Recursion.Unrolling

/-!
# Runs after fewer hops

How many hops came before counts only where the limit is reached: a judgement that is made after some
hops is the same after fewer.
-/

namespace JsonSchema

open Comparison

/-- From the same node a value goes on in the same way, after no more hops on the right. A turn that
fails on the left may go on in any way. -/
inductive Turn.Sooner : Turn → Turn → Prop where
  | failed (e : SchemaError) (t : Turn) : Sooner (.settled (.error e)) t
  | settled (outcome : Outcome) : Sooner (.settled outcome) (.settled outcome)
  | handed {hops hops' : Nat} (hle : hops' ≤ hops) (target : NodeId) (v : Json) :
    Sooner (.handed hops target v) (.handed hops' target v)
  | asked {hops hops' : Nat} (hle : hops' ≤ hops) (place : NodeId) (node : Node) (v : Json) :
    Sooner (.asked hops place node v) (.asked hops' place node v)

theorem Schema.follow_sooner {s : Schema} {hops hops' reached : Nat} {id place : NodeId} (hle : hops' ≤ hops)
    (h : s.follow hops id = .ok (reached, place)) :
    ∃ reached' ≤ reached, s.follow hops' id = .ok (reached', place) := by
  fun_induction follow s hops id generalizing hops' with
  | case1 hops id next hkind hlt ih =>
    obtain ⟨reached', hreached, hfollow⟩ := ih (Nat.succ_le_succ hle) h
    refine ⟨reached', hreached, ?_⟩
    rw [follow, hkind]
    exact (if_pos (Nat.lt_of_le_of_lt hle hlt)).trans hfollow
  | case2 => cases h
  | case3 hops id hlink =>
    cases h
    exact ⟨hops', hle, follow_eq_self hlink hops'⟩

namespace Context

variable {c : Context} {hops hops' : Nat}

theorem turn_sooner (hle : hops' ≤ hops) (id : NodeId) (value : Option Json) (at_ : Location) :
    (c.turn hops id value at_).Sooner (c.turn hops' id value at_) := by
  unfold turn
  cases hfollow : c.schema.follow hops id with
  | error e => exact .failed e _
  | ok r =>
    obtain ⟨reached', hreached, hfollow'⟩ := Schema.follow_sooner hle hfollow
    rw [hfollow']
    dsimp only
    split
    · exact .settled _
    · split
      · exact .settled _
      · exact .settled _
      · exact .settled _
      · split
        · exact .settled _
        · split
          · exact .settled _
          · split
            · exact .settled _
            · split
              · split
                · exact .settled _
                · split
                  · next hlt =>
                    rw [if_pos (Nat.lt_of_le_of_lt hreached hlt)]
                    exact .handed (Nat.succ_le_succ hreached) _ _
                  · exact .failed _ _
              · exact .asked hreached _ _ _

theorem exists_turn_sooner (hle : hops' ≤ hops) {id : NodeId} {value : Option Json} {at_ : Location} {t : Turn}
    (h : c.turn hops id value at_ = t) : ∃ t', c.turn hops' id value at_ = t' ∧ t.Sooner t' :=
  ⟨_, rfl, h ▸ turn_sooner hle id value at_⟩

theorem asked_sooner (hle : hops' ≤ hops) {judge judge' : Judge}
    (hjudge : ∀ child v at_, forward.Agree Eq (judge child v at_) (judge' child v at_)) (n : Node) (v : Json)
    (at_ : Location) :
    forward.Agree Eq (Outcome.ofAll c.shortCircuit (fun k => k.check c judge hops n v at_) n.keywords)
      (Outcome.ofAll c.shortCircuit (fun k => k.check c judge' hops' n v at_) n.keywords) := by
  have hrelated : ∀ x y, x = y ∧ x ∈ n.places → ∀ v, forward.values v → ∀ p q, forward.locations p q →
      forward.Agree forward.failures (judge x v p) (judge' y v q) := by
    rintro x _ ⟨rfl, _⟩ v _ p _ rfl
    exact hjudge x v p
  refine agree_ofAll (C := forward) _ (fun k k' hk => agree_check (C := forward) trivial rfl hrelated ?_ ?_
    (fun l _ heq => heq ▸ .refl l) n.alike_self hk) n.alike_self
  · rintro l _ rfl w _ p _ rfl
    exact .same (fun _ => rfl) _
  · rintro x _ ⟨rfl, hx⟩ ms hms p _ rfl
    refine agree_checkExtra hrelated rfl ?_ (fun _ => rfl) ⟨rfl, hx⟩ hms
    cases hfollow : c.schema.follow hops x with
    | error e => exact forward_error _ _
    | ok r =>
      obtain ⟨reached', _, hfollow'⟩ := Schema.follow_sooner hle hfollow
      rw [hfollow']
      exact .ok rfl

theorem check_sooner (hle : hops' ≤ hops) (id : NodeId) (value : Option Json) (at_ : Location) :
    forward.Agree Eq (c.check hops id value at_) (c.check hops' id value at_) := by
  induction hops, id, value, at_ using check_induction (c := c) generalizing hops' with
  | settled hops id value at_ outcome hturn =>
    obtain ⟨t, hturn', hsooner⟩ := exists_turn_sooner hle hturn
    rw [check_eq_turn, check_eq_turn, hturn, hturn']
    cases hsooner with
    | failed e => exact forward_error _ _
    | settled => exact .same (fun _ => rfl) _
  | handed hops id value at_ reached target v hturn ih =>
    obtain ⟨t, hturn', hsooner⟩ := exists_turn_sooner hle hturn
    rw [check_eq_turn, check_eq_turn, hturn, hturn']
    cases hsooner with
    | handed hle => exact ih hle
  | asked hops id value at_ reached place n v hturn ih =>
    obtain ⟨t, hturn', hsooner⟩ := exists_turn_sooner hle hturn
    rw [check_eq_turn, check_eq_turn, hturn, hturn']
    cases hsooner with
    | asked hle =>
      refine asked_sooner hle (fun child w inner => ?_) n v at_
      by_cases hbelow : c.schema.Below place child
      · rw [judgeBelow_of_below hbelow, judgeBelow_of_below hbelow]
        exact ih child w inner hbelow hle
      · rw [judgeBelow_of_not_below hbelow, judgeBelow_of_not_below hbelow]
        exact agree_pass

theorem check_eq_of_sooner (hle : hops' ≤ hops) {id : NodeId} {value : Option Json} {at_ : Location}
    {found : List Failure} (h : c.check hops id value at_ = .ok found) :
    c.check hops' id value at_ = .ok found := by
  have hagree := check_sooner (c := c) hle id value at_
  rw [h] at hagree
  obtain ⟨_, hfound, rfl⟩ := hagree
  exact hfound

end Context

end JsonSchema
