import JsonSchema.Proofs.Comparison.Nodes
import JsonSchema.Proofs.Reordering.Keywords

/-!
# Judging reordered values

Runs at related nodes with related values do the same up to the order of things. An induction on what is
left to do gives the same verdict where both of them answer.
-/

namespace JsonSchema

open Json Outcome

/-! ## Nodes at related places -/

namespace Schema

/-- Nodes at related places say the same in another order. -/
structure Reordered (R : NodeId → NodeId → Prop) (s s' : Schema) : Prop where
  nodes : ∀ {x y}, R x y →
    Option.Rel (Node.Reordered fun a b => R a b ∧ (s.Below x a ↔ s'.Below y b)) (s.node? x) (s'.node? y)
  link : ∀ {x y target}, R x y → s.kind? x = some (.link target) → R target target

namespace Reordered

variable {R : NodeId → NodeId → Prop} {s s' : Schema} (h : Reordered R s s') {x y : NodeId}
  (hxy : R x y)
include h hxy

theorem nodes_cases :
    (s.node? x = none ∧ s'.node? y = none) ∨ ∃ n n', s.node? x = some n ∧ s'.node? y = some n' ∧
      n.Reordered (fun a b => R a b ∧ (s.Below x a ↔ s'.Below y b)) n' := by
  have hnodes := h.nodes hxy
  generalize s.node? x = n? at hnodes ⊢
  generalize s'.node? y = n'? at hnodes ⊢
  cases hnodes with
  | none => exact .inl ⟨rfl, rfl⟩
  | some hn => exact .inr ⟨_, _, rfl, rfl, hn⟩

theorem kind?_eq : s.kind? x = s'.kind? y := by
  unfold Schema.kind?
  rcases h.nodes_cases hxy with ⟨hx, hy⟩ | ⟨n, n', hx, hy, hn⟩
  · rw [hx, hy]
  · rw [hx, hy, Option.map_some, Option.map_some, hn.kind]

theorem consistent_follow (hops : Nat) :
    Consistent (fun r r' => s.kind? r.2 = s'.kind? r'.2) (s.follow hops x) (s'.follow hops y) := by
  fun_induction Schema.follow s hops x generalizing y with
  | case1 hops x target hkind hlt ih =>
    have hkind' : s'.kind? y = some (.link target) := h.kind?_eq hxy ▸ hkind
    have hstep : s'.follow hops y = s'.follow (hops + 1) target := by
      rw [follow, hkind']
      exact if_pos hlt
    rw [hstep]
    exact ih (h.link hxy hkind)
  | case2 => exact .error_left _ _
  | case3 hops x hlink =>
    rw [follow_eq_self fun target => h.kind?_eq hxy ▸ hlink target]
    exact .ok (h.kind?_eq hxy)

end Reordered

end Schema

namespace Context

/-! ## Single nodes -/

section Node

variable {V : Json → Json → Prop} (hV : Resemblance V) {R : NodeId → NodeId → Prop} {c c' : Context}
  (hformats : c.formats = c'.formats) (hunsupported : c.ignoreUnsupported = c'.ignoreUnsupported)
  {hops : Nat} {x y : NodeId} {n n' : Node} (hn : n.Reordered R n') {v w : Json} (hvw : V v w)
  (p q : Location)
  (hrefer : ∀ reference, SameVerdict (c.refer hops reference v p) (c'.refer hops reference w q))
  (hchild : ∀ a b, R a b → ∀ v w, V v w → ∀ p q,
    SameVerdict (c.judgeBelow hops x a v p) (c'.judgeBelow hops y b w q))
  (hfollow : ∀ a b, R a b → Consistent (fun r r' => c.schema.kind? r.2 = c'.schema.kind? r'.2)
    (c.schema.follow hops a) (c'.schema.follow hops b))
include hV hformats hunsupported hn hvw hrefer hchild hfollow

theorem sameVerdict_weigh : SameVerdict (c.weigh hops x n v p) (c'.weigh hops y n' w q) := by
  have hrejection : n.rejection? (some v) p = none := by simp only [Node.rejection?, hn.hook]
  have hrejection' : n'.rejection? (some w) q = none := by simp only [Node.rejection?, hn.hook']
  unfold weigh
  rw [hrejection, hrejection', ← hunsupported, ← hn.declares_eq, ← hn.reference]
  dsimp only
  split
  · exact .error_left _ _
  · split
    · exact hrefer _
    · refine sameVerdict_ofAll _ _ hn.keywords fun k k' hk => ?_
      exact Keyword.sameVerdict_check hchild p q hV hformats hn hfollow hk hvw

theorem sameVerdict_answer : SameVerdict (c.answer hops x n v p) (c'.answer hops y n' w q) := by
  have hweigh := sameVerdict_weigh hV hformats hunsupported hn hvw p q hrefer hchild hfollow
  unfold answer
  rw [← hn.kind]
  cases n.kind with
  | constant accepts =>
    cases accepts with
    | true => exact sameVerdict_pass
    | false => exact .ok (iff_of_false (List.cons_ne_nil _ _) (List.cons_ne_nil _ _))
  | hole token => exact sameVerdict_pass
  | _ => exact hweigh

end Node

/-! ## Runs -/

/-- What two runs over schemas with related nodes have in common. -/
structure Reordered (R : NodeId → NodeId → Prop) (c c' : Context) : Prop where
  schema : c.schema.Reordered R c'.schema
  formats : c.formats = c'.formats
  unsupported : c.ignoreUnsupported = c'.ignoreUnsupported
  resolve : ∀ reference, Consistent R (c.index.resolve reference) (c'.index.resolve reference)

theorem Reordered.sameVerdict_check {R : NodeId → NodeId → Prop} {c c' : Context}
    (h : Reordered R c c') {V : Json → Json → Prop} (hV : Resemblance V) {x y : NodeId} (hxy : R x y)
    {v w : Json} (hvw : V v w) (hops : Nat) (p q : Location) :
    SameVerdict (c.check hops x (some v) p) (c'.check hops y (some w) q) := by
  -- Hops come first, then places: a child stands behind its node, but no reference need lead onwards.
  induction hleft : c.schema.remaining hops x using
    (Prod.lex Nat.lt_wfRel Nat.lt_wfRel).wf.induction generalizing hops x y v w p q with | h left ih
  subst hleft
  have hnext : hops < maxHops → ∀ {x' y'}, R x' y' → ∀ p q,
      SameVerdict (c.check (hops + 1) x' (some v) p) (c'.check (hops + 1) y' (some w) q) := by
    intro hlt x' y' hxy' p q
    exact ih _ (.left _ _ (Nat.sub_succ_lt_self _ _ hlt)) hxy' hvw _ p q rfl
  rcases h.schema.nodes_cases hxy with ⟨hx, hy⟩ | ⟨n, n', hx, hy, hn⟩
  · rw [check_of_none hx, check_of_none hy]
    exact sameVerdict_pass
  · by_cases hlink : ∃ target, n.kind = .link target
    · obtain ⟨target, hlink⟩ := hlink
      have hkind : c.schema.kind? x = some (.link target) := by
        rw [Schema.kind?, hx, Option.map_some, hlink]
      have hkind' : c'.schema.kind? y = some (.link target) := h.schema.kind?_eq hxy ▸ hkind
      rw [check_link hkind, check_link hkind']
      split
      · next hlt => exact hnext hlt (h.schema.link hxy hkind) p q
      · exact .error_left _ _
    · have hlink := not_exists.1 hlink
      rw [check_of_node hx hlink, check_of_node hy (hn.kind ▸ hlink)]
      refine sameVerdict_answer hV h.formats h.unsupported hn hvw p q ?_ ?_ ?_
      · intro reference
        refine (h.resolve reference).bind fun target target' htarget => ?_
        split
        · next hlt => exact hnext hlt htarget _ _
        · exact .error_left _ _
      · rintro a b ⟨hab, hbelow⟩ v w hvw p q
        by_cases ha : c.schema.Below x a
        · rw [judgeBelow_of_below ha, judgeBelow_of_below (hbelow.1 ha)]
          exact ih _ (.right _ ha.size_sub_lt) hab hvw _ p q rfl
        · rw [judgeBelow_of_not_below ha, judgeBelow_of_not_below (mt hbelow.2 ha)]
          exact sameVerdict_pass
      · rintro a b ⟨hab, _⟩
        exact h.schema.consistent_follow hab hops

end Context

/-! ## Verdicts -/

namespace Schema

theorem valid_eq_of_reordered {s s' : Schema} {shared : FormatRegistry} {options : ValidateOptions}
    (hcoerce : options.coerce = false) {R : NodeId → NodeId → Prop}
    (h : Context.Reordered R (s.context shared options) (s'.context shared options))
    {V : Json → Json → Prop} (hV : Resemblance V) {x y : NodeId} (hxy : R x y) {v w : Json}
    (hvw : V v w) {r r' : Verdict} (hr : s.validateAt shared x (some v) options = .ok r)
    (hr' : s'.validateAt shared y (some w) options = .ok r') : r.valid = r'.valid := by
  have hjudged : ∀ (s : Schema) id v, s.judged shared id options (some v) = .ok (some v) := by
    intro s id v
    rw [judged, hcoerce]
    rfl
  rw [validateAt_eq_judged, hjudged, Except.ok_bind] at hr hr'
  obtain ⟨found, hfound, rfl⟩ := Except.map_eq_ok_iff.1 hr
  obtain ⟨found', hfound', rfl⟩ := Except.map_eq_ok_iff.1 hr'
  have hempty := h.sameVerdict_check hV hxy hvw 0 _ _ found found' hfound hfound'
  rw [Verdict.ofFailures, Verdict.ofFailures, Bool.eq_iff_iff, List.isEmpty_iff, List.isEmpty_iff]
  exact hempty

end Schema

end JsonSchema
