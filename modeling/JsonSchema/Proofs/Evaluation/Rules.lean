import JsonSchema.Proofs.Evaluation.Leaves

/-! # Keywords with schemas are judged by their rules -/

namespace JsonSchema

open Loader Json

/-! ## What a node knows of its keywords -/

namespace Node

variable {R : NodeId → Json → Prop} {ms : Members} {n : Node}
  (h : List.Forall₂ (Keyword.Reads R) ms n.keywords)
include h

theorem count?_eq_limit? (which : Count) : n.count? which = ms.limit? which := by
  have hrel := rel_count? h which
  unfold Members.limit?
  generalize n.count? which = limit? at hrel ⊢
  generalize ms.get? which.name = d? at hrel ⊢
  cases hrel with
  | none => rfl
  | some hd => exact hd.symm

theorem length_prefixItems : n.prefixItems.length = ms.prefixLength := by
  have hrel := rel_prefixItems h
  unfold prefixItems Members.prefixLength
  generalize n.find? _ = ids? at hrel ⊢
  generalize ms.get? "prefixItems" = d? at hrel ⊢
  cases hrel with
  | none => rfl
  | some hd =>
    obtain ⟨ds, rfl, hheld⟩ := hd
    exact hheld.length_eq

theorem any_properties_iff (key : String) :
    n.properties.any (·.1 == key) = false ↔
      ∀ entries : Members, ms.get? "properties" = some (.object entries) → key ∉ entries.keys := by
  have hrel := rel_properties h
  unfold properties
  generalize n.find? _ = entries? at hrel ⊢
  generalize ms.get? "properties" = d? at hrel ⊢
  cases hrel with
  | none => simp
  | @some entries d hd =>
    obtain ⟨ds, rfl, hheld⟩ := hd
    have hkeys : entries.map (·.1) = ds.map (·.1) :=
      List.forall₂_eq_eq_eq ▸ List.forall₂_map_left_iff.2
        (List.forall₂_map_right_iff.2 (hheld.imp fun _ _ h => h.1))
    have hany : entries.any (·.1 == key) = false ↔ key ∉ ds.map (·.1) := by
      rw [← hkeys, List.any_eq_false, List.mem_map, not_exists]
      refine forall_congr' fun e => ?_
      rw [not_and, beq_iff_eq]
    rw [Option.getD_some, hany]
    constructor
    · intro hkey entries' h'; cases h'; exact hkey
    · intro hkey; exact hkey ds rfl

theorem any_patterns_iff (key : String) :
    n.patterns.any (·.occursIn key) = false ↔
      ∀ entries : Members, ms.get? "patternProperties" = some (.object entries) →
        ∀ e ∈ entries, ∀ p, Pattern.compile? e.1 = some p → p.occursIn key = false := by
  have hrel := rel_patterns h
  unfold patterns
  generalize n.find? _ = patterns? at hrel ⊢
  generalize ms.get? "patternProperties" = d? at hrel ⊢
  cases hrel with
  | none => simp
  | @some patterns d hd =>
    obtain ⟨ds, rfl, hcompiled⟩ := hd
    have hany : patterns.any (·.occursIn key) = false ↔
        ∀ e ∈ ds, ∀ p, Pattern.compile? e.1 = some p → p.occursIn key = false := by
      rw [List.any_eq_false]
      refine forall_iff_of_forall₂ hcompiled fun p e hp => ?_
      rw [hp, Bool.not_eq_true]
      constructor
      · intro hkey p' hp'; cases hp'; exact hkey
      · intro hkey; exact hkey p rfl
    rw [Option.getD_some, hany]
    constructor
    · intro hkey entries h'; cases h'; exact hkey
    · intro hkey; exact hkey ds rfl

theorem isExtra_iff (key : String) : n.isExtra key = true ↔ ms.IsExtra key := by
  unfold isExtra Members.IsExtra
  rw [Bool.and_eq_true, Bool.not_eq_true', Bool.not_eq_true', any_properties_iff h,
    any_patterns_iff h]

end Node

/-! ## Keywords for any value -/

namespace Keyword

theorem rel_lookup {R : NodeId → Json → Prop} {entries : List (String × NodeId)} {ds : Members}
    (h : List.Forall₂ (fun e m => e.1 = m.1 ∧ R e.2 m.2) entries ds) (key : String) :
    Option.Rel R (entries.lookup key) (ds.get? key) := rel_lookup_of_forall₂ h key

section Judged

variable {R : NodeId → Json → Prop} {holds : Json → Json → Prop} {judge : Judge}
  (hjudge : ∀ id d, R id d → ∀ v at_, Answers (judge id v at_) (holds d v))
include hjudge

theorem forall₂_decides {ids : List NodeId} {ds : List Json} (h : List.Forall₂ R ids ds) (v : Json)
    (at_ : Location) :
    List.Forall₂ (fun id d => Decides (accepts judge v at_ id) (holds d v)) ids ds :=
  h.imp fun id d hd => decides_accepts (hjudge id d hd v at_)

theorem answers_optional {id? : Option NodeId} {d? : Option Json} (v : Json) (at_ : Location) :
    Option.Rel R id? d? → Answers (match id? with
      | some id => judge id v at_
      | none => Outcome.pass) (∀ d, d? = some d → holds d v) := by
  intro h
  cases h with
  | none =>
    refine Outcome.answers_pass ?_
    intro d hd
    cases hd
  | @some id d hd =>
    refine (hjudge id d hd v at_).congr ?_
    constructor
    · intro hholds d' hd'; cases hd'; exact hholds
    · intro hholds; exact hholds d rfl

theorem answers_checkAllOf {ids : List NodeId} {ds : List Json} (h : List.Forall₂ R ids ds)
    (v : Json) (at_ : Location) :
    Answers (checkAllOf judge ids v at_) (∀ d ∈ ds, holds d v) := by
  unfold checkAllOf
  rw [countAccepted_eq (forall₂_decides hjudge h v at_), Except.ok_bind, h.length_eq]
  refine Outcome.answers_require ?_ _ _ _ _
  rw [beq_iff_eq, countWhere, List.countP_eq_length]
  simp only [decide_eq_true_eq]

theorem answers_checkAnyOf {ids : List NodeId} {ds : List Json} (h : List.Forall₂ R ids ds)
    (v : Json) (at_ : Location) :
    Answers (checkAnyOf judge ids v at_) (∃ d ∈ ds, holds d v) := by
  refine (decides_anyAccepted (forall₂_decides hjudge h v at_)).bind fun b hb => ?_
  exact Outcome.answers_require hb _ _ _ _

theorem answers_checkOneOf {ids : List NodeId} {ds : List Json} (h : List.Forall₂ R ids ds)
    (v : Json) (at_ : Location) :
    Answers (checkOneOf judge ids v at_) (countWhere (fun d => holds d v) ds = 1) := by
  unfold checkOneOf
  rw [countAccepted_eq (forall₂_decides hjudge h v at_), Except.ok_bind]
  exact Outcome.answers_require beq_iff_eq _ _ _ _

theorem answers_checkNegated {id : NodeId} {d : Json} (h : R id d) (v : Json) (at_ : Location) :
    Answers (checkNegated judge id v at_) (¬holds d v) := by
  refine (decides_accepts (hjudge id d h v _)).bind fun b hb => ?_
  refine Outcome.answers_require ?_ _ _ _ _
  rw [← hb]
  simp

theorem answers_checkCondition {n : Node} {ms : Members}
    (hreads : List.Forall₂ (Keyword.Reads R) ms n.keywords) {id : NodeId} {d : Json} (h : R id d)
    (v : Json) (at_ : Location) :
    Answers (checkCondition judge n id v at_)
      ((holds d v → ∀ e, ms.get? "then" = some e → holds e v) ∧
        (¬holds d v → ∀ e, ms.get? "else" = some e → holds e v)) := by
  unfold checkCondition
  split
  · next hnone =>
    rw [Bool.and_eq_true, Option.isNone_iff_eq_none, Option.isNone_iff_eq_none] at hnone
    have hthen : ms.get? "then" = none := Node.get?_eq_none_of_single? hreads hnone.1
    have helse : ms.get? "else" = none := Node.get?_eq_none_of_single? hreads hnone.2
    rw [hthen, helse]
    refine Outcome.answers_pass ⟨?_, ?_⟩
    · intro _ e he
      cases he
    · intro _ e he
      cases he
  · refine (decides_accepts (hjudge id d h v at_)).bind fun b hb => ?_
    cases b with
    | true =>
      refine (answers_optional hjudge v _ (Node.rel_single? hreads .consequent)).congr ?_
      have hd := hb.1 rfl
      constructor
      · intro hthen; exact ⟨fun _ => hthen, fun hnot => absurd hd hnot⟩
      · intro hif; exact hif.1 hd
    | false =>
      refine (answers_optional hjudge v _ (Node.rel_single? hreads .alternative)).congr ?_
      have hd : ¬holds d v := fun hd => Bool.false_ne_true (hb.2 hd)
      constructor
      · intro helse; exact ⟨fun hif => absurd hif hd, fun _ => helse⟩
      · intro hif; exact hif.2 hd

/-! ## Keywords for objects -/

theorem answers_checkProperties {entries : List (String × NodeId)} {ds : Members}
    (h : List.Forall₂ (fun e m => e.1 = m.1 ∧ R e.2 m.2) entries ds) (hnodup : ds.keys.Nodup)
    (vs : Members) (at_ : Location) :
    Answers (checkProperties judge entries vs at_)
      (∀ e ∈ ds, ∀ m ∈ vs, m.1 = e.1 → holds e.2 m.2) := by
  unfold checkProperties
  refine Answers.congr (Outcome.answers_ofFirst
    (P := fun m => ∀ d, ds.get? m.1 = some d → holds d m.2)
    (List.forall₂_same.2 fun m _ => answers_optional hjudge m.2 _ (rel_lookup h m.1))) ?_
  constructor
  · intro hall e he m hm hkey
    exact hall m hm e.2 (hkey ▸ Members.get?_eq_some_of_mem ds hnodup e he)
  · intro hall m hm d hd
    exact hall _ (Members.mem_of_get?_eq_some ds m.1 d hd) m hm rfl

theorem answers_checkPatterns {entries : List (Pattern × NodeId)} {ds : Members}
    (h : List.Forall₂ (fun e m => Pattern.compile? m.1 = some e.1 ∧ R e.2 m.2) entries ds)
    (vs : Members) (at_ : Location) :
    Answers (checkPatterns judge entries vs at_)
      (∀ e ∈ ds, ∀ m ∈ vs, ∀ p, Pattern.compile? e.1 = some p → p.occursIn m.1 = true →
        holds e.2 m.2) := by
  have hmember : ∀ m : String × Json, Answers
      (Outcome.ofFirst (fun e => judge e.2 m.2
        (at_.descend [.key "patternProperties", .key e.1.source] [.key m.1]))
        (entries.filter (·.1.occursIn m.1)))
      (∀ e ∈ ds.filter fun e => (Pattern.compile? e.1).any (·.occursIn m.1), holds e.2 m.2) := by
    intro m
    refine Outcome.answers_ofFirst ?_
    refine (List.rel_filter ?_ h).imp fun e d hd => hjudge e.2 d.2 hd.2 m.2 _
    rintro e d ⟨hp, _⟩
    simp [hp]
  refine (Outcome.answers_ofFirst (List.forall₂_same.2 fun m _ => hmember m)).congr ?_
  constructor
  · intro hall e he m hm p hp hoccurs
    refine hall m hm e (List.mem_filter.2 ⟨he, ?_⟩)
    rw [hp]
    exact hoccurs
  · intro hall m hm e he
    obtain ⟨he, hany⟩ := List.mem_filter.1 he
    obtain ⟨p, hp, hoccurs⟩ := (Option.any_eq_true _ _).1 hany
    exact hall e he m hm p hp hoccurs

theorem answers_checkExtra {c : Context} {hops : Nat} {n : Node} {ms : Members}
    (hreads : List.Forall₂ (Keyword.Reads R) ms n.keywords) {id : NodeId} {d : Json} (h : R id d)
    (hfollow : c.schema.follow hops id = .ok (hops, id))
    (hconstant : ∀ b, c.schema.kind? id = some (.constant b) → ∀ w, holds d w ↔ b = true)
    (vs : Members) (at_ : Location) :
    Answers (checkExtra c judge hops n id vs at_)
      (∀ m ∈ vs, ms.IsExtra m.1 → holds d m.2) := by
  have hextra : (∀ m ∈ vs.filter (n.isExtra ·.1), holds d m.2) ↔
      ∀ m ∈ vs, ms.IsExtra m.1 → holds d m.2 := by
    refine forall_congr' fun m => ?_
    rw [List.mem_filter, Node.isExtra_iff hreads, and_imp]
  rw [← hextra]
  unfold checkExtra
  dsimp only
  generalize vs.filter (n.isExtra ·.1) = extra
  -- Where nothing is left over, the child is not even looked at.
  cases extra with
  | nil => exact Outcome.answers_pass (List.forall_mem_nil _)
  | cons m rest =>
    rw [if_neg (by simp), hfollow, Except.ok_bind]
    dsimp only
    split
    · next accepts hkind =>
      refine Outcome.answers_require ?_ _ _ _ _
      constructor
      · intro haccepts m _; exact (hconstant accepts hkind m.2).2 haccepts
      · intro hall; exact (hconstant accepts hkind m.2).1 (hall m List.mem_cons_self)
    · exact Outcome.answers_ofFirst (List.forall₂_same.2 fun m _ => hjudge id d h m.2 _)

theorem answers_checkNames {id : NodeId} {d : Json} (h : R id d) (vs : Members) (at_ : Location) :
    Answers (checkNames judge id vs at_) (∀ m ∈ vs, holds d (.string m.1)) :=
  Outcome.answers_ofFirst (List.forall₂_same.2 fun m _ => hjudge id d h (.string m.1) _)

theorem answers_checkDependents {entries : List (String × NodeId)} {ds : Members}
    (h : List.Forall₂ (fun e m => e.1 = m.1 ∧ R e.2 m.2) entries ds) (vs : Members)
    (at_ : Location) :
    Answers (checkDependents judge entries vs at_)
      (∀ e ∈ ds, vs.hasKey e.1 = true → holds e.2 (.object vs)) := by
  have hfilter : List.Forall₂ (fun e m => e.1 = m.1 ∧ R e.2 m.2) (entries.filter (vs.hasKey ·.1))
      (ds.filter (vs.hasKey ·.1)) := by
    refine List.rel_filter ?_ h
    rintro e m ⟨hkey, _⟩
    dsimp only
    rw [hkey]
  refine (Outcome.answers_ofFirst
    (hfilter.imp fun e m hm => hjudge e.2 m.2 hm.2 (.object vs) _)).congr ?_
  refine forall_congr' fun e => ?_
  rw [List.mem_filter, and_imp]

/-! ## Keywords for arrays -/

theorem answers_checkItems {n : Node} {ms : Members}
    (hreads : List.Forall₂ (Keyword.Reads R) ms n.keywords) {id : NodeId} {d : Json} (h : R id d)
    (items : List Json) (at_ : Location) :
    Answers (checkItems judge n id items at_)
      (∀ item ∈ items.drop ms.prefixLength, holds d item) := by
  unfold checkItems
  rw [Node.length_prefixItems hreads]
  have hitems : (items.zipIdx.drop ms.prefixLength).map (·.1) = items.drop ms.prefixLength := by
    rw [List.map_drop, List.zipIdx_map_fst]
  rw [← hitems]
  refine Outcome.answers_ofFirst (List.forall₂_map_right_iff.2 (List.forall₂_same.2 ?_))
  intro e _
  exact hjudge id d h e.1 _

theorem answers_checkPrefix {ids : List NodeId} {ds : List Json} (h : List.Forall₂ R ids ds)
    (items : List Json) (at_ : Location) :
    Answers (checkPrefix judge ids items at_) (∀ e ∈ ds.zip items, holds e.1 e.2) := by
  have hzip := forall₂_zip_right h items
  rw [← List.zipIdx_map_fst 0 (ids.zip items), List.forall₂_map_left_iff] at hzip
  refine Outcome.answers_ofFirst (hzip.imp fun e d hd => ?_)
  rw [← hd.2]
  exact hjudge e.1.1 d.1 hd.1 e.1.2 _

theorem answers_checkContains {n : Node} {ms : Members}
    (hreads : List.Forall₂ (Keyword.Reads R) ms n.keywords) {id : NodeId} {d : Json} (h : R id d)
    (items : List Json) (at_ : Location) :
    Answers (checkContains judge n id items at_)
      (((ms.limit? .minContains).getD 1).toNat ≤ countWhere (holds d) items ∧
        ∀ most, ms.limit? .maxContains = some most → countWhere (holds d) items ≤ most.toNat) := by
  have hcount : countAccepted (fun item => accepts judge item (at_.descend [.key "contains"] []) id)
      items = .ok (countWhere (holds d) items) :=
    countAccepted_eq (List.forall₂_same.2 fun item _ => decides_accepts (hjudge id d h item _))
  unfold checkContains
  dsimp only
  rw [hcount, Except.ok_bind, Node.count?_eq_limit? hreads, Node.count?_eq_limit? hreads]
  generalize countWhere (holds d) items = found
  split
  · next hfew =>
    refine Outcome.answers_require ?_ _ _ _ _
    constructor
    · intro h; cases h
    · rintro ⟨hleast, _⟩; omega
  · next hmany =>
    have hleast : ((ms.limit? .minContains).getD 1).toNat ≤ found := by omega
    split
    · next most hmost =>
      refine Outcome.answers_require ?_ _ _ _ _
      rw [decide_eq_true_iff]
      constructor
      · intro hfound
        refine ⟨hleast, fun most' h' => ?_⟩
        rw [hmost] at h'
        cases h'
        exact hfound
      · rintro ⟨_, hmax⟩
        exact hmax most hmost
    · next hnone =>
      refine Outcome.answers_pass ⟨hleast, fun most hmost => ?_⟩
      rw [hnone] at hmost
      cases hmost

end Judged

end Keyword

end JsonSchema
