import JsonSchema.Proofs.Coercion.Stage
import JsonSchema.Proofs.Loading.Parts
import JsonSchema.Proofs.Loading.Values

/-!
# What acceptance says about the parts

A value that a node of a loaded schema accepts is accepted by each of its keywords, and so its parts
are accepted by the nodes below.
-/

namespace JsonSchema

open Loader

/-! ## Lists of outcomes -/

namespace Outcome

theorem eq_pass_of_ofFirst {f : α → Outcome} {as : List α} (h : ofFirst f as = .ok []) :
    ∀ a ∈ as, f a = .ok [] := by
  induction as with
  | nil => exact fun a ha => absurd ha List.not_mem_nil
  | cons a as ih =>
    unfold ofFirst at h
    obtain ⟨found, hfound, h⟩ := Except.bind_eq_ok_iff.1 h
    cases found with
    | nil => exact List.forall_mem_cons.2 ⟨hfound, ih h⟩
    | cons failure failures => cases h

theorem eq_pass_of_ofAll {stop : Bool} {f : α → Outcome} {as : List α}
    (h : ofAll stop f as = .ok []) : ∀ a ∈ as, f a = .ok [] := by
  induction as with
  | nil => exact fun a ha => absurd ha List.not_mem_nil
  | cons a as ih =>
    unfold ofAll at h
    obtain ⟨found, hfound, h⟩ := Except.bind_eq_ok_iff.1 h
    split at h
    · next hstop =>
      cases h
      simp at hstop
    · obtain ⟨rest, hrest, h⟩ := Except.bind_eq_ok_iff.1 h
      obtain ⟨rfl, rfl⟩ := List.append_eq_nil_iff.1 (Except.ok.inj h)
      exact List.forall_mem_cons.2 ⟨hfound, ih hrest⟩

theorem ofFirst_singleton (f : α → Outcome) (a : α) : ofFirst f [a] = f a := by
  rw [ofFirst, ofFirst]
  cases f a with
  | error e => rfl
  | ok found => cases found <;> rfl

theorem ofAll_singleton (stop : Bool) (f : α → Outcome) (a : α) : ofAll stop f [a] = f a := by
  rw [ofAll, ofAll]
  cases f a with
  | error e => rfl
  | ok found => cases stop <;> cases found <;> simp [pass]

theorem ofAll_cons_of_pass {stop : Bool} {f : α → Outcome} {a : α} (h : f a = .ok []) (as : List α) :
    ofAll stop f (a :: as) = ofAll stop f as := by
  rw [ofAll, h, Except.ok_bind, List.isEmpty_nil, Bool.not_true, Bool.and_false, if_neg Bool.false_ne_true]
  cases ofAll stop f as <;> rfl

theorem ofAll_eq_pass {stop : Bool} {f : α → Outcome} {as : List α} (h : ∀ a ∈ as, f a = .ok []) :
    ofAll stop f as = .ok [] := by
  induction as with
  | nil => rfl
  | cons a as ih =>
    obtain ⟨ha, has⟩ := List.forall_mem_cons.1 h
    rw [ofAll_cons_of_pass ha, ih has]

theorem eq_true_of_require {holds : Bool} {at_ : Location} {keyword : String}
    {complaint : Complaint} {v : Json} (h : require holds at_ keyword complaint v = .ok []) :
    holds = true := by
  cases holds with
  | true => rfl
  | false => cases h

end Outcome

/-! ## Nodes -/

/-- What a node that accepts a value does with it first in a coercion. -/
inductive Accepted (c : Context) (docs : List Json) (hops : Nat) (id : NodeId) (v : Json)
    (at_ : Location) : Json → Stage → Prop where
  | constant {n : Node} (kind : n.kind = .constant true) :
    Accepted c docs hops id v at_ (.bool true) (.converted hops id n)
  | handed {ms : Members} {reference : String} {target : NodeId} {inner : Location}
    (resolve : c.index.resolve reference = .ok target)
    (check : c.check (hops + 1) target (some v) inner = .ok []) :
    Accepted c docs hops id v at_ (.object ms) (.handed (hops + 1) target)
  | converted {ms : Members} {n : Node} (kind : kindOf ms = .ok n.kind)
    (node : c.schema.node? id = some n)
    (reads : List.Forall₂ (Keyword.Reads (c.schema.Held docs id)) ms n.keywords)
    (pass : ∀ k ∈ n.keywords, k.check c (c.judgeBelow hops id) hops n v at_ = .ok []) :
    Accepted c docs hops id v at_ (.object ms) (.converted hops id n)

namespace Context

theorem check_eq_pass {c : Context} {id : NodeId} {n : Node} (hn : c.schema.node? id = some n)
    (halone : n.StandsAlone) {hops : Nat} {v : Json} {at_ : Location}
    (hpass : ∀ k ∈ n.keywords, k.check c (c.judgeBelow hops id) hops n v at_ = .ok []) :
    c.check hops id (some v) at_ = .ok [] := by
  rw [check_of_standsAlone hn halone]
  exact Outcome.ofAll_eq_pass hpass

variable {c : Context} {docs : List Json} (hlabels : c.schema.Labels docs)
include hlabels

/-- The coercion may run in a context of its own. -/
theorem accepted_stage (c' : Context) (hschema : c'.schema = c.schema) (hindex : c'.index = c.index)
    {hops : Nat} {id : NodeId} {here v : Json} {at_ : Location} (hhere : docs[id]? = some here)
    (h : c.check hops id (some v) at_ = .ok []) :
    Accepted c docs hops id v at_ here (c'.stage hops id) := by
  obtain ⟨n, hn, hreads⟩ := hlabels.exists_reads hhere
  have hn' : c'.schema.node? id = some n := by rw [hschema, hn]
  rw [check_eq_turn] at h
  cases hreads with
  | @constant accepts _ kind keywords hooks =>
    have href : n.reference? = none := by simp [Node.reference?, Node.find?, keywords]
    rw [stage_of_node hn' (by simp [kind]), hooks, href]
    rw [turn_of_constant hn kind] at h
    cases accepts with
    | true => exact .constant kind
    | false => cases h
  | @object ms _ kind keywords hooks =>
    obtain ⟨hconstant, hlink, hhole⟩ := ne_of_kindOf kind
    rw [stage_of_node hn' hlink, hooks, hindex]
    rw [turn_of_node hn hconstant hlink hhole hooks] at h
    by_cases hdefs : (!c.ignoreUnsupported && n.declares "$defs") = true
    · rw [if_pos hdefs] at h
      cases h
    · rw [if_neg hdefs] at h
      cases href : n.reference? with
      | none =>
        rw [href] at h
        exact .converted kind hn keywords (Outcome.eq_pass_of_ofAll h)
      | some reference =>
        rw [href] at h
        cases hresolve : c.index.resolve reference with
        | error e =>
          simp only [hresolve] at h
          cases h
        | ok target =>
          simp only [hresolve] at h ⊢
          by_cases hlt : hops < maxHops
          · rw [if_pos hlt] at h ⊢
            exact .handed hresolve h
          · rw [if_neg hlt] at h
            cases h

end Context

/-! ## Types -/

namespace Node

variable {R : NodeId → Json → Prop} {ms : Members} {n : Node}

/-- A node of one type says so. -/
theorem types_of_kind (h : List.Forall₂ (Keyword.Reads R) ms n.keywords)
    (hkind : kindOf ms = .ok n.kind) {t : InstanceType} (ht : n.kind = .ofType t) :
    .leaf (.types [t]) ∈ n.keywords := by
  have hinj : ∀ t', Kind.ofType t' = .ofType t → t' = t := by
    intro t'
    cases t <;> cases t' <;> simp [Kind.ofType]
  have hread : ∀ d, ms.get? "type" = some d → (d = .string t.name ∨ d = .array [.string t.name]) →
      .leaf (.types [t]) ∈ n.keywords := by
    intro d hd hform
    obtain ⟨k, hk, hreads⟩ := exists_of_forall₂ h (Members.mem_of_get?_eq_some ms _ d hd)
    cases hreads with
    | @leaf _ _ path l role read =>
      have hread : (readTypes path d).map .types = .ok l := read
      obtain ⟨ts, hts, rfl⟩ := Except.map_eq_ok_iff.1 hread
      have hsingle : readTypes path d = .ok [t] := by
        rcases hform with rfl | rfl
        · exact readTypes_eq_ok_iff.2 (.inr ⟨t, rfl, rfl⟩)
        · exact readTypes_eq_ok_iff.2 (.inl rfl)
      rw [hsingle] at hts
      cases hts
      exact hk
    | single role | listed role | keyed role | patterns role => cases role
  -- The reader takes the kind from a name, or from a list of one name; otherwise the node has no
  -- single type.
  rw [ht] at hkind
  unfold kindOf at hkind
  split at hkind
  · next name hname =>
    obtain ⟨t', ht', heq⟩ := Except.map_eq_ok_iff.1 hkind
    rw [hinj t' heq, typeNamed_eq_ok_iff] at ht'
    exact hread _ hname (.inl (ht' ▸ rfl))
  · next name hname =>
    obtain ⟨t', ht', heq⟩ := Except.map_eq_ok_iff.1 hkind
    rw [hinj t' heq, typeNamed_eq_ok_iff] at ht'
    exact hread _ hname (.inr (ht' ▸ rfl))
  · cases t <;> cases hkind
  · split at hkind <;> cases t <;> cases hkind

theorem accepts_of_pass {c : Context} {judge : Judge} {hops : Nat} {v : Json} {at_ : Location}
    (h : List.Forall₂ (Keyword.Reads R) ms n.keywords) (hkind : kindOf ms = .ok n.kind)
    (hpass : ∀ k ∈ n.keywords, k.check c judge hops n v at_ = .ok []) {t : InstanceType}
    (ht : n.kind = .ofType t) : t.accepts v = true := by
  have htypes := hpass _ (types_of_kind h hkind ht)
  have hany := Outcome.eq_true_of_require (by simpa [Keyword.check, Leaf.check] using htypes)
  simpa using hany

end Node

end JsonSchema
