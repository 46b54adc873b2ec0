import JsonSchema.Proofs.Evaluation.Turn
import JsonSchema.Proofs.Except

/-! # Stopping at the first failing keyword -/

namespace JsonSchema

/-! ## Outcomes -/

/-- What the full run answers, the short run answers too. -/
def Keeps (short full : Except SchemaError α) : Prop := ∀ a, full = .ok a → short = .ok a

/-- Where the full run answers, the short run answers with the first of its failures. -/
def Stops (short full : Outcome) : Prop :=
  ∀ found, full = .ok found →
    ∃ first, short = .ok first ∧ first <+: found ∧ (first = [] ↔ found = [])

theorem Keeps.refl (o : Except SchemaError α) : Keeps o o := by
  intro a h
  exact h

theorem Stops.refl (o : Outcome) : Stops o o := by
  intro found h
  exact ⟨found, h, List.prefix_refl found, Iff.rfl⟩

theorem Keeps.bind {short full : Except SchemaError α} {f g : α → Except SchemaError β}
    (h : Keeps short full) (hf : ∀ a, Keeps (f a) (g a)) : Keeps (short >>= f) (full >>= g) := by
  intro b hb
  obtain ⟨a, ha, hb⟩ := Except.bind_eq_ok_iff.1 hb
  rw [h a ha]
  exact hf a b hb

theorem Keeps.bind_stops {short full : Except SchemaError α} {f g : α → Outcome}
    (h : Keeps short full) (hf : ∀ a, Stops (f a) (g a)) : Stops (short >>= f) (full >>= g) := by
  intro found hfound
  obtain ⟨a, ha, hfound⟩ := Except.bind_eq_ok_iff.1 hfound
  rw [h a ha]
  exact hf a found hfound

namespace Outcome

theorem stops_ofFirst {f g : α → Outcome} (h : ∀ a, Stops (f a) (g a)) (as : List α) :
    Stops (ofFirst f as) (ofFirst g as) := by
  induction as with
  | nil => exact Stops.refl _
  | cons a as ih =>
    intro found hfound
    unfold ofFirst at hfound ⊢
    obtain ⟨all, hg, hfound⟩ := Except.bind_eq_ok_iff.1 hfound
    obtain ⟨first, hf, hprefix, hempty⟩ := h a all hg
    rw [hf]
    by_cases hall : all = []
    · have hfirst := hempty.2 hall
      subst hall hfirst
      exact ih found hfound
    · have hfirst : first ≠ [] := fun h => hall (hempty.1 h)
      simp only [Except.ok_bind, List.isEmpty_iff, hall, hfirst, if_false] at hfound ⊢
      cases hfound
      exact ⟨first, rfl, hprefix, hempty⟩

theorem stops_ofAll {f g : α → Outcome} (h : ∀ a, Stops (f a) (g a)) (as : List α) :
    Stops (ofAll true f as) (ofAll false g as) := by
  induction as with
  | nil => exact Stops.refl _
  | cons a as ih =>
    intro found hfound
    unfold ofAll at hfound ⊢
    obtain ⟨all, hg, hfound⟩ := Except.bind_eq_ok_iff.1 hfound
    obtain ⟨rest, hrest, hfound⟩ := Except.bind_eq_ok_iff.1 hfound
    cases hfound
    obtain ⟨first, hf, hprefix, hempty⟩ := h a all hg
    obtain ⟨later, hlater, hlaterPrefix, hlaterEmpty⟩ := ih rest hrest
    rw [hf]
    by_cases hall : all = []
    · have hfirst := hempty.2 hall
      subst hall hfirst
      refine ⟨later, ?_, hlaterPrefix, hlaterEmpty⟩
      rw [Except.ok_bind, hlater]
      rfl
    · have hfirst : first ≠ [] := fun h => hall (hempty.1 h)
      refine ⟨first, ?_, hprefix.trans (List.prefix_append all rest), ?_⟩
      · simp [hfirst]
      · simp [hfirst, hall]

end Outcome

/-! ## Keywords -/

namespace Keyword

variable {short full : Judge} (h : ∀ id v at_, Stops (short id v at_) (full id v at_))
include h

theorem keeps_accepts (v : Json) (at_ : Location) (id : NodeId) :
    Keeps (accepts short v at_ id) (accepts full v at_ id) := by
  intro accepted haccepted
  obtain ⟨found, hfull, haccepted⟩ := Except.map_eq_ok_iff.1 haccepted
  obtain ⟨first, hshort, _, hempty⟩ := h id v at_ found hfull
  rw [accepts, hshort, ← haccepted]
  simp only [Except.map, Except.ok.injEq]
  rw [Bool.eq_iff_iff, List.isEmpty_iff, List.isEmpty_iff]
  exact hempty

omit h in
theorem keeps_countAccepted {f g : α → Except SchemaError Bool} (h : ∀ a, Keeps (f a) (g a))
    (as : List α) : Keeps (countAccepted f as) (countAccepted g as) := by
  induction as with
  | nil => exact Keeps.refl _
  | cons a as ih => exact (h a).bind fun accepted => ih.bind fun n => Keeps.refl _

omit h in
theorem keeps_anyAccepted {f g : α → Except SchemaError Bool} (h : ∀ a, Keeps (f a) (g a))
    (as : List α) : Keeps (anyAccepted f as) (anyAccepted g as) := by
  induction as with
  | nil => exact Keeps.refl _
  | cons a as ih =>
    refine (h a).bind fun accepted => ?_
    cases accepted with
    | true => exact Keeps.refl _
    | false => exact ih

theorem stops_checkAllOf (ids : List NodeId) (v : Json) (at_ : Location) :
    Stops (checkAllOf short ids v at_) (checkAllOf full ids v at_) :=
  (keeps_countAccepted (keeps_accepts h v at_) ids).bind_stops fun _ => Stops.refl _

theorem stops_checkAnyOf (ids : List NodeId) (v : Json) (at_ : Location) :
    Stops (checkAnyOf short ids v at_) (checkAnyOf full ids v at_) :=
  (keeps_anyAccepted (keeps_accepts h v at_) ids).bind_stops fun _ => Stops.refl _

theorem stops_checkOneOf (ids : List NodeId) (v : Json) (at_ : Location) :
    Stops (checkOneOf short ids v at_) (checkOneOf full ids v at_) :=
  (keeps_countAccepted (keeps_accepts h v at_) ids).bind_stops fun _ => Stops.refl _

theorem stops_checkNegated (id : NodeId) (v : Json) (at_ : Location) :
    Stops (checkNegated short id v at_) (checkNegated full id v at_) :=
  (keeps_accepts h v _ id).bind_stops fun _ => Stops.refl _

theorem stops_checkCondition (n : Node) (id : NodeId) (v : Json) (at_ : Location) :
    Stops (checkCondition short n id v at_) (checkCondition full n id v at_) := by
  unfold checkCondition
  split
  · exact Stops.refl _
  · refine (keeps_accepts h v at_ id).bind_stops fun accepted => ?_
    dsimp only
    split
    · exact h _ _ _
    · exact Stops.refl _

theorem stops_checkProperties (entries : List (String × NodeId)) (ms : Members) (at_ : Location) :
    Stops (checkProperties short entries ms at_) (checkProperties full entries ms at_) := by
  refine Outcome.stops_ofFirst (fun m => ?_) ms
  split
  · exact h _ _ _
  · exact Stops.refl _

theorem stops_checkPatterns (entries : List (Pattern × NodeId)) (ms : Members) (at_ : Location) :
    Stops (checkPatterns short entries ms at_) (checkPatterns full entries ms at_) :=
  Outcome.stops_ofFirst (fun _ => Outcome.stops_ofFirst (fun _ => h _ _ _) _) ms

theorem stops_checkExtra (c c' : Context) (hc : c.schema = c'.schema) (hops : Nat) (n : Node)
    (id : NodeId) (ms : Members) (at_ : Location) :
    Stops (checkExtra c short hops n id ms at_) (checkExtra c' full hops n id ms at_) := by
  unfold checkExtra
  rw [hc]
  dsimp only
  split
  · exact Stops.refl _
  · refine (Keeps.refl _).bind_stops fun place => ?_
    split
    · exact Stops.refl _
    · exact Outcome.stops_ofFirst (fun _ => h _ _ _) _

theorem stops_checkContains (n : Node) (id : NodeId) (items : List Json) (at_ : Location) :
    Stops (checkContains short n id items at_) (checkContains full n id items at_) :=
  (keeps_countAccepted (fun item => keeps_accepts h item _ id) items).bind_stops fun _ =>
    Stops.refl _

theorem stops_check (c c' : Context) (hc : c.schema = c'.schema) (hf : c.formats = c'.formats)
    (hops : Nat) (n : Node) (k : Keyword) (v : Json) (at_ : Location) :
    Stops (k.check c short hops n v at_) (k.check c' full hops n v at_) := by
  unfold check
  split
  · rw [hf]; exact Stops.refl _
  · exact stops_checkAllOf h _ v at_
  · exact stops_checkAnyOf h _ v at_
  · exact stops_checkOneOf h _ v at_
  · exact stops_checkNegated h _ v at_
  · exact stops_checkCondition h n _ v at_
  · exact stops_checkProperties h _ _ at_
  · exact stops_checkExtra h c c' hc hops n _ _ at_
  · exact stops_checkPatterns h _ _ at_
  · exact Outcome.stops_ofFirst (fun _ => h _ _ _) _
  · exact Outcome.stops_ofFirst (fun _ => h _ _ _) _
  · exact Outcome.stops_ofFirst (fun _ => h _ _ _) _
  · exact Outcome.stops_ofFirst (fun _ => h _ _ _) _
  · exact stops_checkContains h n _ _ at_
  · exact Stops.refl _

end Keyword

/-! ## Nodes -/

namespace Context

def stopping (c : Context) (stop : Bool) : Context := { c with shortCircuit := stop }

theorem turn_stopping (c : Context) (stop : Bool) (hops : Nat) (id : NodeId) (value : Option Json)
    (at_ : Location) : (c.stopping stop).turn hops id value at_ = c.turn hops id value at_ := rfl

theorem stops_check (c : Context) (hops : Nat) (id : NodeId) (value : Option Json)
    (at_ : Location) :
    Stops ((c.stopping true).check hops id value at_) ((c.stopping false).check hops id value at_) := by
  induction hops, id, value, at_ using check_induction (c := c) with
  | settled hops id value at_ outcome h =>
    rw [check_eq_turn, check_eq_turn, turn_stopping, turn_stopping, h]
    exact Stops.refl outcome
  | handed hops id value at_ reached target v h ih =>
    rw [check_eq_turn, check_eq_turn, turn_stopping, turn_stopping, h]
    exact ih
  | asked hops id value at_ reached place node v h ih =>
    have hjudge : ∀ child w at_, Stops ((c.stopping true).judgeBelow reached place child w at_)
        ((c.stopping false).judgeBelow reached place child w at_) := by
      intro child w at_
      by_cases hbelow : c.schema.Below place child
      · rw [judgeBelow_of_below (c := c.stopping true) hbelow,
          judgeBelow_of_below (c := c.stopping false) hbelow]
        exact ih child w at_ hbelow
      · rw [judgeBelow_of_not_below (c := c.stopping true) hbelow,
          judgeBelow_of_not_below (c := c.stopping false) hbelow]
        exact Stops.refl _
    rw [check_eq_turn, check_eq_turn, turn_stopping, turn_stopping, h]
    exact Outcome.stops_ofAll (fun k => Keyword.stops_check hjudge _ _ rfl rfl reached node k v at_) _

end Context

/-! ## Verdicts -/

namespace Schema

variable (s : Schema) (shared : FormatRegistry) (id : NodeId)

/-- The value is coerced in the same way in both runs. -/
theorem shortCircuit_prefix (value : Option Json) (options : ValidateOptions) (full : Verdict)
    (h : s.validateAt shared id value { options with shortCircuit := false } = .ok full) :
    ∃ short, s.validateAt shared id value { options with shortCircuit := true } = .ok short ∧
      short.valid = full.valid ∧ short.failures <+: full.failures ∧
        (short.failures ≠ [] ↔ full.failures ≠ []) := by
  rw [validateAt_eq_judged] at h ⊢
  obtain ⟨v, hv, h⟩ := Except.bind_eq_ok_iff.1 h
  obtain ⟨found, hfull, rfl⟩ := Except.map_eq_ok_iff.1 h
  let c := s.context shared options
  obtain ⟨first, hshort, hprefix, hempty⟩ := c.stops_check 0 id v _ found hfull
  refine ⟨.ofFailures first, ?_, ?_, hprefix, not_congr hempty⟩
  · refine Except.bind_eq_ok_iff.2 ⟨v, hv, ?_⟩
    exact Except.map_eq_ok_iff.2 ⟨first, hshort, rfl⟩
  · rw [Verdict.ofFailures, Verdict.ofFailures, Bool.eq_iff_iff, List.isEmpty_iff, List.isEmpty_iff]
    exact hempty

/-- The full run finds two failures here. -/
theorem shortCircuit_prefix_two :
    let s : Schema :=
      .ofNode { kind := .string, keywords := [.leaf (.types [.string]), .leaf (.const .null)] }
    ∃ full short,
      s.validateAt .empty root (some (.bool true)) { shortCircuit := false } = .ok full ∧
      s.validateAt .empty root (some (.bool true)) { shortCircuit := true } = .ok short ∧
      short.valid = full.valid ∧ short.failures <+: full.failures ∧
      (short.failures ≠ [] ↔ full.failures ≠ []) := by
  intro s
  have hfull : s.validateAt .empty root (some (.bool true)) { shortCircuit := false } =
      .ok (.ofFailures [⟨[.key "type"], [], .notOfType [.string], some (.bool true)⟩,
        ⟨[.key "const"], [], .notConst .null, some (.bool true)⟩]) := by
    rw [validateAt_eq_judged, judged, if_neg (by decide), Except.ok_bind, Context.check_eq_turn,
      Context.turn, follow]
    rfl
  obtain ⟨short, h⟩ := s.shortCircuit_prefix .empty root _ {} _ hfull
  exact ⟨_, short, hfull, h⟩

end Schema

end JsonSchema
