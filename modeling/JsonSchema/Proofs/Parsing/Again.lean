import JsonSchema.Proofs.Coercion.Loaded
import JsonSchema.Proofs.Parsing.Holding
import JsonSchema.Proofs.Parsing.Offers
import JsonSchema.Proofs.Parsing.Restoring
import JsonSchema.Proofs.Reordering.Equality

/-!
# Parsing a second time

A parsed value is parsed again as the same value, up to the order of members, unless the coercion leaves out
members of something that filling in has offered, or a run meets an error that it did not come to before.
-/

namespace JsonSchema

open Loader

/-! ## Judging again -/

namespace Schema

theorem Labels.hooks_eq {s : Schema} {docs : List Json} (hlabels : s.Labels docs) {id : NodeId} {n : Node}
    (hn : s.node? id = some n) : n.hooks = {} := by
  obtain ⟨m, _, hm, _, hreads⟩ := hlabels.reads id (lt_size_of_node? hn)
  rw [hn] at hm
  cases hm
  exact hreads.hooks_eq

theorem admitted_of_reorders {s : Schema} (hhooks : ∀ id n, s.node? id = some n → n.hooks.validate = none)
    {shared : FormatRegistry} {v w : Json} (hv : s.admitted shared v = .ok v)
    (h : v.Reordering Number.sameValue w) :
    s.admitted shared w = .ok w ∨
      ∃ e, s.validate shared w { shortCircuit := true, ignoreUnsupported := true } = .error e ∧
        s.admitted shared w = .error (.schema e) := by
  obtain ⟨-, r, hr, hvalid⟩ := admitted_eq_ok_iff.1 hv
  cases hr' : s.validate shared w { shortCircuit := true, ignoreUnsupported := true } with
  | error e =>
    refine .inr ⟨e, rfl, ?_⟩
    rw [admitted, hr']
    rfl
  | ok r' =>
    have hsame := valid_eq_of_reordered rfl (Context.reordered_self hhooks) Json.resemblance_reordering rfl h
      hr hr'
    exact .inl (admitted_eq_ok_iff.2 ⟨rfl, r', hr', hsame ▸ hvalid⟩)

theorem check_of_admitted {s : Schema} {shared : FormatRegistry} {v w : Json}
    (h : s.admitted shared v = .ok w) :
    (s.context shared { shortCircuit := true, ignoreUnsupported := true }).check 0 root (some v)
      ⟨[], []⟩ = .ok [] := by
  obtain ⟨-, r, hr, hvalid⟩ := admitted_eq_ok_iff.1 h
  rw [validate, validateAt_eq_judged] at hr
  obtain ⟨found, hfound, rfl⟩ := Except.map_eq_ok_iff.1 hr
  rwa [List.isEmpty_iff.1 hvalid] at hfound

/-! ## Preparing again -/

theorem completed_completed {s : Schema} (hid : ∀ id ∈ some root, s.Fillable id) (options : ParseOptions)
    (v : Json) : s.completed options (s.completed options v) = s.completed options v := by
  cases hdefaults : options.withDefaults with
  | false => rw [completed_of_not_filled hdefaults, completed_of_not_filled hdefaults]
  | true =>
    have hfilled := complete_root (s := s) hdefaults v
    have hagain := complete_root (s := s) hdefaults (s.completed options v)
    rw [complete_complete rfl hid hfilled] at hagain
    exact (Option.some.inj hagain).symm

section Loaded

variable {d : Json} {s : Schema} {docs : List Json} (hd : d.keysDistinct = true)
  (hlabels : s.Labels docs) (hroot : docs[root]? = some d) {shared : FormatRegistry}
include hd hlabels hroot

theorem keysDistinct_completed {options : ParseOptions} (hdefaults : options.withDefaults = true) {v : Json}
    (hv : v.keysDistinct = true) : (s.completed options v).keysDistinct = true :=
  keysDistinct_complete rfl (fillable_root hd hlabels hroot) (by rintro _ ⟨⟩; exact hv)
    (complete_root hdefaults v)

theorem coerced_of_coerce {options : CoerceOptions} {v c : Json} (hv : v.keysDistinct = true)
    (hc : s.coerce shared v options = .ok c) :
    s.coerce shared c options = .ok c ∧ c.keysDistinct = true := by
  have hstands : StandsAt docs root := ⟨d, hroot, hd⟩
  have hsettled := Context.settles_loaded hlabels hd hroot rfl options 0 hstands v c hv hc
  exact ⟨hsettled.resolve_right fun h => h.1,
    Context.keepsDistinct_coerce hlabels hd hroot rfl options 0 hstands v c hv hc⟩

/-- What was filled in after a coercion, and is accepted, is restored after another one, unless this one leaves
out something that was offered. -/
theorem supplied_completed {options : ParseOptions} (hcoerce : options.coerce = true)
    (hdefaults : options.withDefaults = true) {c : Json} (hc : c.keysDistinct = true)
    (hcoerced : s.coerce shared c options.forCoercion = .ok c)
    (hadmitted : s.admitted shared (s.completed options c) = .ok (s.completed options c)) :
    (∃ e, s.supplied shared (s.completed options c) options = .error e ∧
      (s.lenientContext shared).ProbeFails e) ∨
    ∃ w, s.supplied shared (s.completed options c) options = .ok w ∧ w.keysDistinct = true ∧
      ((s.completed options c).Reorders (s.completed options w) ∨
        (s.lenientContext shared).Offends options.forCoercion options.forTemplate 0 root (some root) (some c) ∧
          (s.lenientContext shared).Sheds options.forCoercion 0 root (s.completed options c) w ∧
          (s.lenientContext shared).Loses options.forCoercion 0 root (s.completed options c)) := by
  have hid := fillable_root hd hlabels hroot
  have hstands : StandsAt docs root := ⟨d, hroot, hd⟩
  have hfilled := complete_root (s := s) hdefaults c
  have hdistinct := keysDistinct_completed hd hlabels hroot hdefaults hc
  rw [supplied_of_coerce hcoerce]
  -- What was filled in meets the coercion here for the first time. It is accepted, so at most members of it
  -- are left out.
  refine (Context.curtailed_of_accepted hlabels hd hroot rfl rfl rfl options.forCoercion 0 root d hroot hd _ _
    hdistinct (check_of_admitted hadmitted)).imp_right ?_
  rintro ⟨w, hw, hsheds⟩
  have hwdistinct : w.keysDistinct = true :=
    Context.keepsDistinct_coerce hlabels hd hroot rfl options.forCoercion 0 hstands _ w hdistinct hw
  have hrestored : ∀ given, s.complete options.forTemplate false (some root) (some given) =
        some (s.completed options c) →
      ¬(s.lenientContext shared).Loses options.forCoercion 0 root given →
      ¬(s.lenientContext shared).Offends options.forCoercion options.forTemplate 0 root (some root) (some given) →
      (s.completed options c).Reorders (s.completed options w) := by
    intro given hgiven hkept hoffends
    obtain ⟨again, hagain, hreorders⟩ := Context.restored rfl hsheds hid hdistinct hgiven
      (by rintro _ ⟨⟩; exact hkept) hoffends
    rw [complete_root hdefaults] at hagain
    cases hagain
    exact hreorders
  refine ⟨w, hw, hwdistinct, ?_⟩
  by_cases hloses : (s.lenientContext shared).Loses options.forCoercion 0 root (s.completed options c)
  · by_cases hoffends : (s.lenientContext shared).Offends options.forCoercion options.forTemplate 0 root
      (some root) (some c)
    · exact .inr ⟨hoffends, hsheds, hloses⟩
    · exact .inl (hrestored c hfilled
        (Context.not_loses_of_coerce_eq hlabels hd hroot rfl options.forCoercion hstands hc hcoerced) hoffends)
  · have hagain := complete_complete rfl hid hfilled
    exact .inl (hrestored _ hagain hloses (Context.not_offends_of_complete rfl hid hagain))

theorem admitted_again {options : ParseOptions} (hdefaults : options.withDefaults = true) {c w : Json}
    (hc : c.keysDistinct = true) (hw : w.keysDistinct = true)
    (hadmitted : s.admitted shared (s.completed options c) = .ok (s.completed options c))
    (hreorders : (s.completed options c).Reorders (s.completed options w)) :
    s.admitted shared (s.completed options w) = .ok (s.completed options w) ∨
      ∃ e, s.validate shared (s.completed options w) { shortCircuit := true, ignoreUnsupported := true } =
          .error e ∧
        s.admitted shared (s.completed options w) = .error (.schema e) := by
  have hhooks : ∀ id n, s.node? id = some n → n.hooks.validate = none := by
    intro id n hn
    rw [hlabels.hooks_eq hn]
  have hreordering : (s.completed options c).Reordering Number.sameValue (s.completed options w) :=
    hreorders.reordering (fun n => Number.sameValue_iff.2 (.inl rfl))
      (keysDistinct_completed hd hlabels hroot hdefaults hc)
      (keysDistinct_completed hd hlabels hroot hdefaults hw)
  exact admitted_of_reorders hhooks hadmitted hreordering

end Loaded

/-! ## The theorem -/

/-- A parsed value is parsed again as the same value, up to the order of members. Where a value is both
coerced and filled in, the second run may differ: it may fail, with an error that a question about null
raises or the judgement of the reordered value, or the coercion leaves out members of the value, as it leaves
out members of something that filling in has offered. -/
theorem parse_again (d : Json) (s : Schema) (hd : d.keysDistinct = true) (h : ofJson d = .ok s)
    (shared : FormatRegistry) (v : Json) (hv : v.keysDistinct = true) (options : ParseOptions) (w : Json)
    (hw : s.parse shared v options = .ok w) :
    s.parse shared w options = .ok w ∨
      options.coerce = true ∧ options.withDefaults = true ∧
        ((∃ w', s.parse shared w options = .ok w' ∧ w.Reorders w') ∨
          (∃ e, s.parse shared w options = .error (.schema e) ∧
            (s.coerce shared w options.forCoercion = .error e ∧ (s.lenientContext shared).ProbeFails e ∨
              ∃ w', w.Reorders w' ∧
                s.validate shared w' { shortCircuit := true, ignoreUnsupported := true } = .error e)) ∨
          ∃ c left, s.coerce shared v options.forCoercion = .ok c ∧
            (s.lenientContext shared).Offends options.forCoercion options.forTemplate 0 root (some root)
              (some c) ∧
            s.coerce shared w options.forCoercion = .ok left ∧
            (s.lenientContext shared).Sheds options.forCoercion 0 root w left ∧
            (s.lenientContext shared).Loses options.forCoercion 0 root w) := by
  obtain ⟨docs, hlabels, hroot⟩ := loads_of_load d [] s hd h
  obtain ⟨c, hc, rfl, hadmitted⟩ := parse_eq_ok hd h hw
  cases hcoerce : options.coerce with
  | false =>
    refine .inl ?_
    rw [parse_of_supplied hd h (supplied_of_not_coerce hcoerce shared _),
      completed_completed (fillable_root hd hlabels hroot)]
    exact hadmitted
  | true =>
    rw [supplied_of_coerce hcoerce] at hc
    obtain ⟨hcoerced, hcdistinct⟩ := coerced_of_coerce hd hlabels hroot hv hc
    cases hdefaults : options.withDefaults with
    | false =>
      refine .inl ?_
      rw [completed_of_not_filled hdefaults] at hadmitted ⊢
      rw [parse_of_supplied hd h ((supplied_of_coerce hcoerce shared c).trans hcoerced),
        completed_of_not_filled hdefaults]
      exact hadmitted
    | true =>
      refine .inr ⟨rfl, rfl, ?_⟩
      rcases supplied_completed hd hlabels hroot hcoerce hdefaults hcdistinct hcoerced hadmitted
        with ⟨e, he, hprobe⟩ | ⟨left, hleft, hleftdistinct, hreorders | ⟨hoffends, hsheds, hloses⟩⟩
      · have hparse := parse_of_supplied_error hd h he
        rw [supplied_of_coerce hcoerce] at he
        exact .inr (.inl ⟨e, hparse, .inl ⟨he, hprobe⟩⟩)
      · rw [parse_of_supplied hd h hleft]
        rcases admitted_again hd hlabels hroot hdefaults hcdistinct hleftdistinct hadmitted hreorders
          with hok | ⟨e, hfails, herror⟩
        · exact .inl ⟨_, hok, hreorders⟩
        · exact .inr (.inl ⟨e, herror, .inr ⟨_, hreorders, hfails⟩⟩)
      · rw [supplied_of_coerce hcoerce] at hleft
        exact .inr (.inr ⟨c, left, hc, hoffends, hleft, hsheds, hloses⟩)

/-! ### An offered member that is dropped -/

def offeringDocument : Json :=
  holderDocument "o" (.object [("type", .string "object"), ("default", .object [("x", .bool true)])])

def offeredNode : Node where
  kind := .object
  keywords := [.leaf (.types [.object]), .leaf (.default (.object [("x", .bool true)]))]
  optional := true

theorem standsAlone_offeredNode : offeredNode.StandsAlone := ⟨nofun, nofun, nofun, rfl, rfl, rfl⟩

def offeringSchema : Schema := ⟨#[holderNode "o", offeredNode]⟩

theorem ofJson_offeringDocument : ofJson offeringDocument = .ok offeringSchema := by
  with_unfolding_all rfl

theorem holder_offeringSchema : Holder offeringSchema "o" := ⟨rfl, by decide⟩

/-- Unknown members are dropped. -/
def dropping : ParseOptions := { coerceDropUnknown := true }

theorem coerceAt_offeredNode (options : CoerceOptions) :
    offeringSchema.coerceAt .empty 1 (.object [("x", .bool true)]) options =
      .ok (.object (if options.dropUnknown then [] else [("x", .bool true)])) := by
  rw [coerceAt, Context.coerce_object (n := offeredNode) rfl rfl rfl rfl]
  obtain ⟨_ | _⟩ := options
  · rfl
  · rfl

theorem templateFrom_offeredNode (options : ParseOptions) {given : Option Json} {base : Members}
    (hchosen : offeredNode.chosen? options.forTemplate given = some (.object base)) :
    offeringSchema.templateFrom options.forTemplate true 1 given =
      Template.fillObject.finish options.forTemplate true base := by
  rw [templateFrom_object (n := offeredNode) rfl rfl (.inl rfl) rfl (List.forall_mem_nil _), hchosen]
  rfl

theorem check_offeredNode (ms : Members) :
    (judging offeringSchema).check 0 1 (some (.object ms)) (inside "o") = .ok [] := by
  rw [Context.check_of_standsAlone (n := offeredNode) rfl standsAlone_offeredNode]
  rfl

theorem parse_offeringSchema_nil {options : ParseOptions} (hcoerce : options.coerce = true)
    (hdefaults : options.withDefaults = true) :
    offeringSchema.parse .empty (.object []) options = .ok (held "o" (.object [("x", .bool true)])) := by
  refine holder_offeringSchema.parse_nil (by decide) ofJson_offeringDocument hcoerce hdefaults ?_
    (check_offeredNode _)
  rw [templateFrom_offeredNode options rfl]
  rfl

theorem parse_offeringSchema_again {options : ParseOptions} (hcoerce : options.coerce = true)
    (hdefaults : options.withDefaults = true) :
    offeringSchema.parse .empty (held "o" (.object [("x", .bool true)])) options =
      .ok (held "o" (.object (if options.coerceDropUnknown then [] else [("x", .bool true)]))) := by
  have hkept : ∀ base, offeringSchema.complete options.forTemplate true (some 1) (some (.object base)) =
      some (.object base) := by
    intro base
    rw [complete_at, templateFrom_offeredNode options rfl]
    unfold Template.fillObject.finish
    split <;> rfl
  rw [holder_offeringSchema.parse_held (by decide) ofJson_offeringDocument hcoerce hdefaults
    (coerceAt_offeredNode _) (hkept _)]
  exact holder_offeringSchema.admitted_held (check_offeredNode _)

/-- The member that is offered stays if unknown members do. -/
theorem parse_again_offered :
    let w : Json := .object [("o", .object [("x", .bool true)])]
    let options : ParseOptions := {}
    offeringDocument.keysDistinct = true ∧ ofJson offeringDocument = .ok offeringSchema ∧
      (Json.object []).keysDistinct = true ∧ offeringSchema.parse .empty (.object []) options = .ok w ∧
      offeringSchema.parse .empty w options = .ok w ∧
      (offeringSchema.parse .empty w options = .ok w ∨
        options.coerce = true ∧ options.withDefaults = true ∧
          ((∃ w', offeringSchema.parse .empty w options = .ok w' ∧ w.Reorders w') ∨
            (∃ e, offeringSchema.parse .empty w options = .error (.schema e) ∧
              (offeringSchema.coerce .empty w options.forCoercion = .error e ∧
                  (offeringSchema.lenientContext .empty).ProbeFails e ∨
                ∃ w', w.Reorders w' ∧ offeringSchema.validate .empty w'
                  { shortCircuit := true, ignoreUnsupported := true } = .error e)) ∨
            ∃ c left, offeringSchema.coerce .empty (.object []) options.forCoercion = .ok c ∧
              (offeringSchema.lenientContext .empty).Offends options.forCoercion options.forTemplate 0 root
                (some root) (some c) ∧
              offeringSchema.coerce .empty w options.forCoercion = .ok left ∧
              (offeringSchema.lenientContext .empty).Sheds options.forCoercion 0 root w left ∧
              (offeringSchema.lenientContext .empty).Loses options.forCoercion 0 root w)) := by
  intro w options
  have hd : offeringDocument.keysDistinct = true := by decide
  have hv : (Json.object []).keysDistinct = true := rfl
  have hw : offeringSchema.parse .empty (.object []) options = .ok w := parse_offeringSchema_nil rfl rfl
  exact ⟨hd, ofJson_offeringDocument, hv, hw, parse_offeringSchema_again rfl rfl,
    parse_again _ _ hd ofJson_offeringDocument .empty _ hv options w hw⟩

/-! ### A reference that leads nowhere -/

def danglingNode (optional : Bool) : Node where
  kind := .any
  keywords := [.leaf (.ref "#/nowhere")]
  optional := optional

theorem check_danglingNode {c : Context} {id : NodeId} (optional : Bool)
    (hn : c.schema.node? id = some (danglingNode optional)) {e : SchemaError}
    (he : c.index.resolve "#/nowhere" = .error e) (hops : Nat) (v : Json) (at_ : Location) :
    c.check hops id (some v) at_ = .error e := by
  have hdefs : (danglingNode optional).declares "$defs" = false := rfl
  have href : (danglingNode optional).reference? = some "#/nowhere" := rfl
  rw [Context.check_eq_turn, Context.turn_of_node hn (by simp [danglingNode]) (by simp [danglingNode])
    (by simp [danglingNode]) rfl, hdefs, Bool.and_false, href]
  dsimp only
  rw [he]
  rfl

def probedDocument : Json :=
  holderDocument "o" (.object [("type", .string "object"),
    ("additionalProperties", .object [("$ref", .string "#/nowhere")])])

def probedNode : Node where
  kind := .object
  keywords := [.leaf (.types [.object]), .single .additionalProperties 2]
  optional := true

theorem standsAlone_probedNode : probedNode.StandsAlone := ⟨nofun, nofun, nofun, rfl, rfl, rfl⟩

def probedSchema : Schema := ⟨#[holderNode "o", probedNode, danglingNode false]⟩

theorem ofJson_probedDocument : ofJson probedDocument = .ok probedSchema := by
  with_unfolding_all rfl

theorem holder_probedSchema : Holder probedSchema "o" := ⟨rfl, by decide⟩

/-- Even empty objects are offered. -/
def extending : ParseOptions := { withExtendedDefaults := true }

theorem resolve_probedSchema :
    (Index.ofSchema probedSchema).resolve "#/nowhere" = .error (.unresolvedRef "#/nowhere") := by
  with_unfolding_all rfl

theorem coerceAt_probedNode :
    probedSchema.coerceAt .empty 1 (.object []) extending.forCoercion =
      .error (.unresolvedRef "#/nowhere") := by
  have hadmits : Coercion.admitsExtra (probedSchema.lenientContext .empty) 0 (some 2) =
      .error (.unresolvedRef "#/nowhere") := by
    rw [Coercion.admitsExtra, check_danglingNode false rfl resolve_probedSchema]
    rfl
  rw [coerceAt, Context.coerce_object (n := probedNode) rfl rfl rfl rfl]
  change (_ >>= fun _ => Coercion.admitsExtra (probedSchema.lenientContext .empty) 0 (some 2) >>= _).map _ =
    _
  rw [hadmits]
  rfl

theorem parse_probedSchema_nil :
    probedSchema.parse .empty (.object []) extending = .ok (held "o" (.object [])) := by
  refine holder_probedSchema.parse_nil (by decide) ofJson_probedDocument rfl rfl ?_ ?_
  · rw [templateFrom_object (n := probedNode) rfl rfl (.inl rfl) rfl (List.forall_mem_nil _)]
    rfl
  · rw [Context.check_of_standsAlone (n := probedNode) rfl standsAlone_probedNode]
    rfl

theorem parse_probedSchema_again :
    probedSchema.parse .empty (held "o" (.object [])) extending =
      .error (.schema (.unresolvedRef "#/nowhere")) :=
  holder_probedSchema.parse_held_error (by decide) ofJson_probedDocument rfl coerceAt_probedNode

/-! ### An order in which a judgement fails -/

def freeNode : Node where
  kind := .any
  optional := true

theorem standsAlone_freeNode : freeNode.StandsAlone := ⟨nofun, nofun, nofun, rfl, rfl, rfl⟩

def textNode : Node where
  kind := .string
  keywords := [.leaf (.types [.string])]
  optional := true

theorem standsAlone_textNode : textNode.StandsAlone := ⟨nofun, nofun, nofun, rfl, rfl, rfl⟩

/-- The negated part asks for a text under `b` before it comes to the reference. -/
def orderedDocument : Json :=
  holderDocument "o" (.object [("type", .string "object"),
    ("properties", .object [("a", .object []), ("b", .object [])]),
    ("default", .object [("b", .null), ("a", .null)]),
    ("not", .object [("properties", .object [("b", .object [("type", .string "string")]),
      ("a", .object [("$ref", .string "#/nowhere")])])])])

def orderedNode : Node where
  kind := .object
  keywords := [.leaf (.types [.object]), .keyed .properties [("a", 2), ("b", 3)],
    .leaf (.default (.object [("b", .null), ("a", .null)])), .single .negated 4]
  optional := true

theorem standsAlone_orderedNode : orderedNode.StandsAlone := ⟨nofun, nofun, nofun, rfl, rfl, rfl⟩

def refusedNode : Node where
  kind := .any
  keywords := [.keyed .properties [("b", 5), ("a", 6)]]

theorem standsAlone_refusedNode : refusedNode.StandsAlone := ⟨nofun, nofun, nofun, rfl, rfl, rfl⟩

def orderedSchema : Schema :=
  ⟨#[holderNode "o", orderedNode, freeNode, freeNode, refusedNode, textNode, danglingNode true]⟩

theorem ofJson_orderedDocument : ofJson orderedDocument = .ok orderedSchema := by
  with_unfolding_all rfl

theorem holder_orderedSchema : Holder orderedSchema "o" := ⟨rfl, by decide⟩

theorem resolve_orderedSchema :
    (Index.ofSchema orderedSchema).resolve "#/nowhere" = .error (.unresolvedRef "#/nowhere") := by
  with_unfolding_all rfl

section Free

variable {id : NodeId} (hn : orderedSchema.node? id = some freeNode)
include hn

theorem coerce_freeNode (options : CoerceOptions) (v : Json) :
    (orderedSchema.lenientContext .empty).coerce options 0 id v = .ok v := by
  have hstage := Context.stage_of_node (c := orderedSchema.lenientContext .empty) hn nofun 0
  rw [Context.coerce_eq_stage, hstage]
  rfl

theorem templateFrom_freeNode (given : Option Json) :
    orderedSchema.templateFrom dropping.forTemplate true id given = given := by
  rw [templateFrom_other hn rfl (.inl rfl) (by simp [freeNode]) (by simp [freeNode]) (by simp [freeNode])
    (fun _ _ => rfl)]
  cases given <;> rfl

theorem check_freeNode (v : Json) (at_ : Location) :
    (judging orderedSchema).check 0 id (some v) at_ = .ok [] :=
  Context.check_eq_pass hn standsAlone_freeNode (List.forall_mem_nil _)

end Free

theorem coerceAt_orderedNode :
    orderedSchema.coerceAt .empty 1 (.object [("b", .null), ("a", .null)]) dropping.forCoercion =
      .ok (.object [("a", .null), ("b", .null)]) := by
  let c := orderedSchema.lenientContext .empty
  rw [coerceAt, Context.coerce_object (n := orderedNode) rfl rfl rfl rfl]
  change ((c.convertBelow dropping.forCoercion 0 1 2 .null >>= _) >>= _).map _ = _
  rw [Context.convertBelow_of_below (by decide), coerce_freeNode rfl]
  change ((c.convertBelow dropping.forCoercion 0 1 3 .null >>= _) >>= _).map _ = _
  rw [Context.convertBelow_of_below (by decide), coerce_freeNode rfl]
  rfl

theorem templateFrom_orderedNode {given : Option Json} {base : Members}
    (hchosen : orderedNode.chosen? dropping.forTemplate given = some (.object base)) :
    orderedSchema.templateFrom dropping.forTemplate true 1 given =
      let put := Template.put (fun _ given => given) base
      Template.fillObject.finish dropping.forTemplate true (put (put base ("a", 2)) ("b", 3)) := by
  have hfirst : ∀ given, orderedSchema.templateFrom dropping.forTemplate true 2 given = given :=
    templateFrom_freeNode rfl
  have hsecond : ∀ given, orderedSchema.templateFrom dropping.forTemplate true 3 given = given :=
    templateFrom_freeNode rfl
  have hmembers : orderedSchema.completeMembers dropping.forTemplate (some 1) base =
      let put := Template.put (orderedSchema.templateFrom dropping.forTemplate true) base
      put (put base ("a", 2)) ("b", 3) := rfl
  rw [templateFrom_object (n := orderedNode) rfl rfl (.inl rfl) rfl (by decide), hchosen]
  simp only [hmembers, Template.put, hfirst, hsecond]

theorem check_textNode (at_ : Location) : ∃ failure,
    (judging orderedSchema).check 0 5 (some .null) at_ = .ok [failure] := by
  rw [Context.check_of_standsAlone (n := textNode) rfl standsAlone_textNode]
  exact ⟨_, rfl⟩

theorem check_refusedNode_text (ms : Members) (at_ : Location) : ∃ failure,
    (judging orderedSchema).check 0 4 (some (.object (("b", .null) :: ms))) at_ = .ok [failure] := by
  obtain ⟨failure, h⟩ := check_textNode (at_.descend [.key "properties", .key "b"] [.key "b"])
  refine ⟨failure, ?_⟩
  rw [Context.check_of_standsAlone (n := refusedNode) rfl standsAlone_refusedNode, refusedNode,
    Outcome.ofAll_singleton]
  change ((judging orderedSchema).judgeBelow 0 4 5 .null _ >>= _ : Outcome) = _
  rw [Context.judgeBelow_of_below (by decide), h]
  rfl

theorem check_refusedNode_dangling (ms : Members) (at_ : Location) :
    (judging orderedSchema).check 0 4 (some (.object (("a", .null) :: ms))) at_ =
      .error (.unresolvedRef "#/nowhere") := by
  rw [Context.check_of_standsAlone (n := refusedNode) rfl standsAlone_refusedNode, refusedNode,
    Outcome.ofAll_singleton]
  change ((judging orderedSchema).judgeBelow 0 4 6 .null _ >>= _ : Outcome) = _
  rw [Context.judgeBelow_of_below (by decide), check_danglingNode true rfl resolve_orderedSchema]
  rfl

theorem check_orderedNode (ms : Members) :
    (judging orderedSchema).check 0 1 (some (.object ms)) (inside "o") =
      Keyword.checkNegated ((judging orderedSchema).judgeBelow 0 1) 4 (.object ms) (inside "o") := by
  have hproperties : Keyword.checkProperties ((judging orderedSchema).judgeBelow 0 1) [("a", 2), ("b", 3)] ms
      (inside "o") = .ok [] := by
    refine Outcome.ofFirst_eq_pass fun m _ => ?_
    split
    · next id h =>
      have hid : m.1 = "a" ∧ id = 2 ∨ m.1 = "b" ∧ id = 3 := by simpa using mem_of_lookup h
      rcases hid with ⟨-, rfl⟩ | ⟨-, rfl⟩
      · rw [Context.judgeBelow_of_below (by decide), check_freeNode rfl]
      · rw [Context.judgeBelow_of_below (by decide), check_freeNode rfl]
    · rfl
  rw [Context.check_of_standsAlone (n := orderedNode) rfl standsAlone_orderedNode]
  change Outcome.ofAll _ _ [_, _, _, _] = _
  rw [Outcome.ofAll_cons_of_pass (by rfl), Outcome.ofAll_cons_of_pass (by exact hproperties),
    Outcome.ofAll_cons_of_pass (by rfl), Outcome.ofAll_singleton]
  rfl

theorem coerce_orderedSchema :
    orderedSchema.coerce .empty (held "o" (.object [("b", .null), ("a", .null)])) dropping.forCoercion =
      .ok (held "o" (.object [("a", .null), ("b", .null)])) := by
  rw [holder_orderedSchema.coerce_held, coerceAt_orderedNode]
  rfl

theorem parse_orderedSchema_nil :
    orderedSchema.parse .empty (.object []) dropping =
      .ok (held "o" (.object [("b", .null), ("a", .null)])) := by
  refine holder_orderedSchema.parse_nil (by decide) ofJson_orderedDocument rfl rfl
    ((templateFrom_orderedNode rfl).trans rfl) ?_
  obtain ⟨failure, hfailure⟩ := check_refusedNode_text [("a", .null)] ((inside "o").descend [.key "not"] [])
  rw [check_orderedNode, Keyword.checkNegated, Keyword.accepts, Context.judgeBelow_of_below (by decide),
    hfailure]
  rfl

theorem parse_orderedSchema_again :
    orderedSchema.parse .empty (held "o" (.object [("b", .null), ("a", .null)])) dropping =
      .error (.schema (.unresolvedRef "#/nowhere")) := by
  have hkept : orderedSchema.complete dropping.forTemplate true (some 1)
      (some (.object [("a", .null), ("b", .null)])) = some (.object [("a", .null), ("b", .null)]) := by
    rw [complete_at, templateFrom_orderedNode rfl]
    rfl
  rw [holder_orderedSchema.parse_held (by decide) ofJson_orderedDocument rfl rfl coerceAt_orderedNode hkept]
  refine holder_orderedSchema.admitted_held_error ?_
  rw [check_orderedNode, Keyword.checkNegated, Keyword.accepts, Context.judgeBelow_of_below (by decide),
    check_refusedNode_dangling]
  rfl

/-- An offered member is dropped, a question about null meets a reference that leads nowhere, and so does the
judgement of the reordered value. -/
theorem parse_changes_parsed :
    (∃ d s v w w', d.keysDistinct = true ∧ ofJson d = .ok s ∧ v.keysDistinct = true ∧
      s.parse .empty v dropping = .ok w ∧ s.parse .empty w dropping = .ok w' ∧ ¬w.Reorders w') ∧
    (∃ d s v w e, d.keysDistinct = true ∧ ofJson d = .ok s ∧ v.keysDistinct = true ∧
      s.parse .empty v extending = .ok w ∧ s.parse .empty w extending = .error (.schema e)) ∧
    ∃ d s v w c e, d.keysDistinct = true ∧ ofJson d = .ok s ∧ v.keysDistinct = true ∧
      s.parse .empty v dropping = .ok w ∧ s.coerce .empty w dropping.forCoercion = .ok c ∧
      s.parse .empty w dropping = .error (.schema e) := by
  refine ⟨⟨offeringDocument, offeringSchema, .object [], _, _, by decide, ofJson_offeringDocument, rfl,
      parse_offeringSchema_nil rfl rfl, parse_offeringSchema_again rfl rfl, ?_⟩,
    ⟨probedDocument, probedSchema, .object [], _, _, by decide, ofJson_probedDocument, rfl,
      parse_probedSchema_nil, parse_probedSchema_again⟩,
    ⟨orderedDocument, orderedSchema, .object [], _, _, _, by decide, ofJson_orderedDocument, rfl,
      parse_orderedSchema_nil, coerce_orderedSchema, parse_orderedSchema_again⟩⟩
  intro h
  cases h with
  | object keys inner =>
    cases inner "o" _ _ rfl rfl with
    | object keys _ => exact absurd keys.length_eq (by decide)

end Schema

end JsonSchema
