import JsonSchema.Proofs.Evaluation.Rules
import JsonSchema.Proofs.Evaluation.Turn
import JsonSchema.Proofs.Places.Locations

/-! # Failures point at what they are about -/

namespace JsonSchema

open Loader

/-! ## Outcomes -/

/-- Every failure that the outcome lists has the property. -/
def Outcome.Every (P : Failure → Prop) (o : Outcome) : Prop :=
  ∀ found, o = .ok found → ∀ f ∈ found, P f

namespace Outcome

variable {P : Failure → Prop}

theorem every_pass : Every P pass := by
  intro found h f hf
  cases h
  cases hf

theorem every_error (e : SchemaError) : Every P (.error e) := by
  intro found h
  cases h

theorem every_singleton {f : Failure} (h : P f) : Every P (.ok [f]) := by
  intro found hfound f' hf'
  cases hfound
  exact List.mem_singleton.1 hf' ▸ h

theorem every_require {at_ : Location} {keyword : String} {complaint : Complaint} {w : Json}
    (h : P (at_.failure (some keyword) complaint (some w))) (holds : Bool) :
    Every P (require holds at_ keyword complaint w) := by
  cases holds with
  | true => exact every_pass
  | false => exact every_singleton h

theorem every_bind {o : Except SchemaError α} {f : α → Outcome}
    (h : ∀ a, o = .ok a → Every P (f a)) : Every P (o >>= f) := by
  intro found hfound
  obtain ⟨a, ho, ha⟩ := Except.bind_eq_ok_iff.1 hfound
  exact h a ho found ha

theorem every_ofFirst {f : α → Outcome} {as : List α} (h : ∀ a ∈ as, Every P (f a)) :
    Every P (ofFirst f as) := by
  induction as with
  | nil => exact every_pass
  | cons a as ih =>
    obtain ⟨ha, has⟩ := List.forall_mem_cons.1 h
    refine every_bind fun found hfound => ?_
    split
    · exact ih has
    · rw [hfound] at ha
      exact ha

theorem every_ofAll (stop : Bool) {f : α → Outcome} {as : List α} (h : ∀ a ∈ as, Every P (f a)) :
    Every P (ofAll stop f as) := by
  induction as with
  | nil => exact every_pass
  | cons a as ih =>
    obtain ⟨ha, has⟩ := List.forall_mem_cons.1 h
    refine every_bind fun found hfound => ?_
    split
    · rw [hfound] at ha
      exact ha
    · refine every_bind fun rest hrest => ?_
      intro all hall f hf
      cases hall
      rcases List.mem_append.1 hf with hf | hf
      · exact ha found hfound f hf
      · exact ih has rest hrest f hf

end Outcome

open Outcome

/-! ## Keywords without schemas -/

namespace Leaf

variable {P : Failure → Prop} {w : Json} {at_ : Location}

theorem every_checkCount {which : Count}
    (h : ∀ complaint, P (at_.failure (some which.name) complaint (some w))) (limit : UInt64) :
    Every P (checkCount which limit w at_) := by
  unfold checkCount
  dsimp only
  split
  case h_7 => exact every_pass
  all_goals exact every_require (h _) _

theorem every_checkMultiple
    (h : ∀ complaint, P (at_.failure (some "multipleOf") complaint (some w))) (divisor : Float) :
    Every P (checkMultiple divisor w at_) := by
  unfold checkMultiple
  split
  · exact every_pass
  · split
    · exact every_require (h _) _
    · exact every_error _

theorem every_check (formats : FormatRegistry) (l : Leaf)
    (h : ∀ complaint, P (at_.failure (some l.name) complaint (some w))) :
    Every P (l.check formats w at_) := by
  unfold check
  dsimp only
  split
  case h_4 => exact every_checkCount h _
  case h_6 => exact every_checkMultiple h _
  case h_11 =>
    split
    · exact every_require (h _) _
    · exact every_pass
  case h_12 => exact every_pass
  all_goals exact every_require (h _) _

end Leaf

/-! ## Keywords with schemas -/

theorem Node.filter_isExtra {R : NodeId → Json → Prop} {ms : Members} {n : Node}
    (hreads : List.Forall₂ (Keyword.Reads R) ms n.keywords) (vs : Members) :
    vs.filter (n.isExtra ·.1) = vs.extra ms := by
  refine List.filter_congr fun m _ => ?_
  have hiff := Node.isExtra_iff hreads m.1
  rw [Bool.eq_iff_iff, hiff]
  simp only [decide_eq_true_eq]

theorem Node.mem_keys_of_count? {R : NodeId → Json → Prop} {ms : Members} {n : Node}
    (hreads : List.Forall₂ (Keyword.Reads R) ms n.keywords) {which : Count} {limit : UInt64}
    (h : n.count? which = some limit) : which.name ∈ ms.keys := by
  have hrel := Node.rel_count? hreads which
  rw [h] at hrel
  generalize hget : ms.get? which.name = d? at hrel
  cases hrel
  exact Members.mem_keys_of_get? hget

namespace Keyword

variable {meant : String → Option Json} {d v : Json} {R : NodeId → Json → Prop} {judge : Judge}
  {at_ : Location} {ms : Members} {n : Node}

theorem every_checkContains (hreads : List.Forall₂ (Keyword.Reads R) ms n.keywords) {id : NodeId}
    {items : List Json} (h : at_.Reaches meant d v (.object ms) (.array items))
    (hname : "contains" ∈ ms.keys) :
    Every (Failure.Points meant d v) (checkContains judge n id items at_) := by
  unfold checkContains
  dsimp only
  refine every_bind fun found _ => ?_
  split
  · refine every_require ?_ _
    split
    · next hsome =>
      obtain ⟨least, hleast⟩ := Option.isSome_iff_exists.1 hsome
      exact h.points_failure (Node.mem_keys_of_count? hreads hleast) (by decide) (by decide) _
    · exact h.points_failure hname (by decide) (by decide) _
  · split
    · next most hmost =>
      refine every_require ?_ _
      exact h.points_failure (Node.mem_keys_of_count? hreads hmost) (by decide) (by decide) _
    · exact every_pass

section Judged

variable (hjudge : ∀ id child x at_, R id child → at_.Reaches meant d v child x →
  Every (Failure.Points meant d v) (judge id x at_))
include hjudge

theorem every_branch (hreads : List.Forall₂ (Keyword.Reads R) ms n.keywords) {w : Json}
    (h : at_.Reaches meant d v (.object ms) w) (slot : Slot) (hnames : slot.name ≠ "propertyNames")
    (hextra : slot.name ≠ "additionalProperties") :
    Every (Failure.Points meant d v) (match n.single? slot with
      | some branch => judge branch w (at_.descend [.key slot.name] [])
      | none => pass) := by
  have hrel := Node.rel_single? hreads slot
  generalize n.single? slot = branch? at hrel ⊢
  generalize hget : ms.get? slot.name = child? at hrel
  cases hrel with
  | none => exact every_pass
  | some held =>
    refine hjudge _ _ _ _ held (h.single (roleOf_slot slot) hget hnames ?_ rfl)
    intro heq
    exact absurd heq hextra

theorem every_checkCondition (hreads : List.Forall₂ (Keyword.Reads R) ms n.keywords) {w : Json}
    (h : at_.Reaches meant d v (.object ms) w) (id : NodeId) :
    Every (Failure.Points meant d v) (checkCondition judge n id w at_) := by
  unfold checkCondition
  split
  · exact every_pass
  · refine every_bind fun accepted _ => ?_
    cases accepted with
    | true => exact every_branch hjudge hreads h .consequent (by decide) (by decide)
    | false => exact every_branch hjudge hreads h .alternative (by decide) (by decide)

theorem every_checkProperties {entries : List (String × NodeId)} {ds vs : Members}
    (h : at_.Reaches meant d v (.object ms) (.object vs)) (hvs : vs.keys.Nodup)
    (hget : ms.get? "properties" = some (.object ds))
    (held : List.Forall₂ (fun e m => e.1 = m.1 ∧ R e.2 m.2) entries ds) :
    Every (Failure.Points meant d v) (checkProperties judge entries vs at_) := by
  refine every_ofFirst fun m hm => ?_
  have hrel := rel_lookup held m.1
  generalize entries.lookup m.1 = id? at hrel ⊢
  generalize hchild : ds.get? m.1 = child? at hrel
  cases hrel with
  | none => exact every_pass
  | some hheld =>
    refine hjudge _ _ _ _ hheld (h.part (.inr (.inl ⟨.properties, rfl⟩)) hget hchild ?_)
    rw [Json.get?_singleton, Json.child?_key hvs hm]

theorem every_checkPatterns {entries : List (Pattern × NodeId)} {ds vs : Members}
    (h : at_.Reaches meant d v (.object ms) (.object vs)) (hvs : vs.keys.Nodup)
    (hget : ms.get? "patternProperties" = some (.object ds)) (hds : ds.keys.Nodup)
    (held : List.Forall₂ (fun e m => Pattern.compile? m.1 = some e.1 ∧ R e.2 m.2) entries ds) :
    Every (Failure.Points meant d v) (checkPatterns judge entries vs at_) := by
  refine every_ofFirst fun m hm => every_ofFirst fun e he => ?_
  obtain ⟨entry, hentry, hpattern, hheld⟩ := exists_of_forall₂ held (List.mem_of_mem_filter he)
  refine hjudge _ _ _ _ hheld (h.part (.inr (.inr rfl)) hget ?_ ?_)
  · rw [Pattern.source_of_compile? hpattern, Json.child?_key hds hentry]
  · rw [Json.get?_singleton, Json.child?_key hvs hm]

theorem every_checkExtra {c : Context} {hops : Nat}
    (hreads : List.Forall₂ (Keyword.Reads R) ms n.keywords) {id : NodeId} {child : Json}
    {vs : Members} (h : at_.Reaches meant d v (.object ms) (.object vs)) (hvs : vs.keys.Nodup)
    (hget : ms.get? "additionalProperties" = some child) (held : R id child)
    (hfollow : c.schema.follow hops id = .ok (hops, id))
    (hkind : ∀ b, c.schema.kind? id = some (.constant b) ↔ child = .bool b) :
    Every (Failure.Points meant d v) (checkExtra c judge hops n id vs at_) := by
  have hextra := Node.filter_isExtra hreads vs
  unfold checkExtra
  dsimp only
  split
  · exact every_pass
  · rw [hfollow, Except.ok_bind]
    dsimp only
    split
    · next accepts hconstant =>
      obtain rfl := (hkind accepts).1 hconstant
      cases accepts with
      | true => exact every_pass
      | false => exact every_singleton (hextra ▸ h.points_extra hget _)
    · next hother =>
      -- The child is no constant here, so that none of its failures can be taken for a rejection.
      refine every_ofFirst fun m hm => hjudge _ _ _ _ held ?_
      refine h.single (roleOf_slot .additionalProperties) hget (by decide) ?_ ?_
      · intro _ hfalse
        exact hother false ((hkind false).2 hfalse)
      · rw [Json.get?_singleton, Json.child?_key hvs (List.mem_of_mem_filter hm)]

theorem every_checkNames {id : NodeId} {child : Json} {vs : Members}
    (h : at_.Reaches meant d v (.object ms) (.object vs)) (hvs : vs.keys.Nodup)
    (hget : ms.get? "propertyNames" = some child) (held : R id child) :
    Every (Failure.Points meant d v) (checkNames judge id vs at_) :=
  every_ofFirst fun _ hm => hjudge _ _ _ _ held (h.names hget hvs hm)

theorem every_checkDependents {entries : List (String × NodeId)} {ds vs : Members}
    (h : at_.Reaches meant d v (.object ms) (.object vs))
    (hget : ms.get? "dependentSchemas" = some (.object ds)) (hds : ds.keys.Nodup)
    (held : List.Forall₂ (fun e m => e.1 = m.1 ∧ R e.2 m.2) entries ds) :
    Every (Failure.Points meant d v) (checkDependents judge entries vs at_) := by
  refine every_ofFirst fun e he => ?_
  obtain ⟨entry, hentry, hkey, hheld⟩ := exists_of_forall₂ held (List.mem_of_mem_filter he)
  refine hjudge _ _ _ _ hheld (h.part (.inr (.inl ⟨.dependentSchemas, rfl⟩)) hget ?_ rfl)
  rw [hkey, Json.child?_key hds hentry]

theorem every_checkItems {id : NodeId} {child : Json} {items : List Json}
    (h : at_.Reaches meant d v (.object ms) (.array items)) (hget : ms.get? "items" = some child)
    (held : R id child) : Every (Failure.Points meant d v) (checkItems judge n id items at_) := by
  refine every_ofFirst fun e he => hjudge _ _ _ _ held ?_
  refine h.single (roleOf_slot .items) hget (by decide) (fun heq => absurd heq (by decide)) ?_
  rw [Json.get?_singleton, Json.child?_ofPosition]
  exact List.mem_zipIdx_iff_getElem?.1 (List.mem_of_mem_drop he)

theorem every_checkPrefix {ids : List NodeId} {ds items : List Json}
    (h : at_.Reaches meant d v (.object ms) (.array items))
    (hget : ms.get? "prefixItems" = some (.array ds)) (held : List.Forall₂ R ids ds) :
    Every (Failure.Points meant d v) (checkPrefix judge ids items at_) := by
  refine every_ofFirst fun e he => ?_
  have hpair := List.mem_zipIdx_iff_getElem?.1 he
  obtain ⟨hid, hitem⟩ := List.getElem?_zip_eq_some.1 hpair
  obtain ⟨child, hchild, hheld⟩ := getElem?_of_forall₂ held hid
  refine hjudge _ _ _ _ hheld (h.part (.inl ⟨.prefixItems, rfl⟩) hget ?_ ?_)
  · rw [Json.child?_ofPosition, hchild]
  · rw [Json.get?_singleton, Json.child?_ofPosition, hitem]

variable {c : Context} {hops : Nat} {w : Json}
  (hreads : List.Forall₂ (Keyword.Reads R) ms n.keywords) (hw : w.keysDistinct = true)
  (h : at_.Reaches meant d v (.object ms) w)
include h

include hreads hw in
theorem every_single {slot : Slot} {id : NodeId} {child : Json}
    (hget : ms.get? slot.name = some child) (held : R id child)
    (hfollow : c.schema.follow hops id = .ok (hops, id))
    (hkind : ∀ b, c.schema.kind? id = some (.constant b) ↔ child = .bool b) :
    Every (Failure.Points meant d v) ((single slot id).check c judge hops n w at_) := by
  have hname := Members.mem_keys_of_get? hget
  cases slot with
  | negated =>
    refine every_bind fun accepted _ => every_require ?_ _
    exact h.points_failure hname (by decide) (by decide) _
  | condition => exact every_checkCondition hjudge hreads h id
  | consequent | alternative => exact every_pass
  | items =>
    cases w with
    | array items => exact every_checkItems hjudge h hget held
    | _ => exact every_pass
  | contains =>
    cases w with
    | array items => exact every_checkContains hreads h hname
    | _ => exact every_pass
  | additionalProperties =>
    cases w with
    | object vs =>
      have hvs := ((Json.keysDistinct_object vs).1 hw).1
      exact every_checkExtra hjudge hreads h hvs hget held hfollow hkind
    | _ => exact every_pass
  | propertyNames =>
    cases w with
    | object vs =>
      have hvs := ((Json.keysDistinct_object vs).1 hw).1
      exact every_checkNames hjudge h hvs hget held
    | _ => exact every_pass

theorem every_listed {slot : ListSlot} {ids : List NodeId} {ds : List Json}
    (hget : ms.get? slot.name = some (.array ds)) (held : List.Forall₂ R ids ds) :
    Every (Failure.Points meant d v) ((listed slot ids).check c judge hops n w at_) := by
  have hname := Members.mem_keys_of_get? hget
  cases slot with
  | allOf | anyOf | oneOf =>
    refine every_bind fun _ _ => every_require ?_ _
    exact h.points_failure hname (by decide) (by decide) _
  | prefixItems =>
    cases w with
    | array items => exact every_checkPrefix hjudge h hget held
    | _ => exact every_pass

include hw in
theorem every_keyed {slot : KeyedSlot} {entries : List (String × NodeId)} {ds : Members}
    (hget : ms.get? slot.name = some (.object ds)) (hds : ds.keys.Nodup)
    (held : List.Forall₂ (fun e m => e.1 = m.1 ∧ R e.2 m.2) entries ds) :
    Every (Failure.Points meant d v) ((keyed slot entries).check c judge hops n w at_) := by
  cases slot with
  | properties =>
    cases w with
    | object vs =>
      have hvs := ((Json.keysDistinct_object vs).1 hw).1
      exact every_checkProperties hjudge h hvs hget held
    | _ => exact every_pass
  | dependentSchemas =>
    cases w with
    | object vs => exact every_checkDependents hjudge h hget hds held
    | _ => exact every_pass
  | defs => exact every_pass

include hreads hw in
/-- Children are judged at locations that reach them. -/
theorem every_check (hfollow : ∀ id child, R id child → c.schema.follow hops id = .ok (hops, id))
    (hkind : ∀ id child, R id child → ∀ b,
      c.schema.kind? id = some (.constant b) ↔ child = .bool b)
    (hms : (Json.object ms).keysDistinct = true) {name : String} {value : Json} {k : Keyword}
    (hm : (name, value) ∈ ms) (hk : k.Reads R (name, value)) :
    Every (Failure.Points meant d v) (k.check c judge hops n w at_) := by
  obtain ⟨hnodup, hvalues⟩ := (Json.keysDistinct_object ms).1 hms
  have hget : ms.get? name = some value := Members.get?_eq_some_of_mem ms hnodup _ hm
  have hvalue : value.keysDistinct = true := hvalues _ hm
  cases hk with
  | @leaf _ _ path l role read =>
    obtain rfl := name_of_readLeaf read
    have hname := Members.mem_keys_of_get? hget
    refine Leaf.every_check c.formats l fun complaint => h.points_failure hname ?_ ?_ complaint
    · intro heq
      rw [heq] at role
      cases role
    · intro heq
      rw [heq] at role
      cases role
  | single role held =>
    obtain rfl := name_of_roleOf_single role
    exact every_single hjudge hreads hw h hget held (hfollow _ _ held) (hkind _ _ held)
  | listed role held =>
    obtain rfl := name_of_roleOf_listed role
    exact every_listed hjudge h hget held
  | keyed role held =>
    obtain rfl := name_of_roleOf_keyed role
    have hds := ((Json.keysDistinct_object _).1 hvalue).1
    exact every_keyed hjudge hw h hget hds held
  | patterns role held =>
    obtain rfl := name_of_roleOf_patterns role
    have hds := ((Json.keysDistinct_object _).1 hvalue).1
    cases w with
    | object vs =>
      have hvs := ((Json.keysDistinct_object vs).1 hw).1
      exact every_checkPatterns hjudge h hvs hget hds held
    | _ => exact every_pass

end Judged

end Keyword

/-! ## Nodes -/

/-- What a node that stands for the schema can do with a value first. -/
inductive Turn.Fits (c : Context) (docs : List Json) (hops : Nat) (id : NodeId) (w : Json)
    (at_ : Location) : Json → Turn → Prop where
  | error (here : Json) (e : SchemaError) : Fits c docs hops id w at_ here (.settled (.error e))
  | pass (here : Json) : Fits c docs hops id w at_ here (.settled .pass)
  | alwaysFails :
    Fits c docs hops id w at_ (.bool false)
      (.settled (.ok [at_.failure none .alwaysFails (some w)]))
  | handed {ms : Members} {reference : String} {reached : Nat} {target : NodeId}
    (href : ms.get? "$ref" = some (.string reference))
    (hresolve : c.index.resolve reference = .ok target) :
    Fits c docs hops id w at_ (.object ms) (.handed reached target w)
  | asked {ms : Members} {n : Node}
    (hreads : List.Forall₂ (Keyword.Reads (c.schema.Held docs id)) ms n.keywords) :
    Fits c docs hops id w at_ (.object ms) (.asked hops id n w)

namespace Context

variable {c : Context} {docs : List Json} (hlabels : c.schema.Labels docs)
include hlabels

theorem turn_fits {id : NodeId} {here : Json} (hhere : docs[id]? = some here) (hops : Nat)
    (w : Json) (at_ : Location) :
    Turn.Fits c docs hops id w at_ here (c.turn hops id (some w) at_) := by
  obtain ⟨n, hn, hreads⟩ := hlabels.exists_reads hhere
  cases hreads with
  | @constant accepts _ kind keywords hooks =>
    rw [turn_of_constant hn kind]
    cases accepts with
    | true => exact .pass _
    | false => exact .alwaysFails
  | @object ms _ kind keywords hooks =>
    obtain ⟨hconstant, hlink, hhole⟩ := ne_of_kindOf kind
    rw [turn_of_node hn hconstant hlink hhole hooks]
    split
    · exact .error _ _
    · have hrel := Node.rel_reference? keywords
      generalize n.reference? = reference? at hrel ⊢
      generalize hget : Members.get? ms "$ref" = d? at hrel
      cases hrel with
      | none => exact .asked keywords
      | @some reference _ hd =>
        subst hd
        dsimp only
        split
        · exact .error _ _
        · next target hresolve =>
          split
          · exact .handed hget hresolve
          · exact .error _ _

/-- All failures of the judgement point at something if the location reaches what is judged. -/
def Points (c : Context) (docs : List Json) (d v : Json) (hops : Nat) (id : NodeId)
    (value : Option Json) (at_ : Location) : Prop :=
  ∀ here w, value = some w → docs[id]? = some here → here.keysDistinct = true →
    at_.Reaches (c.schema.meant d) d v here w →
    Every (Failure.Points (c.schema.meant d) d v) (c.check hops id value at_)

/-- Every step of a judgement keeps to locations that reach what is judged. -/
theorem check_points {d v : Json} (hd : d.keysDistinct = true) (hv : v.keysDistinct = true)
    (hroot : docs[Schema.root]? = some d) (hindex : c.index = .ofSchema c.schema) (hops : Nat)
    (id : NodeId) (value : Option Json) (at_ : Location) : c.Points docs d v hops id value at_ := by
  refine check_induction (c := c) (P := c.Points docs d v) ?_ ?_ ?_ hops id value at_
  · rintro hops id _ at_ outcome hturn here w rfl hhere hkeys h
    rw [check_eq_turn, hturn]
    have hfits := turn_fits hlabels hhere hops w at_
    rw [hturn] at hfits
    cases hfits with
    | error => exact every_error _
    | pass => exact every_pass
    | alwaysFails => exact every_singleton (h.points_alwaysFails _)
  · rintro hops id _ at_ reached target w' hturn ih here w rfl hhere hkeys h
    rw [check_eq_turn, hturn]
    have hfits := turn_fits hlabels hhere hops w at_
    rw [hturn] at hfits
    cases hfits with
    | handed href hresolve =>
      rw [hindex] at hresolve
      obtain ⟨there, hmeant, hthere, hkeys⟩ := hlabels.meant_eq hd hroot hresolve
      exact ih there _ rfl hthere hkeys (h.reference href hmeant)
  · rintro hops id _ at_ reached place node w' hturn ih here w rfl hhere hkeys h
    rw [check_eq_turn, hturn]
    have hfits := turn_fits hlabels hhere hops w at_
    rw [hturn] at hfits
    cases hfits with
    | @asked ms _ hreads =>
      have hvalues := ((Json.keysDistinct_object ms).1 hkeys).2
      have hparts : List.Forall₂ (Keyword.Reads fun child e => c.schema.Held docs id child e ∧
          e.keysDistinct = true) ms node.keywords := by
        refine Keyword.forall₂_reads_and hreads fun m hm e he => ?_
        exact keysDistinct_of_mem_parts (hvalues m hm) he
      -- A child is judged where it stands in the document, so its own failures point into it.
      have hjudge : ∀ child e x at_, (c.schema.Held docs id child e ∧ e.keysDistinct = true) →
          at_.Reaches (c.schema.meant d) d v e x →
          Every (Failure.Points (c.schema.meant d) d v) (c.judgeBelow hops id child x at_) := by
        rintro child e x at_ ⟨⟨hbelow, he⟩, hkeys⟩ h
        rw [judgeBelow_of_below hbelow]
        exact ih child x at_ hbelow e x rfl he hkeys h
      refine every_ofAll _ fun k hk => ?_
      obtain ⟨m, hm, hreadsk⟩ := exists_of_forall₂ hparts.flip hk
      refine Keyword.every_check hjudge hparts (h.keysDistinct hv) h ?_ ?_ hkeys hm hreadsk
      · rintro child e ⟨⟨_, he⟩, _⟩
        exact hlabels.follow_eq he hops
      · rintro child e ⟨⟨_, he⟩, _⟩ b
        exact hlabels.kind?_eq_constant_iff he b

end Context

/-! ## Verdicts -/

namespace Schema

/-- All that a verdict lists points at real places, whatever the other options say. -/
theorem failures_point (shared : FormatRegistry) (d : Json) (s : Schema)
    (hd : d.keysDistinct = true) (h : Schema.ofJson d = .ok s) (v : Json)
    (hv : v.keysDistinct = true) (options : ValidateOptions) (hkeyword : options.keywordPath = [])
    (hinstance : options.instancePath = []) (hcoerce : options.coerce = false) (r : Verdict)
    (hr : s.validate shared v options = .ok r) :
    ∀ f ∈ r.failures, f.Points (s.meant d) d v := by
  obtain ⟨docs, hlabels, hroot⟩ := loads_of_load d [] s hd h
  rw [validate, validateAt_eq_judged] at hr
  obtain ⟨value, hvalue, hr⟩ := Except.bind_eq_ok_iff.1 hr
  obtain ⟨found, hfound, rfl⟩ := Except.map_eq_ok_iff.1 hr
  rw [judged, hcoerce, if_neg Bool.false_ne_true] at hvalue
  cases hvalue
  rw [hkeyword, hinstance] at hfound
  let c := s.context shared options
  exact c.check_points hlabels hd hv hroot rfl 0 root (some v) .root d v rfl hroot hd
    Location.reaches_root found hfound

theorem failures_point_slash :
    let d : Json := .object
      [("properties", .object [("a/b", .object [("additionalProperties", .bool false)])])]
    let v : Json := .object [("a/b", .object [("0", .null)])]
    d.keysDistinct = true ∧ v.keysDistinct = true ∧ ∃ s, Schema.ofJson d = .ok s ∧ ∃ f,
      s.validate .empty v = .ok (.ofFailures [f]) ∧
      f.keywordLocation = "/properties/a~1b/additionalProperties" ∧ f.Points (s.meant d) d v := by
  intro d v
  have hd : d.keysDistinct = true := by decide
  have hv : v.keysDistinct = true := by decide
  obtain ⟨s, hs⟩ : ∃ s, Schema.ofJson d = .ok s := ⟨_, rfl⟩
  let inner : Location := ⟨[.key "properties", .key "a/b"], [.key "a/b"]⟩
  let extra : Json := .object [("0", .null)]
  let f : Failure := inner.failure (some "additionalProperties") .unknownProperties (some extra)
  have hr : s.validate .empty v = .ok (.ofFailures [f]) := by
    cases hs
    rw [validate, validateAt_eq_judged, judged, if_neg (by decide), Except.ok_bind]
    generalize hc : context _ _ _ = c
    let n : Node := { kind := .any, keywords := [.keyed .properties [("a/b", 1)]] }
    have houter : c.turn 0 0 (some v) ⟨[], []⟩ = .asked 0 0 n v := by
      rw [Context.turn, follow, ← hc]
      with_unfolding_all rfl
    have hinner : c.check 0 1 (some extra) inner = .ok [f] := by
      rw [Context.check_eq_turn, Context.turn, follow, ← hc]
      with_unfolding_all rfl
    have hbelow : c.schema.Below 0 1 := by rw [← hc]; decide +kernel
    have hproperty : c.judgeBelow 0 0 1 extra inner = .ok [f] := by
      rw [Context.judgeBelow_of_below hbelow, hinner]
    have hstop : c.shortCircuit = false := by rw [← hc]; rfl
    rw [Context.check_eq_turn, root, houter, hstop]
    change ((c.judgeBelow 0 0 1 extra inner >>= _ : Outcome) >>= _ : Outcome).map _ = _
    rw [hproperty]
    rfl
  have hpoints := failures_point .empty d s hd hs v hv {} rfl rfl rfl _ hr
  exact ⟨hd, hv, s, hs, f, hr, by decide +kernel, hpoints f List.mem_cons_self⟩

end Schema

end JsonSchema
