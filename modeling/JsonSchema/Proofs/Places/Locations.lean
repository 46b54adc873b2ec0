import JsonSchema.Proofs.Places.References

/-!
# Locations that name what is judged

A location reaches a schema and a value if its paths lead there. Every step of a judgement goes from
one such location to another.
-/

namespace JsonSchema

open Loader

/-! ## Failures -/

/-- The locations of the failure are pointers to real places of the document and of the value, and
its data are what is found there. -/
def Failure.Points (meant : String → Option Json) (d v : Json) (f : Failure) : Prop :=
  ∃ p x q spot data,
    Pointer.parse f.instanceLocation = .ok p ∧ f.issuePath = p ∧ v.get? p = some x ∧
    Pointer.parse f.keywordLocation = .ok q ∧ d.read meant q = some spot ∧ spot.IsReal ∧
    f.data = some data ∧ Carries (d.ReadsNames meant q) spot p x data

variable {meant : String → Option Json} {d v : Json}

theorem Carries.reread {names names' : Prop} {spot : Spot} {p : Path} {x data : Json}
    (h : Carries names spot p x data) (hnames : names ↔ names') :
    Carries names' spot (p.map Segment.reread) x data := by
  cases h with
  | @name s below last =>
    rw [← Segment.text_reread s]
    exact .name (hnames.1 below) (by rw [List.getLast?_map, last, Option.map_some])
  | extra beside rejects eq => exact .extra (mt hnames.2 beside) rejects eq
  | value beside other => exact .value (mt hnames.2 beside) other

theorem Failure.points_of_paths {f : Failure} {x data : Json} {spot : Spot}
    (hx : v.get? f.instancePath = some x) (hspot : d.read meant f.keywordPath = some spot)
    (hreal : spot.IsReal) (hdata : f.data = some data)
    (hcarries : Carries (d.ReadsNames meant f.keywordPath) spot f.instancePath x data) :
    f.Points meant d v := by
  have hinstance := Pointer.parse_render f.instancePath
  refine ⟨f.instancePath.map Segment.reread, x, f.keywordPath.map Segment.reread, spot, data,
    hinstance, ?_, ?_, Pointer.parse_render f.keywordPath, ?_, hreal, hdata, ?_⟩
  · rw [issuePath, instanceLocation, hinstance]
  · rw [Json.get?_reread, hx]
  · rw [Json.read_reread, hspot]
  · exact hcarries.reread (Json.readsNames_reread f.keywordPath).symm

/-! ## Locations -/

/-- The value that is judged is the one at its place, except that below `propertyNames` it is the
name that leads there. -/
inductive Sees (names : Prop) (p : Path) (x : Json) : Json → Prop where
  | name {s : Segment} (below : names) (last : p.getLast? = some s) :
    Sees names p x (.string s.text)
  | value (beside : ¬names) : Sees names p x x

namespace Location

/-- The path leads to a spot where the schema is judged. A rejection of extra members is none. -/
def Stands (meant : String → Option Json) (d : Json) (q : Path) (here : Json) : Prop :=
  ∃ spot, d.read meant q = some spot ∧ spot.schema? meant = some here ∧
    (here = .bool false → ∀ ms, ¬spot.RejectsExtra ms)

structure Reaches (meant : String → Option Json) (d v : Json) (at_ : Location) (here w : Json) :
    Prop where
  stands : Stands meant d at_.keywordPath here
  sees : ∃ x, v.get? at_.instancePath = some x ∧
    Sees (d.ReadsNames meant at_.keywordPath) at_.instancePath x w

theorem reaches_root : root.Reaches meant d v d v := by
  refine ⟨⟨.schema d, rfl, rfl, ?_⟩, v, rfl, .value Json.not_readsNames_nil⟩
  rintro _ ms ⟨h, _⟩
  cases h

namespace Reaches

variable {at_ : Location} {here w : Json} {ms : Members} {name : String}

theorem keysDistinct (h : at_.Reaches meant d v here w) (hv : v.keysDistinct = true) :
    w.keysDistinct = true := by
  obtain ⟨x, hx, hsees⟩ := h.sees
  cases hsees with
  | name => rfl
  | value => exact Json.keysDistinct_of_get? hv hx

section Keywords

variable (h : at_.Reaches meant d v (.object ms) w) (hname : name ∈ ms.keys)
include h hname

theorem read_keyword :
    d.read meant (at_.keywordPath ++ [.key name]) = some (.keyword ms name) := by
  obtain ⟨spot, hread, hschema, _⟩ := h.stands
  rw [Json.read_concat, hread, Option.bind_some]
  exact Spot.step_of_schema? hschema hname

theorem readsNames_keyword (hne : name ≠ "propertyNames") :
    d.ReadsNames meant (at_.keywordPath ++ [.key name]) ↔ d.ReadsNames meant at_.keywordPath := by
  rw [Json.readsNames_concat, h.read_keyword hname]
  refine or_iff_left ?_
  rintro ⟨ms, heq⟩
  cases heq
  exact hne rfl

end Keywords

/-! ### Failures -/

theorem points_failure (h : at_.Reaches meant d v (.object ms) w) (hname : name ∈ ms.keys)
    (hne : name ≠ "propertyNames") (hextra : name ≠ "additionalProperties")
    (complaint : Complaint) : (at_.failure (some name) complaint (some w)).Points meant d v := by
  obtain ⟨x, hx, hsees⟩ := h.sees
  have hnames := h.readsNames_keyword hname hne
  refine Failure.points_of_paths hx (h.read_keyword hname) hname rfl ?_
  cases hsees with
  | name below last => exact .name (hnames.2 below) last
  | value beside =>
    refine .value (mt hnames.1 beside) ?_
    rintro ms' ⟨heq, _⟩
    cases heq
    exact hextra rfl

theorem points_extra {vs : Members} (h : at_.Reaches meant d v (.object ms) (.object vs))
    (hfalse : ms.get? "additionalProperties" = some (.bool false)) (complaint : Complaint) :
    (at_.failure (some "additionalProperties") complaint (some (.object (vs.extra ms)))).Points
      meant d v := by
  have hname : "additionalProperties" ∈ ms.keys :=
    Members.mem_keys_of_get? hfalse
  have hnames := h.readsNames_keyword hname (by decide)
  obtain ⟨x, hx, hsees⟩ := h.sees
  cases hsees with
  | value beside =>
    refine Failure.points_of_paths hx (h.read_keyword hname) hname rfl ?_
    exact .extra (mt hnames.1 beside) ⟨rfl, hfalse⟩ rfl

theorem points_alwaysFails (h : at_.Reaches meant d v (.bool false) w) (complaint : Complaint) :
    (at_.failure none complaint (some w)).Points meant d v := by
  obtain ⟨spot, hread, hschema, hother⟩ := h.stands
  obtain ⟨x, hx, hsees⟩ := h.sees
  have hpath : (at_.failure none complaint (some w)).keywordPath = at_.keywordPath :=
    List.append_nil _
  refine Failure.points_of_paths hx (hpath ▸ hread) ?_ rfl (hpath.symm ▸ ?_)
  · cases spot with
    | schema here => cases hschema; rfl
    | keyword ms name => exact Json.mem_keys_of_read hread
  · cases hsees with
    | name below last => exact .name below last
    | value beside => exact .value beside (hother rfl)

/-! ### Steps -/

theorem descend (h : at_.Reaches meant d v here w) {q p : Path} {child x : Json}
    (hstands : Stands meant d (at_.keywordPath ++ q) child)
    (hnames : d.ReadsNames meant (at_.keywordPath ++ q) ↔ d.ReadsNames meant at_.keywordPath)
    (hx : w.get? p = some x) : (at_.descend q p).Reaches meant d v child x := by
  obtain ⟨y, hy, hsees⟩ := h.sees
  refine ⟨hstands, ?_⟩
  cases hsees with
  | name below last =>
    cases p with
    | cons s p => cases hx
    | nil =>
      cases hx
      refine ⟨y, ?_, ?_⟩
      · exact (congrArg v.get? (List.append_nil _)).trans hy
      · refine .name (hnames.2 below) ?_
        exact (congrArg List.getLast? (List.append_nil _)).trans last
  | value beside =>
    refine ⟨x, ?_, .value (mt hnames.1 beside)⟩
    exact (Json.get?_append v _ _).trans (by rw [hy, Option.bind_some, hx])

theorem single (h : at_.Reaches meant d v (.object ms) w) {slot : Slot} {child x : Json} {p : Path}
    (role : roleOf name = .single slot) (hchild : ms.get? name = some child)
    (hne : name ≠ "propertyNames") (hextra : name = "additionalProperties" → child ≠ .bool false)
    (hx : w.get? p = some x) : (at_.descend [.key name] p).Reaches meant d v child x := by
  have hname : name ∈ ms.keys := Members.mem_keys_of_get? hchild
  refine h.descend ⟨_, h.read_keyword hname, Spot.schema?_single role hchild, ?_⟩
    (h.readsNames_keyword hname hne) hx
  rintro hfalse ms' ⟨heq, _⟩
  cases heq
  exact hextra rfl hfalse

theorem part (h : at_.Reaches meant d v (.object ms) w) {held child x : Json} {s : Segment}
    {p : Path} (hparts : Spot.HoldsParts name) (hheld : ms.get? name = some held)
    (hchild : held.child? s = some child) (hx : w.get? p = some x) :
    (at_.descend [.key name, s] p).Reaches meant d v child x := by
  have hname : name ∈ ms.keys := Members.mem_keys_of_get? hheld
  have hpath : at_.keywordPath ++ [.key name, s] = (at_.keywordPath ++ [.key name]) ++ [s] :=
    List.append_cons _ _ _
  have hread : d.read meant (at_.keywordPath ++ [.key name, s]) = some (.schema child) := by
    rw [hpath, Json.read_concat, h.read_keyword hname, Option.bind_some]
    exact Spot.step_part hparts hheld hchild
  have hne : name ≠ "propertyNames" := by
    rintro rfl
    rcases hparts with ⟨_, role⟩ | ⟨_, role⟩ | role <;> cases role
  refine h.descend ⟨_, hread, rfl, ?_⟩ ?_ hx
  · rintro _ ms' ⟨heq, _⟩
    cases heq
  · rw [hpath, Json.readsNames_concat, h.readsNames_keyword hname hne, ← hpath, hread]
    refine or_iff_left ?_
    rintro ⟨ms', heq⟩
    cases heq

theorem reference (h : at_.Reaches meant d v (.object ms) w) {reference : String} {there : Json}
    (href : ms.get? "$ref" = some (.string reference)) (hthere : meant reference = some there) :
    (at_.descend [.key "$ref"] []).Reaches meant d v there w := by
  have hname : "$ref" ∈ ms.keys := Members.mem_keys_of_get? href
  have hschema : (Spot.keyword ms "$ref").schema? meant = some there :=
    (Spot.schema?_reference href).trans hthere
  refine h.descend ⟨_, h.read_keyword hname, hschema, ?_⟩
    (h.readsNames_keyword hname (by decide)) rfl
  rintro _ ms' ⟨heq, _⟩
  exact absurd (Spot.keyword.inj heq).2 (by decide)

theorem names {vs : Members} (h : at_.Reaches meant d v (.object ms) (.object vs)) {child : Json}
    (hchild : ms.get? "propertyNames" = some child) (hvs : vs.keys.Nodup) {m : String × Json}
    (hm : m ∈ vs) :
    (at_.descend [.key "propertyNames"] [.key m.1]).Reaches meant d v child (.string m.1) := by
  have hname : "propertyNames" ∈ ms.keys :=
    Members.mem_keys_of_get? hchild
  have hread := h.read_keyword hname
  have role : roleOf "propertyNames" = .single .propertyNames := rfl
  refine ⟨⟨_, hread, Spot.schema?_single role hchild, ?_⟩, ?_⟩
  · rintro _ ms' ⟨heq, _⟩
    exact absurd (Spot.keyword.inj heq).2 (by decide)
  · obtain ⟨x, hx, hsees⟩ := h.sees
    cases hsees with
    | value beside =>
      refine ⟨m.2, ?_, ?_⟩
      · refine (Json.get?_append v _ _).trans ?_
        rw [hx, Option.bind_some, Json.get?_singleton, Json.child?_key hvs hm]
      · refine Sees.name (s := .key m.1) ?_ List.getLast?_concat
        exact (Json.readsNames_concat _ _).2 (.inr ⟨ms, hread⟩)

end Reaches

end Location

end JsonSchema
