import JsonSchema.Proofs.Building.Construction
import JsonSchema.Proofs.Indexing.Ways

/-!
# What references mean

A reference that no node declares is a base and a way from there: the base is empty or declared by a
node, and the way is written as a pointer behind a `#`.
-/

namespace JsonSchema

/-! ## Lookups -/

theorem lookup_filterMap {f : α → Option String} {g : α → β} (as : List α) (name : String) :
    (as.filterMap fun a => (f a).map (·, g a)).lookup name =
      (as.find? fun a => f a == some name).map g := by
  induction as with
  | nil => rfl
  | cons a as ih =>
    rw [List.filterMap_cons]
    by_cases hname : f a = some name
    · rw [List.find?_cons_of_pos (by simpa using hname), hname]
      exact List.lookup_cons_self
    · rw [List.find?_cons_of_neg (by simpa using hname), ← ih]
      cases hother : f a with
      | none => rfl
      | some other =>
        have hne : name ≠ other := fun heq => hname (heq ▸ hother)
        rw [Option.map_some, List.lookup_cons, beq_false_of_ne hne]

theorem lookup_map [BEq γ] {f : α → γ} {g : α → β} (as : List α) (c : γ) :
    (as.map fun a => (f a, g a)).lookup c = (as.find? fun a => c == f a).map g := by
  induction as with
  | nil => rfl
  | cons a as ih =>
    rw [List.map_cons, List.lookup_cons, List.find?_cons, ih]
    cases c == f a <;> rfl

namespace Schema

/-- Of the nodes that declare the name the first one. -/
def declarer? (s : Schema) (name : String) : Option NodeId :=
  ((s.entriesFrom [] root).find? fun e => (s.node? e.2).bind (·.id?) == some name).map (·.2)

/-- Of the nodes to which ways of this spelling lead the last one. -/
def lastAt? (s : Schema) (p : Path) : Option NodeId :=
  ((s.entriesFrom [] root).reverse.find? fun e => Path.texts e.1 == Path.texts p).map (·.2)

/-- Where a reference with the base starts, and the way to there. -/
inductive StartsAt (s : Schema) : String → Path → NodeId → Prop where
  | root : StartsAt s "" [] root
  | declared {base : String} {start : Path} {id : NodeId} (hbase : base ≠ "")
      (hid : s.declarer? base = some id) (hstart : (start, id) ∈ s.entriesFrom [] root) :
      StartsAt s base start id

variable {s : Schema}

theorem declared?_ofSchema (name : String) :
    (Index.ofSchema s).declared? name = s.declarer? name := lookup_filterMap _ name

theorem render_eq_iff {p q : Path} :
    Pointer.render p = Pointer.render q ↔ Path.texts p = Path.texts q := by
  constructor
  · exact Path.texts_eq_of_render
  · intro h
    have hchars (p : Path) : Pointer.renderChars p =
        (Path.texts p).flatMap fun text => '/' :: Pointer.escape text.toList := by
      rw [Path.texts, List.flatMap_map, Pointer.renderChars]
    rw [Pointer.render, Pointer.render, hchars, hchars, h]

theorem at?_ofSchema (p : Path) :
    (Index.ofSchema s).at? ("#" ++ Pointer.render p) = s.lastAt? p := by
  unfold Index.at? Index.ofSchema lastAt?
  rw [← List.map_reverse, lookup_map]
  congr 2
  funext e
  rw [Bool.eq_iff_iff, beq_iff_eq, beq_iff_eq, String.append_right_inj, render_eq_iff]
  exact eq_comm

theorem exists_mem_of_declarer? {name : String} {id : NodeId} (h : s.declarer? name = some id) :
    ∃ p, (p, id) ∈ s.entriesFrom [] root := by
  obtain ⟨e, he, rfl⟩ := Option.map_eq_some_iff.1 h
  exact ⟨e.1, List.mem_of_find?_eq_some he⟩

theorem root_mem_entriesFrom : ([], root) ∈ s.entriesFrom [] root := by
  rw [entriesFrom]
  exact List.mem_cons_self

theorem StartsAt.mem_entriesFrom {base : String} {start : Path} {id : NodeId}
    (h : s.StartsAt base start id) : (start, id) ∈ s.entriesFrom [] Schema.root := by
  cases h with
  | root => exact root_mem_entriesFrom
  | declared _ _ hstart => exact hstart

theorem start?_eq_some_iff (ho : s.Orderly) {base pointer : String} :
    (Index.ofSchema s).start? base = some pointer ↔
      ∃ start id, s.StartsAt base start id ∧ pointer = "#" ++ Pointer.render start := by
  constructor
  · intro h
    by_cases hbase : base = ""
    · subst hbase
      cases h
      exact ⟨[], root, .root, rfl⟩
    · have hnonempty : ¬base.isEmpty = true := by rwa [String.isEmpty_iff]
      rw [Index.start?, if_neg hnonempty, declared?_ofSchema] at h
      obtain ⟨id, hid, hpointer⟩ := Option.bind_eq_some_iff.1 h
      obtain ⟨start, hstart⟩ := exists_mem_of_declarer? hid
      rw [pointer?_of_mem_entries ho hstart] at hpointer
      exact ⟨start, id, .declared hbase hid hstart, (Option.some.inj hpointer).symm⟩
  · rintro ⟨start, id, hstarts, rfl⟩
    cases hstarts with
    | root => rfl
    | declared hbase hid hstart =>
      have hnonempty : ¬base.isEmpty = true := by rwa [String.isEmpty_iff]
      rw [Index.start?, if_neg hnonempty, declared?_ofSchema, hid, Option.bind_some,
        pointer?_of_mem_entries ho hstart]

end Schema

namespace Index

/-- The base has no `#`, and behind one stands the pointer of the way. A pointer may itself begin with a
`#`, so that there may be two. -/
inductive Spells (base : String) (way : Path) : String → Prop where
  | bare (hway : way = []) (hbase : '#' ∉ base.toList) : Spells base way base
  | pointer (hbase : '#' ∉ base.toList) : Spells base way (base ++ "#" ++ Pointer.render way)
  | doubled (hbase : '#' ∉ base.toList) : Spells base way (base ++ "##" ++ Pointer.render way)

theorem ne_hash_of_not_mem {cs : List Char} (h : '#' ∉ cs) : ∀ c ∈ cs, decide (c ≠ '#') = true := by
  intro c hc
  rw [decide_eq_true_eq]
  rintro rfl
  exact h hc

theorem splitHash_of_not_mem {base : String} (h : '#' ∉ base.toList) :
    splitHash base = (base, "") := by
  rw [splitHash, List.takeWhile_eq_self_iff.2 (ne_hash_of_not_mem h),
    List.dropWhile_eq_nil_iff.2 (ne_hash_of_not_mem h), String.ofList_toList]
  rfl

theorem splitHash_append {base : String} (h : '#' ∉ base.toList) (fragment : String) :
    splitHash (base ++ "#" ++ fragment) = (base, fragment) := by
  have hchars : (base ++ "#" ++ fragment).toList = base.toList ++ '#' :: fragment.toList := by
    rw [String.toList_append, String.toList_append, List.append_assoc]
    rfl
  rw [splitHash, hchars, List.takeWhile_append_of_pos (ne_hash_of_not_mem h),
    List.dropWhile_append_of_pos (ne_hash_of_not_mem h)]
  simp

/-- A text is what stands before its first `#`, and behind that the rest if there is one. -/
theorem splitHash_cases (reference : String) :
    ∃ base fragment, '#' ∉ base.toList ∧
      (reference = base ∧ fragment = "" ∨ reference = base ++ "#" ++ fragment) ∧
      splitHash reference = (base, fragment) := by
  by_cases h : '#' ∈ reference.toList
  · obtain ⟨before, after, heq, hbefore⟩ := List.eq_append_cons_of_mem h
    have hbase : '#' ∉ (String.ofList before).toList := by rwa [String.toList_ofList]
    have hreference : reference = String.ofList before ++ "#" ++ String.ofList after := by
      rw [← String.ofList_toList (s := reference), heq, ← List.singleton_append, ← List.append_assoc,
        String.ofList_append, String.ofList_append]
    rw [hreference]
    exact ⟨_, _, hbase, .inr rfl, splitHash_append hbase _⟩
  · exact ⟨reference, "", h, .inl ⟨rfl, rfl⟩, splitHash_of_not_mem h⟩

/-! ## References that are spelled out -/

theorem append_doubled (base rest : String) : base ++ "##" ++ rest = base ++ "#" ++ ("#" ++ rest) := by
  have htwo : "##" = "#" ++ "#" := rfl
  rw [htwo, String.append_assoc, String.append_assoc, String.append_assoc]

/-- What the base and the fragment of a reference spell. -/
theorem Spells.splitHash_eq {base : String} {way : Path} {reference : String}
    (h : Spells base way reference) :
    ∃ fragment, splitHash reference = (base, fragment) ∧
      Pointer.parse fragment = .ok (way.map Segment.reread) := by
  cases h with
  | bare hway hbase =>
    subst hway
    exact ⟨"", splitHash_of_not_mem hbase, rfl⟩
  | pointer hbase => exact ⟨_, splitHash_append hbase _, Pointer.parse_render way⟩
  | doubled hbase =>
    refine ⟨"#" ++ Pointer.render way, ?_, Pointer.parse_hash_render way⟩
    rw [append_doubled]
    exact splitHash_append hbase _

theorem spells_of_parse {base fragment reference : String} (hbase : '#' ∉ base.toList)
    (hreference : reference = base ∧ fragment = "" ∨ reference = base ++ "#" ++ fragment) {way : Path}
    (hway : Pointer.parse fragment = .ok way) : Spells base way reference := by
  rcases hreference with ⟨rfl, rfl⟩ | rfl
  · exact .bare (Except.ok.inj hway).symm hbase
  · rcases Pointer.eq_of_parse hway with rfl | rfl
    · exact .pointer hbase
    · rw [← append_doubled]
      exact .doubled hbase

theorem head?_reread_iff {way : Path} {name : String}
    (hname : (Segment.key name).reread = .key name) :
    (way.map Segment.reread).head? = some (.key name) ↔ way.head? = some (.key name) := by
  cases way with
  | nil => exact Iff.rfl
  | cons first rest =>
    rw [List.map_cons, List.head?_cons, List.head?_cons, Option.some.injEq, Option.some.injEq]
    constructor
    · exact Segment.eq_of_reread_eq_key
    · rintro rfl
      exact hname

section Resolve

variable {s : Schema} {base reference : String} {way : Path}

theorem resolve_of_not_spells (hdeclared : s.declarer? reference = none)
    (h : ∀ base way, ¬Spells base way reference) :
    (ofSchema s).resolve reference = .error (.unresolvedRef reference) := by
  obtain ⟨base, fragment, hbase, hreference, hsplit⟩ := splitHash_cases reference
  rw [resolve, Schema.declared?_ofSchema, hdeclared, hsplit]
  dsimp only
  cases hparse : Pointer.parse fragment with
  | error e => rfl
  | ok way => exact absurd (spells_of_parse hbase hreference hparse) (h base way)

theorem resolve_of_spells (hdeclared : s.declarer? reference = none)
    (h : Spells base way reference) :
    (ofSchema s).resolve reference =
      if way.head? = some (.key "$defs") then .error (.unsupported "$defs")
      else (((ofSchema s).start? base).bind fun start =>
        (ofSchema s).at? (start ++ Pointer.render way)).elim (.error (.unresolvedRef reference)) .ok := by
  obtain ⟨fragment, hsplit, hparse⟩ := h.splitHash_eq
  have hhead : (way.map Segment.reread).head? = some (.key "$defs") ↔
      way.head? = some (.key "$defs") := head?_reread_iff (by decide)
  rw [resolve, Schema.declared?_ofSchema, hdeclared, hsplit]
  dsimp only
  rw [hparse]
  dsimp only
  rw [Pointer.render_reread]
  simp only [hhead]
  split
  · rfl
  · cases ((ofSchema s).start? base).bind fun start => (ofSchema s).at? (start ++ Pointer.render way) <;> rfl

theorem bind_start?_eq_some_iff (ho : s.Orderly) {target : NodeId} :
    (((ofSchema s).start? base).bind fun start => (ofSchema s).at? (start ++ Pointer.render way)) =
        some target ↔
      ∃ start id, s.StartsAt base start id ∧ s.lastAt? (start ++ way) = some target := by
  have hat (start : Path) : (ofSchema s).at? ("#" ++ Pointer.render start ++ Pointer.render way) =
      s.lastAt? (start ++ way) := by
    rw [String.append_assoc, ← Pointer.render_append, Schema.at?_ofSchema]
  rw [Option.bind_eq_some_iff]
  simp only [Schema.start?_eq_some_iff ho]
  constructor
  · rintro ⟨_, ⟨start, id, hstart, rfl⟩, htarget⟩
    exact ⟨start, id, hstart, hat start ▸ htarget⟩
  · rintro ⟨start, id, hstart, htarget⟩
    exact ⟨_, ⟨start, id, hstart, rfl⟩, hat start ▸ htarget⟩

theorem resolve_of_declarer? {id : NodeId} (h : s.declarer? reference = some id) :
    (ofSchema s).resolve reference = .ok id := by
  rw [resolve, Schema.declared?_ofSchema, h]

theorem resolve_eq_ok_iff (ho : s.Orderly) (hdeclared : s.declarer? reference = none)
    {target : NodeId} :
    (ofSchema s).resolve reference = .ok target ↔ ∃ base way, Spells base way reference ∧
      way.head? ≠ some (.key "$defs") ∧
      ∃ start id, s.StartsAt base start id ∧ s.lastAt? (start ++ way) = some target := by
  constructor
  · intro h
    by_cases hspells : ∃ base way, Spells base way reference
    · obtain ⟨base, way, hspells⟩ := hspells
      rw [resolve_of_spells hdeclared hspells] at h
      split at h
      · cases h
      · next hdefs =>
        refine ⟨base, way, hspells, hdefs, (bind_start?_eq_some_iff ho).1 ?_⟩
        cases hat : ((ofSchema s).start? base).bind _ with
        | none =>
          rw [hat] at h
          cases h
        | some id =>
          rw [hat] at h
          exact congrArg some (Except.ok.inj h)
    · simp only [not_exists] at hspells
      rw [resolve_of_not_spells hdeclared hspells] at h
      cases h
  · rintro ⟨base, way, hspells, hdefs, hat⟩
    rw [resolve_of_spells hdeclared hspells, if_neg hdefs, (bind_start?_eq_some_iff ho).2 hat]
    rfl

theorem cases_of_resolve_eq_error (hdeclared : s.declarer? reference = none) {e : SchemaError}
    (h : (ofSchema s).resolve reference = .error e) :
    e = .unresolvedRef reference ∨ e = .unsupported "$defs" ∧
      ∃ base way, Spells base way reference ∧ way.head? = some (.key "$defs") := by
  by_cases hspells : ∃ base way, Spells base way reference
  · obtain ⟨base, way, hspells⟩ := hspells
    rw [resolve_of_spells hdeclared hspells] at h
    split at h
    · next hdefs =>
      cases h
      exact .inr ⟨rfl, base, way, hspells, hdefs⟩
    · cases hat : ((ofSchema s).start? base).bind _ with
      | none =>
        rw [hat] at h
        cases h
        exact .inl rfl
      | some id =>
        rw [hat] at h
        cases h
  · simp only [not_exists] at hspells
    rw [resolve_of_not_spells hdeclared hspells] at h
    cases h
    exact .inl rfl

end Resolve

/-! ## The grammar of references -/

/-- The index follows the grammar: a reference is a name that is declared, or a base and a way. -/
structure Follows (ix : Index) (s : Schema) : Prop where
  /-- A name that is declared means the node that declares it. -/
  declared : ∀ reference id, s.declarer? reference = some id → ix.resolve reference = .ok id
  empty : s.declarer? "" = none → ix.resolve "" = .ok Schema.root
  hash : s.declarer? "#" = none → ix.resolve "#" = .ok Schema.root
  /-- All else that means a node spells out where to start and how to go on. -/
  resolved : ∀ reference target, s.declarer? reference = none →
    (ix.resolve reference = .ok target ↔ ∃ base way, Spells base way reference ∧
      way.head? ≠ some (.key "$defs") ∧
      ∃ start id, s.StartsAt base start id ∧ s.lastAt? (start ++ way) = some target)
  /-- If no keyword lists a key twice, the way goes on from the node where the reference starts. -/
  below : s.KeysDistinct → ∀ base start id way target, s.StartsAt base start id →
    (s.lastAt? (start ++ way) = some target ↔
      ∃ p, Path.texts p = Path.texts way ∧ (p, target) ∈ s.entriesFrom [] id)
  unsupported : ∀ reference feature, s.declarer? reference = none →
    (ix.resolve reference = .error (.unsupported feature) ↔
      feature = "$defs" ∧ ∃ base way, Spells base way reference ∧ way.head? = some (.key "$defs"))
  unresolved : ∀ reference e, ix.resolve reference = .error e →
    e = .unsupported "$defs" ∨ e = .unresolvedRef reference

end Index

namespace Schema

section LastAt

variable {s : Schema} {p : Path}

theorem mem_of_lastAt? {id : NodeId} (h : s.lastAt? p = some id) :
    ∃ q, Path.texts q = Path.texts p ∧ (q, id) ∈ s.entriesFrom [] root := by
  obtain ⟨e, he, rfl⟩ := Option.map_eq_some_iff.1 h
  have htexts := List.find?_some he
  exact ⟨e.1, by simpa using htexts, List.mem_reverse.1 (List.mem_of_find?_eq_some he)⟩

theorem lastAt?_eq_of_unique {e : Path × NodeId} (he : e ∈ s.entriesFrom [] root)
    (htexts : Path.texts e.1 = Path.texts p)
    (hunique : ∀ e' ∈ s.entriesFrom [] root, Path.texts e'.1 = Path.texts p → e' = e) :
    s.lastAt? p = some e.2 := by
  unfold lastAt?
  cases hfind : (s.entriesFrom [] root).reverse.find? fun e => Path.texts e.1 == Path.texts p with
  | none =>
    have hnone := List.find?_eq_none.1 hfind e (List.mem_reverse.2 he)
    exact absurd (beq_iff_eq.2 htexts) hnone
  | some e' =>
    have hmem := List.mem_reverse.1 (List.mem_of_find?_eq_some hfind)
    have hsame : Path.texts e'.1 = Path.texts p := by simpa using List.find?_some hfind
    rw [hunique e' hmem hsame]
    rfl

theorem lastAt?_eq_some_iff (h : s.KeysDistinct) (ho : s.Orderly) {target : NodeId} :
    s.lastAt? p = some target ↔
      ∃ q, Path.texts q = Path.texts p ∧ (q, target) ∈ s.entriesFrom [] root := by
  constructor
  · exact mem_of_lastAt?
  · rintro ⟨q, htexts, hq⟩
    refine lastAt?_eq_of_unique hq htexts fun e he hsame => ?_
    exact h.eq_of_texts_eq ho he hq (hsame.trans htexts.symm)

theorem lastAt?_nil : s.lastAt? [] = some root := by
  refine lastAt?_eq_of_unique root_mem_entriesFrom rfl ?_
  rintro ⟨q, id⟩ he hq
  obtain rfl := List.map_eq_nil_iff.1 hq
  rw [entriesFrom] at he
  rcases List.mem_cons.1 he with heq | he
  · exact heq
  · obtain ⟨c, hc, he⟩ := List.mem_flatMap.1 he
    split at he
    · obtain ⟨p, hp, _⟩ := mem_entriesFrom_iff.1 he
      rw [List.nil_append] at hp
      exact absurd (List.append_eq_nil_iff.1 hp.symm).1 (path_ne_nil_of_mem_children hc)
    · cases he

end LastAt

/-- The index of every schema that can be built, edited or loaded follows the grammar. -/
theorem Assembled.follows {s : Schema} (h : s.Assembled) : (Index.ofSchema s).Follows s := by
  have ho := h.orderly
  have hroot (reference : String) (hdeclared : s.declarer? reference = none)
      (hspells : Index.Spells "" [] reference) : (Index.ofSchema s).resolve reference = .ok root :=
    (Index.resolve_eq_ok_iff ho hdeclared).2
      ⟨"", [], hspells, nofun, [], root, .root, lastAt?_nil⟩
  constructor
  case declared => exact fun _ _ => Index.resolve_of_declarer?
  case empty => exact fun hdeclared => hroot _ hdeclared (.bare rfl List.not_mem_nil)
  case hash => exact fun hdeclared => hroot _ hdeclared (.pointer List.not_mem_nil)
  case resolved => exact fun _ _ hdeclared => Index.resolve_eq_ok_iff ho hdeclared
  case below =>
    intro hkeys base start id way target hstart
    exact (lastAt?_eq_some_iff hkeys ho).trans (hkeys.exists_spelled_iff ho hstart.mem_entriesFrom)
  case unsupported =>
    intro reference feature hdeclared
    constructor
    · intro herror
      rcases Index.cases_of_resolve_eq_error hdeclared herror with heq | ⟨heq, hspells⟩
      · cases heq
      · cases heq
        exact ⟨rfl, hspells⟩
    · rintro ⟨rfl, base, way, hspells, hdefs⟩
      rw [Index.resolve_of_spells hdeclared hspells, if_pos hdefs]
  case unresolved =>
    intro reference e herror
    cases hdeclared : s.declarer? reference with
    | none =>
      rcases Index.cases_of_resolve_eq_error hdeclared herror with heq | ⟨heq, _⟩
      · exact .inr heq
      · exact .inl heq
    | some id =>
      rw [Index.resolve_of_declarer? hdeclared] at herror
      cases herror

/-! ### A name, a pointer from it, and a `#` too many -/

def namedDocument : Json :=
  .object [("properties", .object [("a/b", .object [("type", .string "number")]),
    ("user", .object [("$id", .string "user"),
      ("properties", .object [("id", .object [("type", .string "integer")])])])])]

def namedSchema : Schema where
  nodes := #[
    { kind := .any, keywords := [.keyed .properties [("a/b", 1), ("user", 2)]] },
    { kind := .number, keywords := [.leaf (.types [.number])], optional := true },
    { kind := .any, keywords := [.leaf (.id "user"), .keyed .properties [("id", 3)]]
      optional := true },
    { kind := .integer, keywords := [.leaf (.types [.integer])], optional := true }]

theorem ofJson_namedDocument : ofJson namedDocument = .ok namedSchema := by
  with_unfolding_all rfl

theorem entriesFrom_named : namedSchema.entriesFrom [] root =
    [([], 0), ([.key "properties", .key "a/b"], 1), ([.key "properties", .key "user"], 2),
      ([.key "properties", .key "user", .key "properties", .key "id"], 3)] := by
  with_unfolding_all rfl

theorem follows_named :
    namedSchema.Assembled ∧ namedSchema.KeysDistinct ∧
      (Index.ofSchema namedSchema).Follows namedSchema ∧
      (Index.ofSchema namedSchema).resolve "user#/properties/id" = .ok 3 := by
  have hassembled : namedSchema.Assembled := .loaded ofJson_namedDocument
  have hkeys : namedSchema.KeysDistinct := keysDistinct_ofJson (by decide) ofJson_namedDocument
  exact ⟨hassembled, hkeys, hassembled.follows, by with_unfolding_all rfl⟩

/-- A base, which is empty or declared, alone or with a `#` and a pointer behind it. -/
def Documented (s : Schema) (reference : String) : Prop :=
  ∃ base pointer : String, (base = "" ∨ ∃ id, s.declarer? base = some id) ∧
    (pointer = "" ∨ pointer.toList.head? = some '/') ∧
    (reference = base ∨ reference = base ++ "#" ++ pointer)

theorem eq_user_of_declarer? {base : String} {id : NodeId}
    (h : namedSchema.declarer? base = some id) : base = "user" := by
  have hnames : ∀ e ∈ namedSchema.entriesFrom [] root,
      ∀ name ∈ (namedSchema.node? e.2).bind (·.id?), name = "user" := by
    rw [entriesFrom_named]
    decide
  obtain ⟨e, he, _⟩ := Option.map_eq_some_iff.1 h
  have hname := List.find?_some he
  exact hnames e (List.mem_of_find?_eq_some he) base (beq_iff_eq.1 hname)

/-- The parser of pointers passes over the second `#`. -/
theorem doubled_hash_resolves :
    namedSchema.declarer? "##/properties/a~1b" = none ∧
      (Index.ofSchema namedSchema).resolve "##/properties/a~1b" = .ok 1 ∧
      ¬namedSchema.Documented "##/properties/a~1b" := by
  refine ⟨by with_unfolding_all rfl, by with_unfolding_all rfl, ?_⟩
  rintro ⟨base, pointer, hbase, hpointer, hreference⟩
  obtain rfl | rfl : base = "" ∨ base = "user" := hbase.imp_right fun ⟨_, h⟩ => eq_user_of_declarer? h
  · rcases hreference with h | h
    · exact absurd h (by decide)
    · have hchars := congrArg String.toList h
      have hhash : pointer.toList = '#' :: "/properties/a~1b".toList := by
        simpa using hchars.symm
      rw [← String.toList_inj, hhash] at hpointer
      simp at hpointer
  · rcases hreference with h | h
    · exact absurd h (by decide)
    · have hchars := congrArg (·.toList.head?) h
      simp at hchars

end Schema

end JsonSchema
