import JsonSchema.Proofs.Building.Construction
import JsonSchema.Proofs.Building.Marks
import JsonSchema.Proofs.Building.Tree
import JsonSchema.Proofs.Comparison.Twins

/-!
# Copies of schemas inside other schemas

A schema that is taken in is copied, with its places moved. Whatever is done at the root afterwards, the
copy stays as it is. Only the copy of a schema's own root may be marked, as a property that may be absent.
A schema without references asks nothing but its own nodes. So a run that begins at the root of a copy of it
takes each step that the run in the schema itself takes, with the same number of hops.
-/

namespace JsonSchema

open Comparison Schema

namespace Schema

/-- From the place on there is a copy of the nodes of `c` that `D` holds of, and of these the root of the
whole holds the first one at most. -/
structure CopiedOn (D : NodeId → Prop) (c s : Schema) (place : NodeId) : Prop where
  pos : root < place
  size : place + c.size ≤ s.size
  node : ∀ id n, D id → c.node? id = some n → ∃ optional, (id ≠ root → optional = n.optional) ∧
    s.node? (id + place) = some { n.mapIds (· + place) with optional := optional }
  apart : ∀ n, s.node? root = some n → ∀ held ∈ n.places, held ≤ place ∨ place + c.size ≤ held

namespace CopiedOn

variable {D : NodeId → Prop} {c s : Schema} {place : NodeId}

theorem imp {D' : NodeId → Prop} (h : CopiedOn D c s place) (hD : ∀ id, D' id → D id) :
    CopiedOn D' c s place where
  pos := h.pos
  size := h.size
  node := fun id n hid hn => h.node id n (hD id hid) hn
  apart := h.apart

/-- A copy of a copy is a copy. -/
theorem trans {t : Schema} {place' : NodeId} (h : CopiedOn D c s place)
    (h' : CopiedOn (fun _ => True) s t place') : CopiedOn D c t (place + place') where
  pos := Nat.add_pos_left h.pos place'
  size := by
    have hinner := h.size
    have houter := h'.size
    dsimp only [NodeId] at *
    omega
  node := by
    intro id n hid hn
    -- Moving twice is moving by the sum, and only the first node of either copy has a mark of its
    -- own.
    obtain ⟨mark, hmark, hnode⟩ := h.node id n hid hn
    obtain ⟨mark', hmark', hnode'⟩ := h'.node (id + place) _ trivial hnode
    refine ⟨mark', fun hne => ?_, ?_⟩
    · rw [hmark' (Nat.ne_of_gt (Nat.add_pos_right id h.pos)), hmark hne]
    · have hmoved := n.mapIds_mapIds (· + place) (· + place')
      simp only [Nat.add_assoc] at hmoved hnode'
      rw [hnode', ← hmoved]
      rfl
  apart := by
    intro n hn held hheld
    have hinner := h.size
    have hapart := h'.apart n hn held hheld
    dsimp only [NodeId] at *
    omega

/-! ## Changes at the root -/

theorem modifyRoot (h : CopiedOn D c s place) {f : Node → Node}
    (hplaces : ∀ n, ∀ held ∈ (f n).places, held ∈ n.places ∨ held ≤ place ∨ place + c.size ≤ held) :
    CopiedOn D c (s.modifyRoot f) place where
  pos := h.pos
  size := by
    rw [Schema.modifyRoot, size_modify]
    exact h.size
  node := by
    intro id n hid hn
    have hne : root ≠ id + place := Nat.ne_of_lt (Nat.add_pos_right id h.pos)
    rw [Schema.modifyRoot, node?_modify, if_neg hne]
    exact h.node id n hid hn
  apart := by
    intro n hn held hheld
    rw [Schema.modifyRoot, node?_modify, if_pos rfl] at hn
    obtain ⟨old, hold, rfl⟩ := Option.map_eq_some_iff.1 hn
    rcases hplaces old held hheld with hmem | hapart
    · exact h.apart old hold held hmem
    · exact hapart

theorem setKeyword (h : CopiedOn D c s place) {k : Keyword}
    (hk : ∀ held ∈ k.places, held ≤ place ∨ place + c.size ≤ held) :
    CopiedOn D c (s.setKeyword k) place :=
  h.modifyRoot fun _ held hheld => (Node.mem_places_setKeyword hheld).symm.imp id (hk held)

theorem adoptAll (h : CopiedOn D c s place) (cs : List Schema) :
    CopiedOn D c (s.adoptAll cs).1 place where
  pos := h.pos
  size := by
    rw [size_adoptAll]
    exact Nat.le_add_right_of_le h.size
  node := by
    intro id n hid hn
    obtain ⟨mark, hmark, hnode⟩ := h.node id n hid hn
    refine ⟨mark, hmark, ?_⟩
    rw [node?_adoptAll s cs (lt_size_of_node? hnode)]
    exact hnode
  apart := by
    intro n hn
    have hroot : root < s.size :=
      Nat.lt_of_lt_of_le h.pos (Nat.le_trans (Nat.le_add_right _ _) h.size)
    rw [node?_adoptAll s cs hroot] at hn
    exact h.apart n hn

theorem setChildren (h : CopiedOn D c s place) (cs : List Schema) {k : Keyword}
    (hk : k.places.Sublist (s.adoptAll cs).2) :
    CopiedOn D c ((s.adoptAll cs).1.setKeyword k) place :=
  (h.adoptAll cs).setKeyword fun _ hheld =>
    .inr (Nat.le_trans h.size (le_of_mem_adoptAll (hk.subset hheld)))

theorem setSingle (h : CopiedOn D c s place) (slot : Slot) (child : Schema) :
    CopiedOn D c (s.setSingle slot child) place :=
  h.setChildren [child] (k := .single slot s.size) (List.Sublist.refl _)

theorem setKeyed (h : CopiedOn D c s place) (slot : KeyedSlot) (entries : List (String × Schema)) :
    CopiedOn D c (s.setKeyed slot entries) place := by
  refine h.setChildren _ ?_
  rw [Orderly.places_keyed]
  exact Orderly.map_snd_zip_sublist _ _

theorem syncRequired (h : CopiedOn D c s place) : CopiedOn D c (s.syncRequired root) place := by
  unfold Schema.syncRequired
  split
  · exact h
  · refine h.modifyRoot fun n held hheld => .inl ?_
    split at hheld
    · have hle := n.count_places_removeKeyword_le "required" held
      have hpos := List.count_pos_iff.2 hheld
      exact List.count_pos_iff.1 (by omega)
    · rcases Node.mem_places_setKeyword hheld with hnew | hold
      · cases hnew
      · exact hold

theorem close (h : CopiedOn D c s place) : CopiedOn D c s.close place := by
  unfold Schema.close
  dsimp only
  split
  · exact h.syncRequired
  · exact h.syncRequired.setSingle _ _

/-- Of the nodes of the copy only the first one can be marked. -/
theorem foldl_optional (h : CopiedOn D c s place) {entries : List (String × NodeId)}
    (hentries : ∀ e ∈ entries, e.2 ≤ place ∨ place + c.size ≤ e.2) :
    CopiedOn D c (entries.foldl (fun s e => s.modify e.2 fun n => { n with optional := true }) s)
      place where
  pos := h.pos
  size := by
    refine List.foldlRecOn (motive := fun t : Schema => place + c.size ≤ t.size) _ _ h.size ?_
    intro t ht e _
    rwa [size_modify]
  node := by
    intro id n hid hn
    obtain ⟨mark, hmark, hnode⟩ := h.node id n hid hn
    rw [node?_foldl_optional]
    split
    · next hmem =>
      refine ⟨true, fun hne => absurd ?_ hne, by rw [hnode]; rfl⟩
      obtain ⟨e, he, heq⟩ := List.mem_map.1 hmem
      have hlt := lt_size_of_node? hn
      have hapart := hentries e he
      dsimp only [NodeId, root] at *
      omega
    · exact ⟨mark, hmark, hnode⟩
  apart := by
    intro n hn held hheld
    rw [node?_foldl_optional] at hn
    split at hn
    · obtain ⟨old, hold, rfl⟩ := Option.map_eq_some_iff.1 hn
      exact h.apart old hold held hheld
    · exact h.apart n hn held hheld

theorem loosen (h : CopiedOn D c s place) : CopiedOn D c s.loosen place := by
  refine syncRequired (h.foldl_optional fun e he => ?_)
  cases hn : s.node? root with
  | none =>
    rw [hn] at he
    cases he
  | some n =>
    rw [hn] at he
    exact h.apart n hn e.2 (Node.mem_places_of_properties he)

theorem lasting (D : NodeId → Prop) (c : Schema) (place : NodeId) :
    LastingWith (fun _ => True) fun s => CopiedOn D c s place where
  leaf := fun h _ => h.setKeyword nofun
  single := fun h _ slot => h.setSingle slot _
  listed := by
    intro s cs h _ slot
    refine h.setChildren _ ?_
    rw [Orderly.places_listed]
  keyed := fun h _ slot => h.setKeyed slot _
  patterns := by
    intro s es t h _ ht
    obtain ⟨_, _, ht⟩ := Except.bind_eq_ok_iff.1 ht
    cases ht
    refine h.setChildren _ ?_
    rw [Orderly.places_patterns]
    exact Orderly.map_snd_zip_sublist _ _
  root := by
    intro s h f _ hkeywords
    refine h.modifyRoot fun n held hheld => .inl ?_
    rwa [Node.places, hkeywords] at hheld
  close := close
  loosen := loosen

theorem tie (h : CopiedOn D c s place)
    (hholes : ∀ id n, D id → c.node? id = some n → ∀ token, n.kind ≠ .hole token) (token : Nat) :
    CopiedOn D c (s.tie token) place where
  pos := h.pos
  size := by
    rw [size_tie]
    exact h.size
  node := by
    intro id n hid hn
    obtain ⟨mark, hmark, hnode⟩ := h.node id n hid hn
    refine ⟨mark, hmark, ?_⟩
    have hhole : (n.mapIds (· + place)).kind ≠ .hole token :=
      mt Node.kind_mapIds_eq_hole_iff.1 (hholes id n hid hn token)
    rw [node?_tie, hnode, Option.map_some, if_neg hhole]
  apart := by
    intro n hn held hheld
    obtain ⟨old, hold, hkeywords, _⟩ := node?_tie_cases hn
    rw [Node.places, hkeywords] at hheld
    exact h.apart old hold held hheld

end CopiedOn

/-! ## Taking in schemas -/

/-- Where the nodes of one of the schemas begin that are taken in one after the other. -/
def beginning (s : Schema) (cs : List Schema) (i : Nat) : NodeId := s.size + ((cs.take i).map size).sum

theorem beginning_succ (s c : Schema) (cs : List Schema) (i : Nat) :
    s.beginning (c :: cs) (i + 1) = (s.adopt c).1.beginning cs i := by
  rw [beginning, beginning, List.take_succ_cons, List.map_cons, List.sum_cons, size_adopt, Nat.add_assoc]

theorem getElem?_adoptAll (s : Schema) {cs : List Schema} {i : Nat} (hi : i < cs.length) :
    (s.adoptAll cs).2[i]? = some (s.beginning cs i) := by
  induction cs generalizing s i with
  | nil => exact absurd hi (Nat.not_lt_zero i)
  | cons c cs ih =>
    rw [Orderly.adoptAll_cons]
    cases i with
    | zero => rfl
    | succ i =>
      rw [beginning_succ]
      exact ih _ (Nat.lt_of_succ_lt_succ hi)

theorem mem_zip_adoptAll {α : Type} {s c : Schema} {keys : List α} {cs : List Schema} {i : Nat} {key : α}
    (hkey : keys[i]? = some key) (hc : cs[i]? = some c) :
    (key, s.beginning cs i) ∈ keys.zip (s.adoptAll cs).2 :=
  List.mem_of_getElem? (List.getElem?_zip_eq_some.2
    ⟨hkey, s.getElem?_adoptAll (List.getElem?_eq_some_iff.1 hc).1⟩)

namespace Orderly

variable {s c : Schema} (hs : s.Orderly)
include hs

theorem copied_adopt (c : Schema) : CopiedOn (fun _ => True) c (s.adopt c).1 s.size where
  pos := hs.nonempty
  size := Nat.le_of_eq (size_adopt s c).symm
  node := by
    intro id n _ hn
    refine ⟨n.optional, fun _ => rfl, ?_⟩
    rw [Nat.add_comm, node?_adopt_right, hn]
    rfl
  apart := by
    intro n hn held hheld
    have hroot : root < s.size := hs.nonempty
    rw [node?_adopt_left s c hroot] at hn
    exact .inl (Nat.le_of_lt (hs.below root n hn held hheld).2)

theorem copied_adoptAll {cs : List Schema} (hcs : ∀ c ∈ cs, c.Orderly) {i : Nat}
    (hc : cs[i]? = some c) :
    CopiedOn (fun _ => True) c (s.adoptAll cs).1 (s.beginning cs i) ∧
      ∀ id ∈ (s.adoptAll cs).2, id ≤ s.beginning cs i ∨ s.beginning cs i + c.size ≤ id := by
  induction cs generalizing s i with
  | nil => cases hc
  | cons first cs ih =>
    obtain ⟨hfirst, hrest⟩ := List.forall_mem_cons.1 hcs
    rw [adoptAll_cons]
    cases i with
    | zero =>
      cases hc
      refine ⟨(hs.copied_adopt c).adoptAll cs, List.forall_mem_cons.2 ⟨.inl (Nat.le_refl _), ?_⟩⟩
      intro id hid
      have hle := le_of_mem_adoptAll hid
      rw [size_adopt] at hle
      exact .inr hle
    | succ i =>
      rw [beginning_succ]
      obtain ⟨hcopied, hapart⟩ := ih (hs.adopt hfirst) hrest hc
      refine ⟨hcopied, List.forall_mem_cons.2 ⟨.inl ?_, hapart⟩⟩
      rw [beginning, size_adopt, Nat.add_assoc]
      exact Nat.le_add_right _ _

theorem copied_setChildren {cs : List Schema} (hcs : ∀ c ∈ cs, c.Orderly) {i : Nat}
    (hc : cs[i]? = some c) {k : Keyword} (hk : k.places.Sublist (s.adoptAll cs).2) :
    CopiedOn (fun _ => True) c ((s.adoptAll cs).1.setKeyword k) (s.beginning cs i) := by
  obtain ⟨hcopied, hapart⟩ := hs.copied_adoptAll hcs hc
  exact hcopied.setKeyword fun held hheld => hapart held (hk.subset hheld)

end Orderly

end Schema

/-! ## Runs in a copy -/

/-- No node that the root leads to has a reference or is a placeholder. -/
def Schema.SelfContained (s : Schema) : Prop :=
  ∀ id n, s.Within id root → s.node? id = some n →
    n.reference? = none ∧ ∀ token, n.kind ≠ .hole token

namespace Context

/-- The second context holds a copy of what the root of the first one's schema leads to. -/
structure Copied (c c' : Context) (place : NodeId) : Prop where
  orderly : c.schema.Orderly
  nested : c.schema.Nested
  selfContained : c.schema.SelfContained
  nodes : CopiedOn (c.schema.Within · root) c.schema c'.schema place
  formats : c.formats = c'.formats
  shortCircuit : c.shortCircuit = c'.shortCircuit
  ignoreUnsupported : c.ignoreUnsupported = c'.ignoreUnsupported

/-- The places of a node's child and of its copy. -/
structure Beside (c c' : Context) (place id x y : NodeId) : Prop where
  moved : y = x + place
  within : c.schema.Within x root
  below : c.schema.Below id x
  below' : c'.schema.Below (id + place) y

namespace Copied

variable {c c' : Context} {place : NodeId} (h : c.Copied c' place)
include h

theorem alike {id : NodeId} {n : Node} {optional : Bool} (hid : c.schema.Within id root)
    (hn : c.schema.node? id = some n) (hlink : ∀ target, n.kind ≠ .link target) :
    n.Alike Eq (c.Beside c' place id) { n.mapIds (· + place) with optional := optional } where
  kind := (Node.kind_mapIds_of_not_link hlink _).symm
  hooks := rfl
  keywords := by
    refine Node.alike_mapIds fun x hx => ?_
    have hbelow := h.orderly.below id n hn x hx
    have hsize := h.nodes.size
    refine ⟨rfl, hid.head ⟨n, hn, hx⟩, hbelow, ?_, ?_⟩
    · exact Nat.add_lt_add_right hbelow.1 place
    · have hlt := hbelow.2
      dsimp only [NodeId] at *
      omega

/-- Runs take a link on both sides, or go on below two nodes that say the same. -/
theorem induction {motive : Nat → NodeId → Prop}
    (link : ∀ hops id target, c.schema.kind? id = some (.link target) →
      c'.schema.kind? (id + place) = some (.link (target + place)) →
      (hops < maxHops → motive (hops + 1) target) → motive hops id)
    (node : ∀ hops id n n', c.schema.node? id = some n → c'.schema.node? (id + place) = some n' →
      (∀ target, n.kind ≠ .link target) → n.reference? = none →
      n.Alike Eq (c.Beside c' place id) n' →
      (∀ x, c.schema.Within x root → c.schema.Below id x → motive hops x) → motive hops id)
    {id : NodeId} (hid : c.schema.Within id root) (hops : Nat) : motive hops id := by
  refine run_induction (s := c.schema)
    (motive := fun hops id => c.schema.Within id root → motive hops id) ?_ hops id hid
  intro hops id hnext hchild hid
  rcases c.schema.cases_node? id with hnone | ⟨target, hkind⟩ | ⟨n, hn, hlink⟩
  -- Nothing stands outside the schema, and a run does not leave it.
  · rw [node?, Array.getElem?_eq_none_iff] at hnone
    exact absurd (h.orderly.lt_size_of_within hid) (Nat.not_lt.2 hnone)
  · obtain ⟨htarget, _⟩ := h.nested.within_of_link h.orderly hkind hid
    refine link hops id target hkind ?_ fun hlt => hnext hlt target htarget
    obtain ⟨n, hn, hkind⟩ := Option.map_eq_some_iff.1 hkind
    obtain ⟨_, _, hn'⟩ := h.nodes.node id n hid hn
    rw [kind?, hn', Option.map_some, Node.mapIds, hkind]
    rfl
  · obtain ⟨_, _, hn'⟩ := h.nodes.node id n hid hn
    exact node hops id n _ hn hn' hlink (h.selfContained id n hid hn).1 (h.alike hid hn hlink)
      fun x hx hbelow => hchild x hbelow hx

theorem follow {id : NodeId} (hid : c.schema.Within id root) (hops : Nat) :
    exact.Agree (fun a b => c.schema.kind? a.2 = c'.schema.kind? b.2) (c.schema.follow hops id)
      (c'.schema.follow hops (id + place)) := by
  refine h.induction (motive := fun hops id =>
    exact.Agree (fun a b => c.schema.kind? a.2 = c'.schema.kind? b.2) (c.schema.follow hops id)
      (c'.schema.follow hops (id + place))) ?_ ?_ hid hops
  · intro hops id target hkind hkind' ih
    rw [follow_link hkind, follow_link hkind']
    split
    · next hlt => exact ih hlt
    · exact .error _
  · intro hops id n n' hn hn' hlink _ halike _
    have hlink' : ∀ target, n'.kind ≠ .link target := fun target => halike.kind ▸ hlink target
    rw [follow_of_node hn hlink, follow_of_node hn' hlink']
    refine .ok ?_
    rw [kind?, kind?, hn, hn', Option.map_some, Option.map_some, halike.kind]

theorem check {id : NodeId} (hid : c.schema.Within id root) (hops : Nat) (v : Json)
    (at_ : Location) : c.check hops id (some v) at_ = c'.check hops (id + place) (some v) at_ := by
  refine h.induction (motive := fun hops id => ∀ v at_,
    c.check hops id (some v) at_ = c'.check hops (id + place) (some v) at_) ?_ ?_ hid hops v at_
  · intro hops id target hkind hkind' ih v at_
    rw [check_link hkind, check_link hkind']
    exact if_ctx_congr Iff.rfl (fun hlt => ih hlt v at_) fun _ => rfl
  · intro hops id n n' hn hn' hlink href halike ih v at_
    have hlink' : ∀ target, n'.kind ≠ .link target := fun target => halike.kind ▸ hlink target
    have hchild : ∀ x y, c.Beside c' place id x y → ∀ v, exact.values v →
        ∀ p q, exact.locations p q → exact.Agree exact.failures (c.judgeBelow hops id x v p)
          (c'.judgeBelow hops (id + place) y v q) := by
      rintro x y ⟨rfl, hx, hbelow, hbelow'⟩ v _ p _ rfl
      rw [judgeBelow_of_below hbelow, judgeBelow_of_below hbelow']
      exact exact_of_eq (ih x hx hbelow v p)
    rw [check_of_node hn hlink, check_of_node hn' hlink']
    refine eq_of_exact (agree_answer (C := exact) halike (fun l _ heq => heq ▸ .refl l) trivial rfl
      h.shortCircuit h.ignoreUnsupported (halike.rel_rejection? _ _) ?_ hchild ?_ ?_)
    · intro reference hsome
      rw [href] at hsome
      cases hsome
    · rintro l _ rfl v _ p _ rfl
      rw [h.formats]
      exact exact_same _
    · rintro x y hxy ms hms p q hat
      refine agree_checkExtra hchild hat ?_ (Node.isExtra_eq halike.keywords) hxy hms
      obtain ⟨rfl, hx, _, _⟩ := hxy
      exact h.follow hx hops

theorem coerce {id : NodeId} (hid : c.schema.Within id root) (options : CoerceOptions) (hops : Nat)
    (v : Json) : c.coerce options hops id v = c'.coerce options hops (id + place) v := by
  refine h.induction (motive := fun hops id => ∀ v,
    c.coerce options hops id v = c'.coerce options hops (id + place) v) ?_ ?_ hid hops v
  · intro hops id target hkind hkind' ih v
    rw [coerce_link hkind, coerce_link hkind']
    exact if_ctx_congr Iff.rfl (fun hlt => ih hlt v) fun _ => rfl
  · intro hops id n n' hn hn' hlink href halike ih v
    have hlink' : ∀ target, n'.kind ≠ .link target := fun target => halike.kind ▸ hlink target
    rw [coerce_of_node hn hlink, coerce_of_node hn' hlink']
    refine eq_of_exact (agree_converted (C := exact) halike (fun l _ heq => heq ▸ .refl l) ?_ ?_ ?_ ?_ v)
    · intro reference hsome
      rw [href] at hsome
      cases hsome
    · rintro x y ⟨rfl, hx, hbelow, hbelow'⟩ v
      rw [convertBelow_of_below hbelow, convertBelow_of_below hbelow']
      exact exact_of_eq (ih x hx hbelow v)
    · refine Coercion.isStrict_eq halike.keywords ?_
      rintro x y ⟨rfl, hx, hbelow, _⟩
      obtain ⟨m, hm⟩ : ∃ m, c.schema.node? x = some m := ⟨_, Array.getElem?_eq_getElem hbelow.2⟩
      obtain ⟨mark, hmark, hm'⟩ := h.nodes.node x m hx hm
      rw [isOptional, isOptional, hm, hm', Option.map_some, Option.map_some,
        hmark (Nat.ne_of_gt (Nat.zero_lt_of_lt hbelow.1))]
    · refine Coercion.agree_admitsExtra (C := exact) halike.keywords ?_
      rintro x y ⟨rfl, hx, _, _⟩
      exact exact_of_eq (h.check hx hops .null .root)

end Copied

end Context

namespace Schema

/-- Judging and coercing at the place do what the other schema does. -/
def BehavesAs (s : Schema) (place : NodeId) (c : Schema) : Prop :=
  ∀ shared v,
    (∀ options, s.validateAt shared place (some v) options = c.validate shared v options) ∧
      ∀ options, s.coerceAt shared place v options = c.coerce shared v options

theorem CopiedOn.behavesAs {c s : Schema} {place : NodeId} (ho : c.Orderly) (hnested : c.Nested)
    (hself : c.SelfContained) (h : CopiedOn (c.Within · root) c s place) : s.BehavesAs place c := by
  intro shared v
  have hcopied : ∀ options, (c.context shared options).Copied (s.context shared options) place :=
    fun _ => ⟨ho, hnested, hself, h, rfl, rfl, rfl⟩
  have hlenient : (c.lenientContext shared).Copied (s.lenientContext shared) place :=
    ⟨ho, hnested, hself, h, rfl, rfl, rfl⟩
  have hplace : root + place = place := Nat.zero_add place
  have hcoerce : ∀ options v, c.coerceAt shared root v options = s.coerceAt shared place v options := by
    intro options v
    have hrun := hlenient.coerce .refl options 0 v
    rwa [hplace] at hrun
  refine ⟨fun options => ?_, fun options => (hcoerce options v).symm⟩
  refine (eq_of_exact (agree_validateAt (r := Eq) ?_ ?_ ?_ v)).symm
  · rintro found _ rfl
    rfl
  · exact fun v => exact_of_eq (hcoerce {} v)
  · intro v at_
    have hrun := (hcopied options).check .refl 0 v at_
    rw [hplace] at hrun
    exact exact_of_eq hrun

end Schema

end JsonSchema
