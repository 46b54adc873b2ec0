import JsonSchema.Proofs.Indexing.Pointers

/-!
# Ways below nodes

Where no keyword lists a key twice, the nodes of a schema are told apart by how the ways to them are
spelled, and a way that goes on from the way to a node leads to a node below it.
-/

namespace JsonSchema

open Loader

/-! ## Ways to children -/

namespace Keyword

/-- The keyword lists no key twice. -/
def KeysDistinct : Keyword → Prop
  | keyed _ entries => (entries.map (·.1)).Nodup
  | patternProperties entries => (entries.map (·.1.source)).Nodup
  | _ => True

theorem pairwise_positioned (name : String) (i : Nat) (ids : List NodeId) :
    (positioned name i ids).Pairwise fun e e' => Path.Apart e.1 e'.1 := by
  induction ids generalizing i with
  | nil => exact .nil
  | cons id ids ih =>
    rw [positioned]
    refine .cons (fun e he => ?_) (ih (i + 1))
    obtain ⟨j, _, hpath⟩ := mem_positioned he
    rw [hpath]
    refine (Path.apart_of_text_ne (mt Segment.ofPosition_inj ?_) [] []).cons _
    omega

theorem pairwise_children {k : Keyword} (h : k.KeysDistinct) :
    k.children.Pairwise fun e e' => Path.Apart e.1 e'.1 := by
  cases k with
  | leaf l => exact .nil
  | single slot child => exact List.pairwise_singleton _ _
  | listed slot ids => exact pairwise_positioned _ 0 ids
  | keyed slot entries | patternProperties entries =>
    refine List.pairwise_map.2 ((List.pairwise_map.1 h).imp ?_)
    intro e e' hne
    exact (Path.apart_of_key_ne hne [] []).cons _

end Keyword

theorem Keyword.Reads.keysDistinct {R : NodeId → Json → Prop} {m : String × Json} {k : Keyword}
    (h : k.Reads R m) (hm : m.2.keysDistinct = true) : k.KeysDistinct := by
  cases h with
  | @keyed name ms slot entries role held =>
    have hkeys : entries.map (·.1) = ms.keys := keys_of_forall₂ held
    rw [KeysDistinct, hkeys]
    exact ((Json.keysDistinct_object ms).1 hm).1
  | @patterns name ms entries role held =>
    have hkeys : entries.map (·.1.source) = ms.keys :=
      map_eq_map_of_forall₂ (held.imp fun _ _ h => Pattern.source_of_compile? h.1)
    rw [KeysDistinct, hkeys]
    exact ((Json.keysDistinct_object ms).1 hm).1
  | leaf | single | listed => exact trivial

theorem Node.pairwise_children {n : Node} (hnames : (n.keywords.map (·.name)).Nodup)
    (h : ∀ k ∈ n.keywords, k.KeysDistinct) :
    n.children.Pairwise fun e e' => Path.Apart e.1 e'.1 := by
  refine List.pairwise_flatMap.2 ⟨fun k hk => Keyword.pairwise_children (h k hk), ?_⟩
  refine (List.pairwise_map.1 hnames).imp ?_
  intro k k' hne e he e' he'
  obtain ⟨p, hp⟩ := Keyword.exists_of_mem_children he
  obtain ⟨p', hp'⟩ := Keyword.exists_of_mem_children he'
  rw [hp, hp']
  exact Path.apart_of_key_ne hne p p'

theorem Path.Apart.symm {p q : Path} (h : Apart p q) : Apart q p :=
  fun r r' heq => h r' r heq.symm

namespace Schema

variable {s : Schema}

/-- No keyword of a node that can be reached lists a key twice. -/
def KeysDistinct (s : Schema) : Prop :=
  ∀ id n, s.Within id root → s.node? id = some n → ∀ k ∈ n.keywords, k.KeysDistinct

theorem keysDistinct_ofJson {d : Json} (hd : d.keysDistinct = true) (h : ofJson d = .ok s) :
    s.KeysDistinct := by
  intro id n _ hn k hk
  obtain ⟨docs, hdepicts⟩ := exists_depicts hd h
  obtain ⟨here, _, hkeys, hreads⟩ := hdepicts.exists_document hn
  cases hreads with
  | constant kind keywords hooks =>
    rw [keywords] at hk
    cases hk
  | @object ms n kind keywords hooks =>
    obtain ⟨m, hm, hread⟩ := exists_of_forall₂ keywords.flip hk
    exact hread.keysDistinct (((Json.keysDistinct_object ms).1 hkeys).2 m hm)

theorem path_ne_nil_of_mem_children {id : NodeId} {e : Path × NodeId} (he : e ∈ s.children id) :
    e.1 ≠ [] := by
  obtain ⟨n, _, he⟩ := exists_of_mem_children he
  obtain ⟨k, _, he⟩ := List.mem_flatMap.1 he
  obtain ⟨p, hp⟩ := Keyword.exists_of_mem_children he
  rw [hp]
  exact List.cons_ne_nil _ _

theorem KeysDistinct.apart_children (h : s.KeysDistinct) (ho : s.Orderly) {id : NodeId}
    (hid : s.Within id root) {e e' : Path × NodeId} (he : e ∈ s.children id)
    (he' : e' ∈ s.children id) (hne : e ≠ e') : Path.Apart e.1 e'.1 := by
  obtain ⟨n, hn, hmem⟩ := exists_of_mem_children he
  have hpairwise := Node.pairwise_children (ho.names id n hn) (h id n hid hn)
  have hchildren : s.children id = n.children := by
    rw [children, hn]
    rfl
  rw [hchildren] at he he'
  have : Std.Symm fun e e' : Path × NodeId => Path.Apart e.1 e'.1 := ⟨fun _ _ => Path.Apart.symm⟩
  exact hpairwise.forall he he' hne

/-! ## Ways from nodes -/

theorem entriesFrom_append (p q : Path) (id : NodeId) :
    s.entriesFrom (p ++ q) id = (s.entriesFrom q id).map fun e => (p ++ e.1, e.2) := by
  fun_induction entriesFrom s q id with
  | case1 q id ih =>
    rw [entriesFrom, List.map_cons, List.map_flatMap]
    congr 2
    funext c
    split
    · next hbelow => rw [List.append_assoc, ih c hbelow]
    · rfl

theorem mem_entriesFrom_iff {path : Path} {id : NodeId} {e : Path × NodeId} :
    e ∈ s.entriesFrom path id ↔ ∃ p, e.1 = path ++ p ∧ (p, e.2) ∈ s.entriesFrom [] id := by
  have happend := entriesFrom_append (s := s) path [] id
  rw [List.append_nil] at happend
  rw [happend, List.mem_map]
  constructor
  · rintro ⟨c, hc, rfl⟩
    exact ⟨c.1, rfl, hc⟩
  · rintro ⟨p, hp, hmem⟩
    exact ⟨(p, e.2), hmem, Prod.ext hp.symm rfl⟩

theorem mem_entriesFrom_trans {path : Path} {id : NodeId} {e e' : Path × NodeId}
    (he : e ∈ s.entriesFrom path id) (he' : e' ∈ s.entriesFrom e.1 e.2) :
    e' ∈ s.entriesFrom path id := by
  fun_induction entriesFrom s path id with
  | case1 path id ih =>
    rcases List.mem_cons.1 he with rfl | he
    · rwa [entriesFrom] at he'
    · obtain ⟨c, hc, he⟩ := List.mem_flatMap.1 he
      refine List.mem_cons_of_mem _ (List.mem_flatMap.2 ⟨c, hc, ?_⟩)
      split at he
      · next hbelow =>
        rw [dif_pos hbelow]
        exact ih c hbelow he
      · cases he

/-- Where a spelling goes on from that of another way, the node is below the other one. -/
theorem KeysDistinct.mem_entriesFrom (h : s.KeysDistinct) (ho : s.Orderly) {path : Path}
    {id : NodeId} (hid : s.Within id root) {e e' : Path × NodeId} (he : e ∈ s.entriesFrom path id)
    (he' : e' ∈ s.entriesFrom path id) {way : Path}
    (hspelled : Path.texts e'.1 = Path.texts (e.1 ++ way)) : e' ∈ s.entriesFrom e.1 e.2 := by
  fun_induction entriesFrom s path id with
  | case1 path id ih =>
    rcases List.mem_cons.1 he with rfl | he
    · rw [entriesFrom]
      exact he'
    obtain ⟨c, hc, he⟩ := List.mem_flatMap.1 he
    split at he
    case isFalse => cases he
    case isTrue hbelow =>
    obtain ⟨p, hp, _⟩ := mem_entriesFrom_iff.1 he
    rcases List.mem_cons.1 he' with rfl | he'
    · have hlength := congrArg List.length hspelled
      have hlonger := List.length_pos_iff.2 (path_ne_nil_of_mem_children hc)
      simp only [hp, Path.texts, List.length_map, List.length_append] at hlength
      omega
    obtain ⟨c', hc', he'⟩ := List.mem_flatMap.1 he'
    split at he'
    case isFalse => cases he'
    case isTrue hbelow' =>
    -- Both go through the same child, or through two whose spellings part at once.
    by_cases heq : c = c'
    · subst heq
      exact ih c hbelow (hid.head (heldBy_of_mem_children hc)) he he'
    · obtain ⟨p', hp', _⟩ := mem_entriesFrom_iff.1 he'
      have hapart := h.apart_children ho hid hc' hc (Ne.symm heq)
      rw [hp, hp'] at hspelled
      simp only [List.append_assoc, Path.texts_append path] at hspelled
      exact absurd (List.append_cancel_left hspelled) (hapart p' (p ++ way))

theorem KeysDistinct.eq_of_texts_eq (h : s.KeysDistinct) (ho : s.Orderly) {e e' : Path × NodeId}
    (he : e ∈ s.entriesFrom [] root) (he' : e' ∈ s.entriesFrom [] root)
    (htexts : Path.texts e.1 = Path.texts e'.1) : e = e' := by
  have hnil (e : Path × NodeId) : Path.texts e.1 = Path.texts (e.1 ++ []) := by rw [List.append_nil]
  have hbelow : e' ∈ s.entriesFrom e.1 e.2 :=
    h.mem_entriesFrom ho .refl he he' (htexts.symm.trans (hnil e))
  have habove : e ∈ s.entriesFrom e'.1 e'.2 :=
    h.mem_entriesFrom ho .refl he' he (htexts.trans (hnil e'))
  have hid : e.2 = e'.2 := Nat.le_antisymm (ho.le_of_within (within_of_mem_entriesFrom hbelow))
    (ho.le_of_within (within_of_mem_entriesFrom habove))
  exact List.inj_on_of_nodup_map (ho.nodup_entriesFrom [] root) he he' hid

theorem KeysDistinct.exists_spelled_iff (h : s.KeysDistinct) (ho : s.Orderly) {start way : Path}
    {id target : NodeId} (hstart : (start, id) ∈ s.entriesFrom [] root) :
    (∃ p, Path.texts p = Path.texts (start ++ way) ∧ (p, target) ∈ s.entriesFrom [] root) ↔
      ∃ p, Path.texts p = Path.texts way ∧ (p, target) ∈ s.entriesFrom [] id := by
  constructor
  · rintro ⟨p, htexts, hp⟩
    obtain ⟨q, rfl, hq⟩ := mem_entriesFrom_iff.1 (h.mem_entriesFrom ho .refl hstart hp htexts)
    rw [Path.texts_append, Path.texts_append] at htexts
    exact ⟨q, List.append_cancel_left htexts, hq⟩
  · rintro ⟨q, htexts, hq⟩
    refine ⟨start ++ q, by rw [Path.texts_append, Path.texts_append, htexts], ?_⟩
    exact mem_entriesFrom_trans hstart (mem_entriesFrom_iff.2 ⟨q, rfl, hq⟩)

end Schema

end JsonSchema
