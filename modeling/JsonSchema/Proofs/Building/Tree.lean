import JsonSchema.Proofs.Building.Links
import JsonSchema.Proofs.Places.References
import Mathlib.Logic.Relation

/-!
# The tree of places

The places that are held form a tree, and an index lists each place below the root once. A link leads
to a place on the way from the root to it.
-/

namespace JsonSchema

/-! ## Ways to children -/

theorem Node.map_snd_children (n : Node) : n.children.map (·.2) = n.places := by
  rw [children, List.map_flatMap]
  rfl

theorem Keyword.exists_of_mem_children {k : Keyword} {e : Path × NodeId} (he : e ∈ k.children) :
    ∃ p, e.1 = .key k.name :: p := by
  cases k with
  | leaf l => cases he
  | single slot child =>
    obtain rfl := List.mem_singleton.1 he
    exact ⟨[], rfl⟩
  | listed slot ids =>
    obtain ⟨j, _, hpath⟩ := mem_positioned he
    exact ⟨_, hpath⟩
  | keyed slot entries | patternProperties entries =>
    obtain ⟨entry, _, rfl⟩ := List.mem_map.1 he
    exact ⟨_, rfl⟩

namespace Schema

variable {s : Schema}

/-! ## Being held -/

/-- A keyword of the parent holds the child. -/
def HeldBy (s : Schema) (child parent : NodeId) : Prop :=
  ∃ n, s.node? parent = some n ∧ child ∈ n.places

def Within (s : Schema) : NodeId → NodeId → Prop := Relation.ReflTransGen s.HeldBy

theorem exists_of_mem_children {id : NodeId} {e : Path × NodeId} (he : e ∈ s.children id) :
    ∃ n, s.node? id = some n ∧ e ∈ n.children := by
  unfold children at he
  cases hn : s.node? id with
  | none =>
    rw [hn] at he
    cases he
  | some n => exact ⟨n, rfl, by simpa [hn] using he⟩

theorem heldBy_of_mem_children {id : NodeId} {e : Path × NodeId} (he : e ∈ s.children id) :
    s.HeldBy e.2 id := by
  obtain ⟨n, hn, he⟩ := exists_of_mem_children he
  refine ⟨n, hn, ?_⟩
  rw [← n.map_snd_children]
  exact List.mem_map_of_mem he

theorem HeldBy.exists_mem_children {child parent : NodeId} (h : s.HeldBy child parent) :
    ∃ p, (p, child) ∈ s.children parent := by
  obtain ⟨n, hn, hchild⟩ := h
  rw [← n.map_snd_children] at hchild
  obtain ⟨e, he, rfl⟩ := List.mem_map.1 hchild
  exact ⟨e.1, by rwa [children, hn]⟩

namespace Orderly

variable (h : s.Orderly)
include h

theorem below_of_heldBy {child parent : NodeId} (hheld : s.HeldBy child parent) :
    s.Below parent child := by
  obtain ⟨n, hn, hchild⟩ := hheld
  exact h.below parent n hn child hchild

theorem rightUnique_heldBy : Relator.RightUnique s.HeldBy := by
  rintro place owner owner' ⟨n, hn, hplace⟩ ⟨n', hn', hplace'⟩
  exact h.owner hn hplace hn' hplace'

theorem le_of_within {id top : NodeId} (hwithin : s.Within id top) : top ≤ id := by
  induction hwithin using Relation.ReflTransGen.head_induction_on with
  | refl => exact Nat.le_refl _
  | head hheld _ ih => exact Nat.le_of_lt (Nat.lt_of_le_of_lt ih (h.below_of_heldBy hheld).1)

theorem lt_size_of_within {id : NodeId} (hwithin : s.Within id root) : id < s.size := by
  rcases hwithin.cases_head with rfl | ⟨_, hheld, _⟩
  · exact h.nonempty
  · exact (h.below_of_heldBy hheld).2

theorem eq_of_within {place a b id : NodeId} (ha : s.HeldBy a id) (hb : s.HeldBy b id)
    (hplace : s.Within place a) (hplace' : s.Within place b) : a = b := by
  -- Were one child below the other, it would be below their common owner twice over.
  have hnever : ∀ a b, s.HeldBy a id → s.HeldBy b id → s.Within a b → a = b := by
    intro a b ha hb hwithin
    rcases hwithin.cases_head with heq | ⟨owner, howner, habove⟩
    · exact heq
    · rw [h.rightUnique_heldBy howner ha] at habove
      exact absurd (h.below_of_heldBy hb).1 (Nat.not_lt.2 (h.le_of_within habove))
  rcases hplace.total_of_right_unique h.rightUnique_heldBy hplace' with hab | hba
  · exact hnever a b ha hb hab
  · exact (hnever b a hb ha hba).symm

end Orderly

/-! ## Entries -/

theorem within_of_mem_entriesFrom {path : Path} {id : NodeId} {e : Path × NodeId}
    (he : e ∈ s.entriesFrom path id) : s.Within e.2 id := by
  fun_induction entriesFrom s path id with
  | case1 path id ih =>
    rcases List.mem_cons.1 he with rfl | he
    · exact .refl
    · obtain ⟨e', he', he⟩ := List.mem_flatMap.1 he
      split at he
      · next hbelow => exact (ih e' hbelow he).tail (heldBy_of_mem_children he')
      · cases he

theorem mem_entriesFrom_of_mem_children (h : s.Orderly) {path : Path} {id : NodeId}
    {e c : Path × NodeId} (he : e ∈ s.entriesFrom path id) (hc : c ∈ s.children e.2) :
    (e.1 ++ c.1, c.2) ∈ s.entriesFrom path id := by
  fun_induction entriesFrom s path id with
  | case1 path id ih =>
    refine List.mem_cons_of_mem _ (List.mem_flatMap.2 ?_)
    rcases List.mem_cons.1 he with rfl | he
    · refine ⟨c, hc, ?_⟩
      rw [dif_pos (h.below_of_heldBy (heldBy_of_mem_children hc)), entriesFrom]
      exact List.mem_cons_self
    · obtain ⟨e', he', he⟩ := List.mem_flatMap.1 he
      refine ⟨e', he', ?_⟩
      split at he
      · next hbelow =>
        rw [dif_pos hbelow]
        exact ih e' hbelow he
      · cases he

theorem Orderly.exists_mem_entriesFrom (h : s.Orderly) (path : Path) {id top : NodeId}
    (hwithin : s.Within id top) : ∃ p, (p, id) ∈ s.entriesFrom path top := by
  induction hwithin using Relation.ReflTransGen.head_induction_on with
  | refl => exact ⟨path, by rw [entriesFrom]; exact List.mem_cons_self⟩
  | head hheld _ ih =>
    obtain ⟨p, hp⟩ := ih
    obtain ⟨q, hq⟩ := hheld.exists_mem_children
    exact ⟨p ++ q, mem_entriesFrom_of_mem_children h hp hq⟩

/-- Each place is listed once. -/
theorem Orderly.nodup_entriesFrom (h : s.Orderly) (path : Path) (id : NodeId) :
    ((s.entriesFrom path id).map (·.2)).Nodup := by
  fun_induction entriesFrom s path id with
  | case1 path id ih =>
    rw [List.map_cons, List.nodup_cons, List.map_flatMap]
    constructor
    · intro hmem
      obtain ⟨c, hc, hmem⟩ := List.mem_flatMap.1 hmem
      obtain ⟨e, he, heq⟩ := List.mem_map.1 hmem
      split at he
      · next hbelow =>
        -- All that is listed below a child is at or behind it, so the place itself is not.
        have hle := h.le_of_within (within_of_mem_entriesFrom he)
        rw [heq] at hle
        exact absurd hbelow.1 (Nat.not_lt.2 hle)
      · cases he
    · refine List.nodup_flatMap.2 ⟨fun c _ => ?_, ?_⟩
      · split
        · next hbelow => exact ih c hbelow
        · exact .nil
      · have hchildren : ((s.children id).map (·.2)).Nodup := by
          unfold children
          cases hn : s.node? id with
          | none => exact .nil
          | some n =>
            rw [Option.map_some, Option.getD_some, n.map_snd_children]
            exact h.nodup_places hn
        refine (List.pairwise_map.1 hchildren).imp_of_mem ?_
        intro a b ha hb hne place hplace hplace'
        obtain ⟨e, he, heq⟩ := List.mem_map.1 hplace
        obtain ⟨e', he', heq'⟩ := List.mem_map.1 hplace'
        split at he
        · split at he'
          · have hwithin := within_of_mem_entriesFrom he
            have hwithin' := within_of_mem_entriesFrom he'
            rw [heq] at hwithin
            rw [heq'] at hwithin'
            exact hne (h.eq_of_within (heldBy_of_mem_children ha) (heldBy_of_mem_children hb)
              hwithin hwithin')
          · cases he'
        · cases he

theorem exists_of_mem_entriesFrom {P : String → Prop}
    (hP : ∀ id n, s.node? id = some n → ∀ k ∈ n.keywords, k.children ≠ [] → P k.name)
    {path : Path} {id : NodeId} {e : Path × NodeId} (he : e ∈ s.entriesFrom path id) :
    e.1 = path ∨ ∃ name p, P name ∧ e.1 = path ++ .key name :: p := by
  fun_induction entriesFrom s path id with
  | case1 path id ih =>
    rcases List.mem_cons.1 he with rfl | he
    · exact .inl rfl
    · obtain ⟨c, hc, he⟩ := List.mem_flatMap.1 he
      split at he
      · next hbelow =>
        obtain ⟨n, hn, hchildren⟩ := exists_of_mem_children hc
        obtain ⟨k, hk, hmem⟩ := List.mem_flatMap.1 hchildren
        obtain ⟨p, hp⟩ := Keyword.exists_of_mem_children hmem
        have hname := hP id n hn k hk (List.ne_nil_of_mem hmem)
        rcases ih c hbelow he with heq | ⟨name, q, _, heq⟩
        · exact .inr ⟨k.name, p, hname, by rw [heq, hp]⟩
        · refine .inr ⟨k.name, p ++ .key name :: q, hname, ?_⟩
          rw [heq, hp, List.append_assoc]
          rfl
      · cases he

/-! ## Links -/

/-- Going up from a link, no place is passed by before the node that it stands for is met. -/
theorem Nested.within (ho : s.Orderly) (h : s.Nested) {id target place : NodeId}
    (hlink : s.kind? id = some (.link target)) (hplace : s.Within place root) (hid : place ≤ id)
    (htarget : target ≤ place) : s.Within target root ∧ s.Within place target := by
  induction hplace using Relation.ReflTransGen.head_induction_on with
  | refl =>
    obtain rfl : target = root := Nat.le_zero.1 htarget
    exact ⟨.refl, .refl⟩
  | @head place owner hheld habove ih =>
    by_cases heq : target = place
    · subst heq
      exact ⟨habove.head hheld, .refl⟩
    -- The link crosses the place, so its target is not below the owner of it either.
    · have howner := (ho.below_of_heldBy hheld).1
      obtain ⟨n, hn, hplaces⟩ := hheld
      have hlt : target < place := Nat.lt_of_le_of_ne htarget heq
      have hle := h owner n place hn hplaces id target hlink hid hlt
      obtain ⟨hroot, hbelow⟩ := ih (Nat.le_trans (Nat.le_of_lt howner) hid) hle
      exact ⟨hroot, hbelow.head ⟨n, hn, hplaces⟩⟩

theorem Nested.within_of_link (ho : s.Orderly) (h : s.Nested) {id target : NodeId}
    (hlink : s.kind? id = some (.link target)) (hid : s.Within id root) :
    s.Within target root ∧ ∃ child, s.HeldBy child target := by
  obtain ⟨n, hn, hkind⟩ := Option.map_eq_some_iff.1 hlink
  have hlt := ho.link id n target hn hkind
  obtain ⟨hroot, hbelow⟩ := h.within ho hlink hid (Nat.le_refl _) (Nat.le_of_lt hlt)
  refine ⟨hroot, ?_⟩
  rcases hbelow.cases_tail with heq | ⟨child, _, hheld⟩
  · exact absurd hlt (heq ▸ Nat.lt_irrefl _)
  · exact ⟨child, hheld⟩

end Schema

end JsonSchema
