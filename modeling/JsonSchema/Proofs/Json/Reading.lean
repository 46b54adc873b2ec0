import JsonSchema.Proofs.Json.Insertion

/-! # Values that are read have distinct keys -/

namespace JsonSchema

theorem Json.keysDistinct_insert {ms : Members} {v : Json} (h : (object ms).keysDistinct = true)
    (hv : v.keysDistinct = true) (key : String) :
    (object (ms.insert key v)).keysDistinct = true := by
  obtain ⟨hnodup, hvalues⟩ := (keysDistinct_object ms).1 h
  refine (keysDistinct_object _).2 ⟨Members.nodup_keys_insert hnodup key v, fun m hm => ?_⟩
  have hget := Members.get?_eq_some_of_mem _ (Members.nodup_keys_insert hnodup key v) m hm
  rw [Members.get?_insert] at hget
  split at hget
  · cases hget
    exact hv
  · exact hvalues _ (Members.mem_of_get?_eq_some ms m.1 m.2 hget)

/-! ## Tokens -/

/-- A token holds no object. -/
def Token.Plain : Token → Prop
  | .scalar v => v.keysDistinct = true
  | _ => True

theorem Token.plain_of_next? {c : Char} {cs rest : List Char} {t : Token}
    (h : next? c cs = some (t, rest)) : t.Plain := by
  unfold next? at h
  split at h
  · next hp =>
    cases h
    unfold punctuation? at hp
    split at hp <;> cases hp <;> trivial
  · split at h
    · obtain ⟨_, _, heq⟩ := Option.map_eq_some_iff.1 h
      cases heq
      trivial
    · split at h
      · obtain ⟨_, _, heq⟩ := Option.map_eq_some_iff.1 h
        cases heq
        rfl
      · obtain ⟨_, hname, heq⟩ := Option.map_eq_some_iff.1 h
        cases heq
        unfold name? at hname
        split at hname <;> cases hname <;> rfl

theorem Token.plain_of_scan? {cs : List Char} {ts : List Token} (h : scan? cs = some ts) :
    ∀ t ∈ ts, t.Plain := by
  fun_induction scan? cs generalizing ts with
  | case1 => cases h; simp
  | case2 c cs _ ih => exact ih h
  | case3 c cs _ t rest hnext ih =>
    obtain ⟨later, hlater, rfl⟩ := Option.map_eq_some_iff.1 h
    exact List.forall_mem_cons.2 ⟨plain_of_next? hnext, ih hlater⟩
  | case4 => cases h

/-! ## States -/

namespace Reader

def Frame.Distinct : Frame → Prop
  | .items before => ∀ v ∈ before, v.keysDistinct = true
  | .members before _ => (Json.object before).keysDistinct = true

def State.Distinct : State → Prop
  | .value stack | .itemOrEnd stack | .keyOrEnd stack => ∀ f ∈ stack, f.Distinct
  | .key before stack | .colon before _ stack =>
    (Json.object before).keysDistinct = true ∧ ∀ f ∈ stack, f.Distinct
  | .done v stack => v.keysDistinct = true ∧ ∀ f ∈ stack, f.Distinct

theorem distinct_begin? {stack : List Frame} {t : Token} {s : State}
    (h : begin? stack t = some s) (hstack : ∀ f ∈ stack, f.Distinct) (ht : t.Plain) :
    s.Distinct := by
  unfold begin? at h
  split at h
  · cases h
    exact ⟨rfl, hstack⟩
  · cases h
    exact ⟨ht, hstack⟩
  · split at h <;> cases h
    exact hstack
  · split at h <;> cases h
    exact hstack
  · cases h

theorem distinct_resume? {v : Json} {stack : List Frame} {t : Token} {s : State}
    (h : resume? v stack t = some s) (hv : v.keysDistinct = true)
    (hstack : ∀ f ∈ stack, f.Distinct) : s.Distinct := by
  unfold resume? at h
  split at h
  · next before stack =>
    cases h
    obtain ⟨hframe, hstack⟩ := List.forall_mem_cons.1 hstack
    have hitems : Frame.Distinct (.items (v :: before)) := List.forall_mem_cons.2 ⟨hv, hframe⟩
    exact List.forall_mem_cons.2 ⟨hitems, hstack⟩
  · next before stack =>
    cases h
    obtain ⟨hframe, hstack⟩ := List.forall_mem_cons.1 hstack
    have hitems : Frame.Distinct (.items (v :: before)) := List.forall_mem_cons.2 ⟨hv, hframe⟩
    exact ⟨(Json.keysDistinct_array _).2 fun w hw => hitems w (List.mem_reverse.1 hw), hstack⟩
  · cases h
    obtain ⟨hframe, hstack⟩ := List.forall_mem_cons.1 hstack
    exact ⟨Json.keysDistinct_insert hframe hv _, hstack⟩
  · cases h
    obtain ⟨hframe, hstack⟩ := List.forall_mem_cons.1 hstack
    exact ⟨Json.keysDistinct_insert hframe hv _, hstack⟩
  · cases h

theorem distinct_step? {s s' : State} {t : Token} (h : step? s t = some s') (hs : s.Distinct)
    (ht : t.Plain) : s'.Distinct := by
  unfold step? at h
  split at h
  · exact distinct_begin? h hs ht
  · cases h
    exact ⟨rfl, hs⟩
  · exact distinct_begin? h (List.forall_mem_cons.2 ⟨List.forall_mem_nil _, hs⟩) ht
  · cases h
    exact ⟨rfl, hs⟩
  · cases h
    exact ⟨rfl, hs⟩
  · cases h
    exact hs
  · cases h
    exact List.forall_mem_cons.2 hs
  · exact distinct_resume? h hs.1 hs.2
  · cases h

theorem distinct_run? {s s' : State} {ts : List Token} (h : run? s ts = some s')
    (hs : s.Distinct) (hts : ∀ t ∈ ts, t.Plain) : s'.Distinct := by
  induction ts generalizing s with
  | nil =>
    cases h
    exact hs
  | cons t ts ih =>
    obtain ⟨next, hstep, hrun⟩ := Option.bind_eq_some_iff.1 h
    obtain ⟨ht, hts⟩ := List.forall_mem_cons.1 hts
    exact ih hrun (distinct_step? hstep hs ht) hts

end Reader

theorem Json.keysDistinct_of_parse? {text : String} {v : Json} (h : parse? text = some v) :
    v.keysDistinct = true := by
  unfold parse? at h
  split at h
  · next hrun =>
    cases h
    obtain ⟨ts, hscan, hrun⟩ := Option.bind_eq_some_iff.1 hrun
    exact (Reader.distinct_run? hrun (List.forall_mem_nil _) (Token.plain_of_scan? hscan)).1
  · cases h

end JsonSchema
