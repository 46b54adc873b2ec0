import JsonSchema.Proofs.Places.Pointers

/-!
# Writing pointers and reading them back

What is read from the pointer of a path is the path, with positions for the keys that are numerals of
words; what is written for a path is the only text that it is read from, up to a `#`; and no text is
refused but for the two faults that a pointer can have.
-/

namespace JsonSchema

/-! ## Keys and positions -/

/-- The second segment is read where the first one is written. -/
inductive Segment.ReadsAs : Segment → Segment → Prop where
  | index (position : UInt64) : ReadsAs (.index position) (.index position)
  | numeral (position : UInt64) : ReadsAs (.key (toString position.toNat)) (.index position)
  | key {name : String} (h : ∀ position : UInt64, name ≠ toString position.toNat) :
    ReadsAs (.key name) (.key name)

theorem Segment.readsAs_reread (s : Segment) : s.ReadsAs s.reread := by
  cases s with
  | index position =>
    rw [reread_index]
    exact .index position
  | key name =>
    by_cases h : ∃ position : UInt64, name = toString position.toNat
    · obtain ⟨position, rfl⟩ := h
      have hread : (key (toString position.toNat)).reread = index position := ofText_index position
      rw [hread]
      exact .numeral position
    · rw [not_exists] at h
      rcases reread_key name with hkey | ⟨position, _, heq⟩
      · rw [hkey]
        exact .key h
      · exact absurd heq (h position)

/-! ## Faults -/

namespace Pointer

/-- A tilde that neither `0` nor `1` follows. -/
def HasLoneTilde (cs : List Char) : Prop :=
  ∃ rest, '~' :: rest <:+ cs ∧ rest.head? ≠ some '0' ∧ rest.head? ≠ some '1'

theorem not_hasLoneTilde_nil : ¬HasLoneTilde [] := by
  rintro ⟨rest, hsuffix, _⟩
  exact absurd (List.suffix_nil.1 hsuffix) (List.cons_ne_nil _ _)

theorem hasLoneTilde_cons (c : Char) (cs : List Char) :
    HasLoneTilde (c :: cs) ↔
      (c = '~' ∧ cs.head? ≠ some '0' ∧ cs.head? ≠ some '1') ∨ HasLoneTilde cs := by
  constructor
  · rintro ⟨rest, hsuffix, hrest⟩
    rcases List.suffix_cons_iff.1 hsuffix with heq | hsuffix
    · obtain ⟨hc, rfl⟩ := List.cons.inj heq
      exact .inl ⟨hc.symm, hrest⟩
    · exact .inr ⟨rest, hsuffix, hrest⟩
  · rintro (⟨rfl, hcs⟩ | ⟨rest, hsuffix, hrest⟩)
    · exact ⟨cs, List.suffix_rfl, hcs⟩
    · exact ⟨rest, hsuffix.trans (List.suffix_cons c cs), hrest⟩

theorem hasLoneTilde_cons_of_ne {c : Char} (h : c ≠ '~') (cs : List Char) :
    HasLoneTilde (c :: cs) ↔ HasLoneTilde cs := by
  rw [hasLoneTilde_cons]
  exact or_iff_right fun hc => h hc.1

theorem unescape?_eq_none_iff (cs : List Char) : unescape? cs = none ↔ HasLoneTilde cs := by
  induction cs using unescape?.induct with
  | case1 => exact iff_of_false (Option.some_ne_none _) not_hasLoneTilde_nil
  | case2 cs ih =>
    rw [unescape?, Option.map_eq_none_iff, ih, hasLoneTilde_cons]
    exact ⟨fun h => .inr ((hasLoneTilde_cons_of_ne (by decide) cs).2 h), fun h =>
      (hasLoneTilde_cons_of_ne (by decide) cs).1 (h.resolve_left fun h => h.2.1 rfl)⟩
  | case3 cs ih =>
    rw [unescape?, Option.map_eq_none_iff, ih, hasLoneTilde_cons]
    exact ⟨fun h => .inr ((hasLoneTilde_cons_of_ne (by decide) cs).2 h), fun h =>
      (hasLoneTilde_cons_of_ne (by decide) cs).1 (h.resolve_left fun h => h.2.2 rfl)⟩
  | case4 cs hzero hone =>
    have hread : unescape? ('~' :: cs) = none := by
      rw [unescape?.eq_def]
      split
      · next heq => cases heq
      · next heq => exact absurd (List.cons.inj heq).2 (hzero _ rfl)
      · next heq => exact absurd (List.cons.inj heq).2 (hone _ rfl)
      · next heq =>
        cases heq
        exact if_pos rfl
    refine iff_of_true hread ((hasLoneTilde_cons _ cs).2 (.inl ⟨rfl, ?_, ?_⟩))
    · intro hhead
      obtain ⟨rest, hrest⟩ := List.head?_eq_some_iff.1 hhead
      exact hzero rest rfl hrest
    · intro hhead
      obtain ⟨rest, hrest⟩ := List.head?_eq_some_iff.1 hhead
      exact hone rest rfl hrest
  | case5 c cs _ _ hne ih =>
    rw [unescape?_cons hne, Option.map_eq_none_iff, ih, hasLoneTilde_cons_of_ne hne]

/-! ## Faults of a segment -/

theorem exists_parseSegment_iff (piece : List Char) :
    (∃ s, parseSegment piece = .ok s) ↔ ¬HasLoneTilde piece := by
  rw [← unescape?_eq_none_iff, ← ne_eq, Option.ne_none_iff_exists']
  unfold parseSegment
  constructor
  · rintro ⟨s, hs⟩
    split at hs
    · next name hname => exact ⟨name, hname⟩
    · cases hs
  · rintro ⟨name, hname⟩
    rw [hname]
    exact ⟨_, rfl⟩

theorem head?_of_pieces {separator d : Char} {cs piece : List Char} {rest : List (List Char)}
    (hd : d ≠ separator) (h : Text.pieces separator cs = piece :: rest) :
    piece.head? = some d ↔ cs.head? = some d := by
  cases cs with
  | nil =>
    obtain ⟨rfl, _⟩ := List.cons.inj h
    rfl
  | cons c cs =>
    rw [Text.pieces] at h
    split at h
    · next hc =>
      obtain ⟨rfl, _⟩ := List.cons.inj h
      rw [hc, List.head?_cons, Option.some.injEq]
      exact iff_of_false (Option.some_ne_none d).symm (Ne.symm hd)
    · cases hpieces : Text.pieces separator cs with
      | nil => exact absurd hpieces (Text.pieces_ne_nil separator cs)
      | cons first others =>
        rw [hpieces] at h
        obtain ⟨rfl, _⟩ := List.cons.inj h
        rfl

theorem exists_mem_pieces_hasLoneTilde (cs : List Char) :
    (∃ piece ∈ Text.pieces '/' cs, HasLoneTilde piece) ↔ HasLoneTilde cs := by
  induction cs with
  | nil => simp [Text.pieces]
  | cons c cs ih =>
    rw [Text.pieces]
    split
    · next hc =>
      subst hc
      rw [hasLoneTilde_cons_of_ne (by decide), ← ih, List.exists_mem_cons_iff]
      exact or_iff_right not_hasLoneTilde_nil
    · cases hpieces : Text.pieces '/' cs with
      | nil => exact absurd hpieces (Text.pieces_ne_nil '/' cs)
      | cons piece rest =>
        rw [hpieces, List.exists_mem_cons_iff] at ih
        rw [List.exists_mem_cons_iff, hasLoneTilde_cons, hasLoneTilde_cons, ← ih,
          ne_eq, ne_eq, ne_eq, ne_eq, head?_of_pieces (by decide) hpieces,
          head?_of_pieces (by decide) hpieces, or_assoc]

/-! ## The codec -/

/-- The two faults of a text without the `#` in front. -/
theorem exists_parse_iff (text : String) :
    (∃ p, parse text = .ok p) ↔
      ¬((dropHash text.toList ≠ [] ∧ (dropHash text.toList).head? ≠ some '/') ∨
        HasLoneTilde (dropHash text.toList)) := by
  unfold parse
  split
  · next h =>
    rw [h]
    exact iff_of_true ⟨[], rfl⟩ (by simp [not_hasLoneTilde_nil])
  · next cs h =>
    rw [h, Except.exists_mapM_eq_ok_iff, hasLoneTilde_cons_of_ne (by decide),
      ← exists_mem_pieces_hasLoneTilde]
    simp only [exists_parseSegment_iff]
    simp
  · next hnil hslash =>
    refine iff_of_false nofun (not_not_intro (.inl ⟨hnil, fun hhead => ?_⟩))
    obtain ⟨rest, hrest⟩ := List.head?_eq_some_iff.1 hhead
    exact hslash rest hrest

theorem render_of_parse {text : String} {p : Path} (h : parse text = .ok p) :
    render p = String.ofList (dropHash text.toList) := by
  rw [render, dropHash_of_parse h]

/-- Pointers are written and read exactly. -/
theorem codec_exact :
    (∀ p : Path, ∃ q, parse (render p) = .ok q ∧ List.Forall₂ Segment.ReadsAs p q ∧
      ∀ v : Json, v.get? p = v.get? q) ∧
    (∀ text p, parse text = .ok p → render p = String.ofList (dropHash text.toList)) ∧
    ∀ text, (∃ e, parse text = .error e) ↔
      (dropHash text.toList ≠ [] ∧ (dropHash text.toList).head? ≠ some '/') ∨
        HasLoneTilde (dropHash text.toList) := by
  refine ⟨fun p => ⟨_, parse_render p, ?_, fun v => (Json.get?_reread v p).symm⟩,
    fun _ _ => render_of_parse, fun text => ?_⟩
  · rw [List.forall₂_map_right_iff, List.forall₂_same]
    exact fun s _ => s.readsAs_reread
  · have hok := exists_parse_iff text
    cases hparse : parse text with
    | ok p =>
      rw [hparse] at hok
      exact iff_of_false nofun (hok.1 ⟨p, rfl⟩)
    | error e =>
      rw [hparse] at hok
      exact iff_of_true ⟨e, rfl⟩ (not_not.1 (mt hok.2 nofun))

/-- Numerals of words become positions, others stay keys, and an empty key is a segment. -/
theorem codec_exact_numerals :
    let text := "#/a~1b/7/01/18446744073709551616/"
    let p := [Segment.key "a/b", .index 7, .key "01", .key "18446744073709551616", .key ""]
    parse text = .ok p ∧ render p = "/a~1b/7/01/18446744073709551616/" ∧
      (∃ q, parse (render p) = .ok q ∧ List.Forall₂ Segment.ReadsAs p q ∧ ∀ v : Json, v.get? p = v.get? q) ∧
      HasLoneTilde (dropHash "#/~/0".toList) ∧ ∃ e, parse "#/~/0" = .error e := by
  intro text p
  have hparse : parse text = .ok p := by decide +kernel
  have htilde : HasLoneTilde (dropHash "#/~/0".toList) :=
    ⟨['/', '0'], ⟨['/'], rfl⟩, by decide, by decide⟩
  obtain ⟨hread, hwrite, hfail⟩ := codec_exact
  exact ⟨hparse, (hwrite text p hparse).trans (by decide +kernel), hread p, htilde,
    (hfail "#/~/0").2 (.inr htilde)⟩

end Pointer

end JsonSchema
