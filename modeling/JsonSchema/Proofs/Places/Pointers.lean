import JsonSchema.Proofs.Except
import JsonSchema.Pointer
import Mathlib.Data.List.Induction

/-!
# Paths and the pointers that name them

A pointer names the members and positions of a path by their texts alone, so that reading it gives
positions wherever a text is the decimal of one. Looking things up does not tell the two apart.
-/

namespace JsonSchema

/-! ## Decimals -/

namespace Decimal

theorem digitsValue_eq_ofDigitChars (cs : List Char) :
    digitsValue cs = Nat.ofDigitChars 10 cs 0 := by
  rw [Nat.ofDigitChars_eq_foldl]
  rfl

theorem digitsValue_toDigits (n : Nat) : digitsValue (Nat.toDigits 10 n) = n := by
  rw [digitsValue_eq_ofDigitChars, Nat.ofDigitChars_ten_toDigits]

theorem isDigit_of_mem_toDigits {n : Nat} {c : Char} (h : c ∈ Nat.toDigits 10 n) :
    isDigit c = true := by
  have hdigit := Nat.isDigit_of_mem_toDigits (by decide) (by decide) h
  rw [Char.isDigit, Bool.and_eq_true, decide_eq_true_eq, decide_eq_true_eq] at hdigit
  unfold isDigit
  rw [Bool.and_eq_true, decide_eq_true_eq, decide_eq_true_eq]
  exact hdigit

theorem all_isDigit_toDigits (n : Nat) : (Nat.toDigits 10 n).all isDigit = true :=
  List.all_eq_true.2 fun _ => isDigit_of_mem_toDigits

theorem readNat?_toDigits (n : Nat) : readNat? (Nat.toDigits 10 n) = some n := by
  have hne : (Nat.toDigits 10 n).isEmpty = false := by
    rw [List.isEmpty_eq_false_iff]
    exact Nat.toDigits_ne_nil
  unfold readNat?
  rw [hne, all_isDigit_toDigits, digitsValue_toDigits]
  rfl

theorem digitChar_ne_zero : ∀ n < 10, n ≠ 0 → Nat.digitChar n ≠ '0' := by decide

theorem head?_toDigits (n : Nat) (h : n ≠ 0) : (Nat.toDigits 10 n).head? ≠ some '0' := by
  induction n using Nat.strongRecOn with
  | ind n ih =>
  rw [Nat.toDigits_eq_if (by decide)]
  split
  · next hlt =>
    rw [List.head?_cons, ne_eq, Option.some.injEq]
    exact digitChar_ne_zero n hlt h
  · next hle =>
    rw [List.head?_append_of_ne_nil _ Nat.toDigits_ne_nil]
    exact ih (n / 10) (by omega) (by omega)

theorem digitChar_toNat : ∀ n < 10, (Nat.digitChar n).toNat = n + 48 := by decide

theorem isDigit_iff (c : Char) : isDigit c = true ↔ 48 ≤ c.toNat ∧ c.toNat ≤ 57 := by
  unfold isDigit
  rw [Bool.and_eq_true, decide_eq_true_eq, decide_eq_true_eq]
  rfl

theorem digitChar_of_isDigit {c : Char} (h : isDigit c = true) :
    Nat.digitChar (c.toNat - 48) = c := by
  obtain ⟨hlow, hhigh⟩ := (isDigit_iff c).1 h
  have hnat := digitChar_toNat (c.toNat - 48) (by omega)
  apply Char.toNat_inj.1
  omega

theorem digitsValue_append (cs : List Char) (c : Char) :
    digitsValue (cs ++ [c]) = 10 * digitsValue cs + (c.toNat - 48) := by
  unfold digitsValue
  rw [List.foldl_append]
  rfl

/-- The last digit is read last, so that the induction takes it off. -/
theorem toDigits_digitsValue {cs : List Char} (hdigits : cs.all isDigit = true) (hne : cs ≠ [])
    (hhead : cs.head? ≠ some '0') :
    0 < digitsValue cs ∧ Nat.toDigits 10 (digitsValue cs) = cs := by
  induction cs using List.reverseRecOn with
  | nil => exact absurd rfl hne
  | append_singleton cs c ih =>
    rw [List.all_append, Bool.and_eq_true, List.all_cons, Bool.and_eq_true] at hdigits
    obtain ⟨hdigits, hc, _⟩ := hdigits
    have hlast : Nat.toDigits 10 (c.toNat - 48) = [c] := by
      rw [Nat.toDigits_of_lt_base (by have := (isDigit_iff c).1 hc; omega)]
      rw [digitChar_of_isDigit hc]
    rw [digitsValue_append]
    by_cases hcs : cs = []
    · subst hcs
      have hne : c ≠ '0' := by simpa using hhead
      have hnat : c.toNat ≠ 48 := fun h => hne (Char.toNat_inj.1 h)
      have hrange := (isDigit_iff c).1 hc
      refine ⟨by omega, ?_⟩
      rw [show digitsValue [] = 0 from rfl, Nat.mul_zero, Nat.zero_add, hlast, List.nil_append]
    · rw [List.head?_append_of_ne_nil _ hcs] at hhead
      obtain ⟨hpos, hinit⟩ := ih hdigits hcs hhead
      refine ⟨by omega, ?_⟩
      have hlt : c.toNat - 48 < 10 := by have := (isDigit_iff c).1 hc; omega
      rw [← Nat.toDigits_append_toDigits (by decide) hpos hlt, hinit, hlast]

end Decimal

/-! ## Segments -/

namespace Segment

theorem isCanonicalDecimal_toDigits (n : Nat) : isCanonicalDecimal (Nat.toDigits 10 n) = true := by
  have hne : (Nat.toDigits 10 n).isEmpty = false := by
    rw [List.isEmpty_eq_false_iff]
    exact Nat.toDigits_ne_nil
  unfold isCanonicalDecimal
  rw [hne, Decimal.all_isDigit_toDigits]
  by_cases h : n = 0
  · subst h
    rfl
  · have hhead := Decimal.head?_toDigits n h
    simp [hhead]

theorem toList_toString (n : Nat) : (toString n).toList = Nat.toDigits 10 n := Nat.toList_repr

theorem ofText_index (position : UInt64) : ofText (index position).text = index position := by
  unfold ofText text
  rw [toList_toString, Decimal.digitsValue_toDigits]
  have hlt := position.toNat_lt
  rw [if_pos ⟨isCanonicalDecimal_toDigits _, hlt⟩, UInt64.ofNat_toNat]

theorem isCanonicalDecimal_iff (cs : List Char) :
    isCanonicalDecimal cs = true ↔
      cs ≠ [] ∧ cs.all Decimal.isDigit = true ∧ (cs = ['0'] ∨ cs.head? ≠ some '0') := by
  simp [isCanonicalDecimal, and_assoc]

theorem toDigits_of_isCanonicalDecimal {cs : List Char} (h : isCanonicalDecimal cs = true) :
    Nat.toDigits 10 (Decimal.digitsValue cs) = cs := by
  obtain ⟨hne, hdigits, rfl | hhead⟩ := (isCanonicalDecimal_iff cs).1 h
  · rfl
  · exact (Decimal.toDigits_digitsValue hdigits hne hhead).2

/-- The segment that is read where this one is written. -/
def reread (s : Segment) : Segment := ofText s.text

theorem reread_index (position : UInt64) : (index position).reread = index position :=
  ofText_index position

theorem reread_key (name : String) :
    (key name).reread = key name ∨
      ∃ position : UInt64, (key name).reread = index position ∧ name = toString position.toNat := by
  unfold reread ofText text
  dsimp only
  split
  · next h =>
    refine .inr ⟨_, rfl, ?_⟩
    rw [UInt64.toNat_ofNat_of_lt' h.2, ← String.toList_inj, toList_toString,
      toDigits_of_isCanonicalDecimal h.1]
  · exact .inl rfl

theorem position?_key_toString (n : Nat) : (key (toString n)).position? = some n := by
  have hread := Decimal.readNat?_toDigits n
  unfold position?
  dsimp only
  rw [toList_toString]
  split
  · next digits heq =>
    have hplus : '+' ∈ Nat.toDigits 10 n := heq ▸ List.mem_cons_self
    exact absurd (Decimal.isDigit_of_mem_toDigits hplus) (by decide)
  · exact hread

theorem text_reread (s : Segment) : s.reread.text = s.text := by
  cases s with
  | index position => rw [reread_index]
  | key name =>
    rcases reread_key name with h | ⟨position, h, hname⟩
    · rw [h]
    · rw [h, hname]; rfl

theorem position?_reread (s : Segment) : s.reread.position? = s.position? := by
  cases s with
  | index position => rw [reread_index]
  | key name =>
    rcases reread_key name with h | ⟨position, h, hname⟩
    · rw [h]
    · rw [h, hname, position?_key_toString]; rfl

theorem position?_ofPosition (i : Nat) : (ofPosition i).position? = some i := by
  unfold ofPosition
  split
  · next h => rw [position?, UInt64.toNat_ofNat_of_lt' h]
  · exact position?_key_toString i

theorem eq_of_reread_eq_key {s : Segment} {name : String} (h : s.reread = key name) : s = key name := by
  cases s with
  | index position =>
    rw [reread_index] at h
    cases h
  | key other =>
    have htext := text_reread (key other)
    rw [h] at htext
    exact congrArg key htext.symm

end Segment

/-! ## Escapes -/

namespace Pointer

theorem unescape?_cons {c : Char} (h : c ≠ '~') (cs : List Char) :
    unescape? (c :: cs) = (unescape? cs).map (c :: ·) := by
  rw [unescape?.eq_def]
  split
  · next heq => cases heq
  · next heq => cases heq; exact absurd rfl h
  · next heq => cases heq; exact absurd rfl h
  · next heq => cases heq; rw [if_neg h]

theorem escape_cons (c : Char) (cs : List Char) : escape (c :: cs) = escape [c] ++ escape cs := by
  rw [escape, escape, escape, List.flatMap_cons, List.flatMap_singleton]

theorem escape_singleton {c : Char} (htilde : c ≠ '~') (hslash : c ≠ '/') : escape [c] = [c] := by
  rw [escape, List.flatMap_singleton, if_neg htilde, if_neg hslash]

theorem unescape?_escape (cs : List Char) : unescape? (escape cs) = some cs := by
  induction cs with
  | nil => rfl
  | cons c cs ih =>
    rw [escape_cons]
    by_cases htilde : c = '~'
    · subst htilde
      change (unescape? (escape cs)).map _ = _
      rw [ih]; rfl
    by_cases hslash : c = '/'
    · subst hslash
      change (unescape? (escape cs)).map _ = _
      rw [ih]; rfl
    rw [escape_singleton htilde hslash, List.singleton_append, unescape?_cons htilde, ih]
    rfl

theorem slash_not_mem_escape (cs : List Char) : '/' ∉ escape cs := by
  induction cs with
  | nil => exact List.not_mem_nil
  | cons c cs ih =>
    rw [escape_cons, List.mem_append, not_or]
    refine ⟨?_, ih⟩
    by_cases htilde : c = '~'
    · subst htilde; decide
    by_cases hslash : c = '/'
    · subst hslash; decide
    rw [escape_singleton htilde hslash, List.mem_singleton]
    exact Ne.symm hslash

/-- A segment is read from no other characters than those that are written for it. -/
theorem escape_of_unescape? {piece cs : List Char} (h : unescape? piece = some cs)
    (hslash : '/' ∉ piece) : escape cs = piece := by
  induction piece using unescape?.induct generalizing cs with
  | case1 =>
    cases h
    rfl
  | case2 piece ih | case3 piece ih =>
    obtain ⟨rest, hrest, rfl⟩ := Option.map_eq_some_iff.1 h
    rw [escape_cons, ih hrest (fun hmem => hslash (by simp [hmem]))]
    rfl
  | case4 piece hzero hone =>
    rw [unescape?.eq_def] at h
    split at h
    · next heq => cases heq
    · next heq => exact absurd (List.cons.inj heq).2 (hzero _ rfl)
    · next heq => exact absurd (List.cons.inj heq).2 (hone _ rfl)
    · next heq =>
      cases heq
      cases h
  | case5 c piece _ _ hne ih =>
    obtain ⟨hc, hpiece⟩ := not_or.1 (mt List.mem_cons.2 hslash)
    rw [unescape?_cons hne] at h
    obtain ⟨rest, hrest, rfl⟩ := Option.map_eq_some_iff.1 h
    rw [escape_cons, ih hrest hpiece, escape_singleton hne (Ne.symm hc)]
    rfl

end Pointer

/-! ## Pieces -/

theorem Text.pieces_of_not_mem {separator : Char} {piece : List Char} (h : separator ∉ piece) :
    pieces separator piece = [piece] := by
  induction piece with
  | nil => rfl
  | cons c cs ih =>
    obtain ⟨hne, hcs⟩ := not_or.1 (mt List.mem_cons.2 h)
    rw [pieces, if_neg (Ne.symm hne), ih hcs]

theorem Text.pieces_append {separator : Char} {piece : List Char} (h : separator ∉ piece)
    (rest : List Char) :
    pieces separator (piece ++ separator :: rest) = piece :: pieces separator rest := by
  induction piece with
  | nil => rw [List.nil_append, pieces, if_pos rfl]
  | cons c cs ih =>
    obtain ⟨hne, hcs⟩ := not_or.1 (mt List.mem_cons.2 h)
    rw [List.cons_append, pieces, if_neg (Ne.symm hne), ih hcs]

theorem Text.flatMap_pieces (separator : Char) (cs : List Char) :
    (pieces separator cs).flatMap (separator :: ·) = separator :: cs := by
  induction cs with
  | nil => rfl
  | cons c cs ih =>
    rw [pieces]
    split
    · next hc => rw [List.flatMap_cons, ih, hc]; rfl
    · cases hpieces : pieces separator cs with
      | nil => exact absurd hpieces (pieces_ne_nil separator cs)
      | cons piece rest =>
        rw [hpieces, List.flatMap_cons, List.cons_append, List.cons.injEq] at ih
        rw [List.flatMap_cons, List.cons_append, List.cons_append, ih.2]

theorem Text.not_mem_of_mem_pieces {separator : Char} {cs piece : List Char}
    (h : piece ∈ pieces separator cs) : separator ∉ piece := by
  induction cs generalizing piece with
  | nil =>
    rw [List.mem_singleton.1 h]
    exact List.not_mem_nil
  | cons c cs ih =>
    rw [pieces] at h
    split at h
    · rcases List.mem_cons.1 h with rfl | h
      · exact List.not_mem_nil
      · exact ih h
    · next hc =>
      cases hpieces : pieces separator cs with
      | nil => exact absurd hpieces (pieces_ne_nil separator cs)
      | cons first rest =>
        rw [hpieces] at h ih
        rcases List.mem_cons.1 h with rfl | h
        · rw [List.mem_cons, not_or]
          exact ⟨Ne.symm hc, ih List.mem_cons_self⟩
        · exact ih (List.mem_cons_of_mem _ h)

/-! ## Pointers -/

namespace Pointer

theorem renderChars_cons (s : Segment) (p : Path) :
    renderChars (s :: p) = '/' :: (escape s.text.toList ++ renderChars p) := List.flatMap_cons

theorem render_append (p q : Path) : render (p ++ q) = render p ++ render q := by
  rw [render, renderChars, List.flatMap_append, String.ofList_append]
  rfl

theorem dropHash_renderChars (p : Path) : dropHash (renderChars p) = renderChars p := by
  cases p with
  | nil => rfl
  | cons s p => rw [renderChars_cons]; rfl

theorem pieces_renderChars (s : Segment) (p : Path) :
    Text.pieces '/' (escape s.text.toList ++ renderChars p) =
      (s :: p).map fun s => escape s.text.toList := by
  induction p generalizing s with
  | nil =>
    rw [show renderChars [] = [] from rfl, List.append_nil]
    exact Text.pieces_of_not_mem (slash_not_mem_escape _)
  | cons t p ih =>
    rw [renderChars_cons, Text.pieces_append (slash_not_mem_escape _), ih]
    rfl

theorem parseSegment_escape (s : Segment) :
    parseSegment (escape s.text.toList) = .ok s.reread := by
  unfold parseSegment
  rw [unescape?_escape]
  dsimp only
  rw [String.ofList_toList]
  rfl

theorem parse_eq_of_dropHash {pointer : String} {p : Path}
    (h : dropHash pointer.toList = renderChars p) :
    parse pointer = .ok (p.map Segment.reread) := by
  unfold parse
  rw [h]
  cases p with
  | nil => rfl
  | cons s p =>
    rw [renderChars_cons]
    change (Text.pieces '/' (escape s.text.toList ++ renderChars p)).mapM parseSegment = _
    rw [pieces_renderChars, Except.mapM_eq_ok_iff, List.forall₂_map_left_iff,
      List.forall₂_map_right_iff, List.forall₂_same]
    intro s _
    exact parseSegment_escape s

theorem parse_render (p : Path) : parse (render p) = .ok (p.map Segment.reread) := by
  apply parse_eq_of_dropHash
  rw [render, String.toList_ofList, dropHash_renderChars]

theorem parse_hash_render (p : Path) : parse ("#" ++ render p) = .ok (p.map Segment.reread) := by
  apply parse_eq_of_dropHash
  rw [render, String.toList_append, String.toList_ofList (l := renderChars p)]
  rfl

theorem escape_of_parseSegment {piece : List Char} {s : Segment} (h : parseSegment piece = .ok s)
    (hslash : '/' ∉ piece) : escape s.text.toList = piece := by
  unfold parseSegment at h
  split at h
  · next name hname =>
    cases h
    have htext := Segment.text_reread (.key (String.ofList name))
    change (Segment.ofText (String.ofList name)).text = String.ofList name at htext
    rw [htext, String.toList_ofList, escape_of_unescape? hname hslash]
  · cases h

theorem renderChars_of_mapM {pieces : List (List Char)} {p : Path}
    (h : pieces.mapM parseSegment = .ok p) (hslash : ∀ piece ∈ pieces, '/' ∉ piece) :
    renderChars p = pieces.flatMap ('/' :: ·) := by
  rw [Except.mapM_eq_ok_iff] at h
  induction h with
  | nil => rfl
  | cons hs _ ih =>
    obtain ⟨hpiece, hrest⟩ := List.forall_mem_cons.1 hslash
    rw [renderChars_cons, escape_of_parseSegment hs hpiece, ih hrest, List.flatMap_cons]
    rfl

theorem dropHash_of_parse {pointer : String} {p : Path} (h : parse pointer = .ok p) :
    dropHash pointer.toList = renderChars p := by
  unfold parse at h
  split at h
  · next heq =>
    cases h
    exact heq
  · next cs heq =>
    rw [heq, renderChars_of_mapM h fun _ => Text.not_mem_of_mem_pieces, Text.flatMap_pieces]
  · cases h

theorem eq_of_parse {pointer : String} {p : Path} (h : parse pointer = .ok p) :
    pointer = render p ∨ pointer = "#" ++ render p := by
  have hchars := dropHash_of_parse h
  unfold dropHash at hchars
  split at hchars
  · next cs heq =>
    refine .inr (String.toList_inj.1 ?_)
    rw [heq, hchars, render, String.toList_append, String.toList_ofList (l := renderChars p)]
    rfl
  · refine .inl (String.toList_inj.1 ?_)
    rw [render, String.toList_ofList, hchars]

theorem render_reread (p : Path) : render (p.map Segment.reread) = render p := by
  unfold render renderChars
  rw [List.flatMap_map]
  simp only [Segment.text_reread]

end Pointer

/-! ## Lookup -/

namespace Json

theorem child?_reread (v : Json) (s : Segment) : v.child? s.reread = v.child? s := by
  cases v with
  | object ms => rw [child?, Segment.text_reread, child?]
  | array items => rw [child?, Segment.position?_reread, child?]
  | _ => rfl

theorem get?_reread (v : Json) (p : Path) : v.get? (p.map Segment.reread) = v.get? p := by
  induction p generalizing v with
  | nil => rfl
  | cons s p ih =>
    rw [List.map_cons, get?, get?, child?_reread]
    exact Option.bind_congr fun child _ => ih child

theorem get?_append (v : Json) (p q : Path) : v.get? (p ++ q) = (v.get? p).bind (·.get? q) := by
  induction p generalizing v with
  | nil => rfl
  | cons s p ih =>
    rw [List.cons_append, get?, get?, Option.bind_assoc]
    exact Option.bind_congr fun child _ => ih child

end Json

end JsonSchema
