import JsonSchema.Proofs.Places.Pointers

/-!
# What pointers denote

A pointer denotes a place inside a value as RFC 6901 says it: token by token, a token names a member
where it meets an object, and where it meets an array it has to be the numeral of a position. Looking up
a path finds what its pointer denotes, but at an array it also takes a plus or zeros before the numeral.
-/

namespace JsonSchema

/-! ## Denotation -/

/-- A step from a value to one that it holds. -/
inductive Step where
  | member (name : String)
  | item (position : Nat)
deriving DecidableEq, Repr

/-- The first text is written in a pointer for the second one. -/
inductive Pointer.Token : List Char → List Char → Prop where
  | nil : Token [] []
  | plain {c : Char} {token name : List Char} (tilde : c ≠ '~') (slash : c ≠ '/')
      (rest : Token token name) : Token (c :: token) (c :: name)
  | tilde {token name : List Char} (rest : Token token name) :
      Token ('~' :: '0' :: token) ('~' :: name)
  | slash {token name : List Char} (rest : Token token name) :
      Token ('~' :: '1' :: token) ('/' :: name)

namespace Json

/-- The pointer denotes the place inside the value, and there the second value stands. -/
inductive Denotes : Json → List Char → List Step → Json → Prop where
  | whole (v : Json) : Denotes v [] [] v
  | member {ms : Members} {token text : List Char} {name : String} {place : List Step} {w u : Json}
      (written : Pointer.Token token name.toList) (member : ms.get? name = some w)
      (rest : Denotes w text place u) :
      Denotes (.object ms) ('/' :: (token ++ text)) (.member name :: place) u
  | item {items : List Json} {text : List Char} {i : Nat} {place : List Step} {w u : Json}
      (item : items[i]? = some w) (rest : Denotes w text place u) :
      Denotes (.array items) ('/' :: ((toString i).toList ++ text)) (.item i :: place) u

/-! ## Lookup with its steps -/

/-- The step that a segment takes, and the value that it comes to. -/
def step? : Json → Segment → Option (Step × Json)
  | object ms, s => (Members.get? ms s.text).map (.member s.text, ·)
  | array items, s => s.position?.bind fun i => items[i]?.map (.item i, ·)
  | _, _ => none

/-- The place that a path leads to, and the value there. -/
def track? (v : Json) : Path → Option (List Step × Json)
  | [] => some ([], v)
  | s :: p => (v.step? s).bind fun e => (e.2.track? p).map fun found => (e.1 :: found.1, found.2)

theorem child?_eq_step? (v : Json) (s : Segment) : v.child? s = (v.step? s).map (·.2) := by
  cases v with
  | object ms =>
    rw [child?, step?, Option.map_map]
    exact Option.map_id'.symm
  | array items =>
    rw [child?, step?, Option.map_bind]
    refine Option.bind_congr fun i _ => ?_
    rw [Function.comp_apply, Option.map_map]
    exact Option.map_id'.symm
  | _ => rfl

theorem get?_eq_track? (v : Json) (p : Path) : v.get? p = (v.track? p).map (·.2) := by
  induction p generalizing v with
  | nil => rfl
  | cons s p ih =>
    rw [get?, track?, child?_eq_step?, Option.bind_map, Option.map_bind]
    refine Option.bind_congr fun e _ => ?_
    rw [Function.comp_apply, Function.comp_apply, ih, Option.map_map]
    rfl

end Json

/-! ## Loose numerals -/

/-- Digits with a plus in front of them, or with a zero that says nothing. -/
def Segment.isLoose (s : Segment) : Bool :=
  match s.text.toList with
  | first :: digits =>
    (first == '+' || first == '0') && !digits.isEmpty && digits.all Decimal.isDigit
  | [] => false

namespace Json

def asksLoosely : Json → Segment → Bool
  | array _, s => s.isLoose
  | _, _ => false

/-- On the way an array is asked for a loose numeral. -/
def meetsLoose : Json → Path → Bool
  | _, [] => false
  | v, s :: p => v.asksLoosely s || (v.step? s).any fun e => e.2.meetsLoose p

end Json

namespace Decimal

theorem readNat?_eq_some_iff {cs : List Char} {n : Nat} :
    readNat? cs = some n ↔ cs ≠ [] ∧ cs.all isDigit = true ∧ digitsValue cs = n := by
  simp [readNat?, and_assoc]

end Decimal

namespace Segment

theorem position?_of_text {s : Segment} {i : Nat} (h : s.text = toString i) : s.position? = some i := by
  have htext := congrArg (fun name => (key name).position?) h
  rw [position?_key_toString] at htext
  cases s with
  | key name => exact htext
  | index position =>
    rw [text, position?_key_toString] at htext
    exact htext

/-- Apart from loose numerals, a segment names a position by its numeral. -/
theorem text_of_position? {s : Segment} {i : Nat} (h : s.position? = some i) (hloose : s.isLoose = false) :
    s.text = toString i := by
  cases s with
  | index position =>
    cases h
    rfl
  | key name =>
    rw [isLoose, text] at hloose
    rw [text, ← String.toList_inj, toList_toString]
    unfold position? at h
    dsimp only at h
    split at h
    · next digits heq =>
      obtain ⟨hne, hdigits, _⟩ := Decimal.readNat?_eq_some_iff.1 h
      simp [heq, hne, hdigits] at hloose
    · obtain ⟨hne, hdigits, hvalue⟩ := Decimal.readNat?_eq_some_iff.1 h
      have hcanonical : isCanonicalDecimal name.toList = true := by
        refine (isCanonicalDecimal_iff _).2 ⟨hne, hdigits, ?_⟩
        by_cases hhead : name.toList.head? = some '0'
        · obtain ⟨digits, heq⟩ := List.head?_eq_some_iff.1 hhead
          rw [heq, List.all_cons, Bool.and_eq_true] at hdigits
          simp [heq, hdigits.2] at hloose
          exact .inl (by rw [heq, hloose])
        · exact .inr hhead
      rw [← hvalue, toDigits_of_isCanonicalDecimal hcanonical]

end Segment

/-! ## Tokens -/

namespace Pointer

theorem token_iff {token name : List Char} : Token token name ↔ token = escape name := by
  constructor
  · intro h
    induction h with
    | nil => rfl
    | plain tilde slash _ ih => rw [escape_cons, escape_singleton tilde slash, ← ih]; rfl
    | tilde _ ih | slash _ ih => rw [escape_cons, ← ih]; rfl
  · rintro rfl
    induction name with
    | nil => exact .nil
    | cons c name ih =>
      rw [escape_cons]
      by_cases htilde : c = '~'
      · subst htilde
        exact .tilde ih
      by_cases hslash : c = '/'
      · subst hslash
        exact .slash ih
      rw [escape_singleton htilde hslash]
      exact .plain htilde hslash ih

theorem escape_injective {cs cs' : List Char} (h : escape cs = escape cs') : cs = cs' := by
  have hread := congrArg unescape? h
  rwa [unescape?_escape, unescape?_escape, Option.some.injEq] at hread

theorem escape_eq_self {cs : List Char} (h : ∀ c ∈ cs, c ≠ '~' ∧ c ≠ '/') : escape cs = cs := by
  induction cs with
  | nil => rfl
  | cons c cs ih =>
    obtain ⟨⟨htilde, hslash⟩, hcs⟩ := List.forall_mem_cons.1 h
    rw [escape_cons, escape_singleton htilde hslash, ih hcs, List.singleton_append]

theorem escape_toString (i : Nat) : escape (toString i).toList = (toString i).toList := by
  refine escape_eq_self fun c hc => ?_
  rw [Segment.toList_toString] at hc
  have hdigit := Decimal.isDigit_of_mem_toDigits hc
  constructor
  · rintro rfl
    exact absurd hdigit (by decide)
  · rintro rfl
    exact absurd hdigit (by decide)

theorem renderChars_of_parse {text : String} {p : Path} (hhash : text.toList.head? ≠ some '#')
    (h : parse text = .ok p) : renderChars p = text.toList := by
  rw [← dropHash_of_parse h]
  unfold dropHash
  split
  · next cs heq =>
    rw [heq] at hhash
    exact absurd rfl hhash
  · rfl

/-- A token ends where the text ends or a slash stands. -/
def EndsToken (text : List Char) : Prop := text = [] ∨ text.head? = some '/'

theorem takeWhile_token {token text : List Char} (htoken : '/' ∉ token) (h : EndsToken text) :
    (token ++ text).takeWhile (· ≠ '/') = token := by
  have hplain : ∀ c ∈ token, decide (c ≠ '/') = true := by
    intro c hc
    rw [decide_eq_true_eq]
    rintro rfl
    exact htoken hc
  rw [List.takeWhile_append_of_pos hplain]
  rcases h with rfl | h
  · exact List.append_nil token
  · obtain ⟨rest, rfl⟩ := List.head?_eq_some_iff.1 h
    rw [List.takeWhile_cons_of_neg (by decide), List.append_nil]

theorem token_inj {token token' text text' : List Char} (htoken : '/' ∉ token) (htoken' : '/' ∉ token')
    (hends : EndsToken text) (hends' : EndsToken text') (h : token ++ text = token' ++ text') :
    token = token' ∧ text = text' := by
  have heq := congrArg (List.takeWhile (· ≠ '/')) h
  rw [takeWhile_token htoken hends, takeWhile_token htoken' hends'] at heq
  subst heq
  exact ⟨rfl, List.append_cancel_left h⟩

theorem endsToken_renderChars (p : Path) : EndsToken (renderChars p) := by
  cases p with
  | nil => exact .inl rfl
  | cons s p => rw [renderChars_cons]; exact .inr rfl

end Pointer

namespace Json

open Pointer

theorem Denotes.endsToken {v u : Json} {text : List Char} {place : List Step}
    (h : v.Denotes text place u) : EndsToken text := by
  cases h with
  | whole => exact .inl rfl
  | member | item => exact .inr rfl

/-! ## Lookup and denotation -/

/-- What a pointer denotes is found. -/
theorem track?_of_denotes {v u : Json} {p : Path} {place : List Step}
    (h : v.Denotes (renderChars p) place u) : v.track? p = some (place, u) := by
  induction p generalizing v place with
  | nil =>
    cases h
    rfl
  | cons s p ih =>
    rw [renderChars_cons] at h
    generalize htext : '/' :: (escape s.text.toList ++ renderChars p) = text at h
    cases h with
    | whole => cases htext
    | @member ms token text name place w u written member rest =>
      rw [token_iff] at written
      subst written
      obtain ⟨htoken, rfl⟩ := token_inj (slash_not_mem_escape _) (slash_not_mem_escape _)
        (endsToken_renderChars p) rest.endsToken (List.cons.inj htext).2
      obtain rfl := String.toList_inj.1 (escape_injective htoken)
      rw [track?, step?, member, Option.map_some, Option.bind_some, ih rest]
      rfl
    | @item items text i place w u item rest =>
      rw [← escape_toString] at htext
      obtain ⟨htoken, rfl⟩ := token_inj (slash_not_mem_escape _) (slash_not_mem_escape _)
        (endsToken_renderChars p) rest.endsToken (List.cons.inj htext).2
      have hposition := Segment.position?_of_text (String.toList_inj.1 (escape_injective htoken))
      rw [track?, step?, hposition, Option.bind_some, item, Option.map_some, Option.bind_some, ih rest]
      rfl

/-- What is found without loose numerals is denoted. -/
theorem denotes_of_track? {v u : Json} {p : Path} {place : List Step}
    (h : v.track? p = some (place, u)) (hloose : v.meetsLoose p = false) :
    v.Denotes (renderChars p) place u := by
  induction p generalizing v place with
  | nil =>
    cases h
    exact .whole _
  | cons s p ih =>
    rw [renderChars_cons]
    obtain ⟨⟨step, w⟩, hstep, h⟩ := Option.bind_eq_some_iff.1 h
    obtain ⟨⟨place', u'⟩, hrest, heq⟩ := Option.map_eq_some_iff.1 h
    cases heq
    rw [meetsLoose, hstep, Bool.or_eq_false_iff] at hloose
    obtain ⟨hnumeral, hloose⟩ := hloose
    have hdenotes := ih hrest hloose
    cases v with
    | object ms =>
      obtain ⟨_, hmember, heq⟩ := Option.map_eq_some_iff.1 hstep
      cases heq
      exact .member (token_iff.2 rfl) hmember hdenotes
    | array items =>
      obtain ⟨i, hposition, hstep⟩ := Option.bind_eq_some_iff.1 hstep
      obtain ⟨_, hitem, heq⟩ := Option.map_eq_some_iff.1 hstep
      cases heq
      rw [Segment.text_of_position? hposition hnumeral, escape_toString]
      exact .item hitem hdenotes
    | _ => cases hstep

theorem Denotes.text_unique {v u u' : Json} {text text' : List Char} {place : List Step}
    (h : v.Denotes text place u) (h' : v.Denotes text' place u') : text = text' := by
  induction h generalizing text' with
  | whole =>
    cases h'
    rfl
  | member written member _ ih =>
    cases h' with
    | member written' member' rest' =>
      rw [member, Option.some.injEq] at member'
      subst member'
      rw [token_iff.1 written, token_iff.1 written', ih rest']
  | item item _ ih =>
    cases h' with
    | item item' rest' =>
      rw [item, Option.some.injEq] at item'
      subst item'
      rw [ih rest']

/-- A lookup finds all that its pointer denotes. If no array is asked for a loose numeral on the way, it
finds nothing else, and no other pointer that is as strict leads to the same place. -/
theorem lookup_denotes {text : String} {p : Path} (hhash : text.toList.head? ≠ some '#')
    (hparse : parse text = .ok p) (v : Json) :
    (∀ place u, v.Denotes text.toList place u → v.get? p = some u) ∧
    (v.meetsLoose p = false →
      (∀ u, v.get? p = some u → ∃ place, v.Denotes text.toList place u) ∧
      ∀ text' p', text'.toList.head? ≠ some '#' → parse text' = .ok p' → v.meetsLoose p' = false →
        ∀ place u u', v.track? p = some (place, u) → v.track? p' = some (place, u') → text = text') := by
  have hchars := renderChars_of_parse hhash hparse
  refine ⟨fun place u h => ?_, fun hloose => ⟨fun u h => ?_, ?_⟩⟩
  · rw [← hchars] at h
    rw [get?_eq_track?, track?_of_denotes h, Option.map_some]
  · rw [get?_eq_track?] at h
    obtain ⟨⟨place, _⟩, htrack, rfl⟩ := Option.map_eq_some_iff.1 h
    exact ⟨place, hchars ▸ denotes_of_track? htrack hloose⟩
  · intro text' p' hhash' hparse' hloose' place u u' htrack htrack'
    have hunique := (denotes_of_track? htrack hloose).text_unique (denotes_of_track? htrack' hloose')
    rw [hchars, renderChars_of_parse hhash' hparse'] at hunique
    exact String.toList_inj.1 hunique

/-- A numeral with a zero in front is a name for an object. -/
theorem lookup_denotes_name :
    let v : Json := .object [("01", .array [.null, .object [("~/", .bool true)]])]
    let text := "/01/1/~0~1"
    let p := [Segment.key "01", .index 1, .key "~/"]
    text.toList.head? ≠ some '#' ∧ parse text = .ok p ∧ v.meetsLoose p = false ∧
      v.get? p = some (.bool true) ∧ ∃ place, v.Denotes text.toList place (.bool true) := by
  intro v text p
  have hhash : text.toList.head? ≠ some '#' := by decide
  have hparse : parse text = .ok p := by decide +kernel
  have hloose : v.meetsLoose p = false := by decide +kernel
  have hget : v.get? p = some (.bool true) := by rfl
  exact ⟨hhash, hparse, hloose, hget,
    ((lookup_denotes hhash hparse v).2 hloose).1 _ hget⟩

/-- For an array it should be nothing, but it is found, at the place of the plain numeral. -/
theorem loose_numeral_found :
    ∃ (v u : Json) (p q : Path), parse "/01" = .ok p ∧ v.get? p = some u ∧
      (¬∃ place u, v.Denotes "/01".toList place u) ∧ parse "/1" = .ok q ∧ v.track? p = v.track? q := by
  have htrack : (array [.null, .bool true]).track? [.key "01"] = some ([.item 1], .bool true) := rfl
  refine ⟨.array [.null, .bool true], .bool true, [.key "01"], [.index 1], by decide +kernel, rfl, ?_,
    by decide +kernel, rfl⟩
  rintro ⟨place, u, h⟩
  have hfound := track?_of_denotes (p := [.key "01"]) h
  rw [htrack, Option.some.injEq, Prod.mk.injEq] at hfound
  obtain ⟨rfl, rfl⟩ := hfound
  have hwhole : (Json.bool true).Denotes [] [] (.bool true) := .whole _
  have hplain : (array [.null, .bool true]).Denotes "/1".toList [.item 1] (.bool true) :=
    .item (i := 1) rfl hwhole
  exact absurd (h.text_unique hplain) (by decide)

end Json

end JsonSchema
