import JsonSchema.Proofs.Coercion.Stage
import JsonSchema.Proofs.Decimal.Numerals
import JsonSchema.Proofs.Decimal.Words
import JsonSchema.Schema.Builder

/-!
# The texts of integers

A schema for numbers reads a text by way of a double. Integers that a double tells from their neighbours come back
as they are, so that reading undoes writing; the others come back as the double nearest to them.
-/

namespace JsonSchema

namespace Schema

variable {s : Schema} {n : Node} {shared : FormatRegistry} {options : CoerceOptions} {v : Json}

theorem coerce_of_kind (hn : s.node? root = some n) (hlink : ∀ target, n.kind ≠ .link target)
    (hhook : n.hooks.coerce = none) (hreference : n.reference? = none) :
    s.coerce shared v options = Coercion.byKind (s.lenientContext shared) options
      ((s.lenientContext shared).convertBelow options 0 root) 0 n v := by
  have hstage : (s.lenientContext shared).stage 0 root = .converted 0 root n := by
    rw [Context.stage_of_node hn hlink, hhook, hreference]
  rw [coerce, coerceAt, Context.coerce_eq_stage, hstage]

section Root

variable (hn : s.node? root = some n) (hhook : n.hooks.coerce = none) (hreference : n.reference? = none)
include hn hhook hreference

theorem coerce_of_number (hkind : n.kind = .number ∨ n.kind = .integer) :
    s.coerce shared v options = .ok v.coerceToNumber := by
  rw [coerce_of_kind hn (by rintro target hlink; rw [hlink] at hkind; simp at hkind) hhook hreference]
  rcases hkind with hkind | hkind <;> rw [Coercion.byKind, hkind]

theorem coerce_of_string (hkind : n.kind = .string) : s.coerce shared v options = .ok v.coerceToString := by
  rw [coerce_of_kind hn (by rintro target hlink; rw [hlink] at hkind; simp at hkind) hhook hreference,
    Coercion.byKind, hkind]

section Text

variable (hkind : n.kind = .number ∨ n.kind = .integer) {k : Int} (fits : FitsWord k) {text : String}
  {before after : List Char} (htext : text.toList = before ++ (toString k).toList ++ after)
  (hbefore : ∀ c ∈ before, Text.isBlank c = true) (hafter : ∀ c ∈ after, Text.isBlank c = true)
include hkind fits htext hbefore hafter

theorem coerce_of_integer_text :
    s.coerce shared (.string text) options =
      .ok (((Number.ofDouble? (Float.ofInt k)).map Json.number).getD (.string text)) := by
  rw [coerce_of_number hn hhook hreference hkind, Json.coerceToNumber,
    Json.numberOfText?_integer fits htext hbefore hafter]

theorem coerce_small_text (hsmall : k.natAbs < 9007199254740992) :
    s.coerce shared (.string text) options = .ok (.number (.int k fits)) := by
  rw [coerce_of_integer_text hn hhook hreference hkind fits htext hbefore hafter,
    Number.ofDouble?_ofInt fits hsmall]
  rfl

theorem coerce_large_text (hlarge : 9007199254740992 ≤ k.natAbs) :
    s.coerce shared (.string text) options =
      .ok (.number (.double (Float.ofInt k) (Number.isFinite_toFloat (.int k fits)))) := by
  rw [coerce_of_integer_text hn hhook hreference hkind fits htext hbefore hafter,
    Number.ofDouble?_ofInt_large fits hlarge]
  rfl

/-- A schema for numbers reads the text of an integer, with blanks around it or without, as the integer itself if
it is below 2 ^ 53, and as the nearest double if not. So it undoes what a schema for strings does to the integers
below 2 ^ 53. -/
theorem coerce_integer_text (shared : FormatRegistry) (options : CoerceOptions) :
    (|k| < 9007199254740992 → s.coerce shared (.string text) options = .ok (.number (.int k fits))) ∧
    (9007199254740992 ≤ |k| → ∃ finite,
      s.coerce shared (.string text) options = .ok (.number (.double (Float.ofInt k) finite)) ∧
        ∀ g : Float, g.isFinite = true →
          |Double.value (Float.ofInt k) - k| ≤ |Double.value g - k|) ∧
    ∀ {t : Schema} {m : Node}, t.node? root = some m → m.hooks.coerce = none → m.reference? = none →
      m.kind = .string → |k| < 9007199254740992 →
        (t.coerce shared (.number (.int k fits)) options >>= fun v => s.coerce shared v options) =
          .ok (.number (.int k fits)) := by
  rw [Int.abs_eq_natAbs]
  refine ⟨fun hsmall => ?_, fun hlarge => ?_, fun ht hhook' hreference' hkind' hsmall => ?_⟩
  · exact coerce_small_text hn hhook hreference hkind fits htext hbefore hafter (by omega)
  · exact ⟨_, coerce_large_text hn hhook hreference hkind fits htext hbefore hafter (by omega),
      fun g hg => Double.nearest_ofInt fits hg⟩
  · have hbare : (toString k).toList = [] ++ (toString k).toList ++ [] := by
      rw [List.nil_append, List.append_nil]
    rw [coerce_of_string ht hhook' hreference' hkind', Except.ok_bind]
    exact coerce_small_text hn hhook hreference hkind fits hbare (List.forall_mem_nil _) (List.forall_mem_nil _)
      (by omega)

end Text

end Root

theorem coerce_integer_text_samples :
    (typed .integer).coerce .empty (.string " -42\n") = .ok (.number (.int (-42) (by decide))) ∧
      (∃ finite, (typed .number).coerce .empty (.string "9223372036854775807") =
        .ok (.number (.double (Float.ofInt 9223372036854775807) finite))) ∧
      ((typed .string).coerce .empty (.number (.int 7 (by decide))) >>= fun v =>
        (typed .number).coerce .empty v) = .ok (.number (.int 7 (by decide))) := by
  have hspaced : " -42\n".toList = [' '] ++ (toString (-42 : Int)).toList ++ ['\n'] := rfl
  have hlarge : "9223372036854775807".toList = [] ++ (toString (9223372036854775807 : Int)).toList ++ [] := rfl
  have hplain : "7".toList = [] ++ (toString (7 : Int)).toList ++ [] := rfl
  refine ⟨?_, ?_, ?_⟩
  · exact (coerce_integer_text (s := typed .integer) rfl rfl rfl (.inr rfl) (by decide) hspaced
      (List.forall_mem_singleton.2 (by decide)) (List.forall_mem_singleton.2 (by decide)) .empty {}).1 (by decide)
  · obtain ⟨finite, hcoerce, _⟩ := (coerce_integer_text (s := typed .number) rfl rfl rfl (.inl rfl) (by decide)
      hlarge (List.forall_mem_nil _) (List.forall_mem_nil _) .empty {}).2.1 (by decide)
    exact ⟨finite, hcoerce⟩
  · exact (coerce_integer_text (s := typed .number) rfl rfl rfl (.inl rfl) (by decide) hplain
      (List.forall_mem_nil _) (List.forall_mem_nil _) .empty {}).2.2 (t := typed .string) rfl rfl rfl rfl (by decide)

/-- The double nearest to the integer is not the integer. -/
theorem large_integer_text_rounded :
    (typed .integer).coerce .empty (.string "9007199254740993") ≠
      .ok (.number (.int 9007199254740993 (by decide))) := by
  have htext : "9007199254740993".toList = [] ++ (toString (9007199254740993 : Int)).toList ++ [] := rfl
  rw [coerce_large_text (s := typed .integer) rfl rfl rfl (.inr rfl) (by decide) htext (List.forall_mem_nil _)
    (List.forall_mem_nil _) (by decide)]
  simp

end Schema

end JsonSchema
