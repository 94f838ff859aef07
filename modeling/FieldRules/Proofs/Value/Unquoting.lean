import FieldRules.Proofs.Json.StringLiteral
import FieldRules.Proofs.Value.Coercion
import Mathlib.Logic.Relation

/-!
# Lists and maps inside quotes

Reading a text as a list or a map reads it as a document, and a document that is a string is read as
text once more.  The text inside a literal is shorter than the literal, so that this comes to an end:
the literals are taken off one by one, and what is left must be the document of a list or a map.

## Main definitions

* `Value.Quotes` — a text is a string literal of another.
* `Value.Reads` — a text has a list or a map inside any number of literals.

## Main statements

* `Value.coerceText_eq_coerce_ofJson` — reading a text is converting the value of its document.
* `Value.coerceText_unquotes` — reading ends, and succeeds exactly for what has a document inside.
-/

namespace FieldRules

/-- The documents that are stored where a kind is expected: arrays as lists and objects as maps. -/
inductive Json.Fits : Kind → Json → Prop where
  | list (items : List Json) : Fits .list (.array items)
  | map (entries : List (String × Json)) : Fits .map (.object entries)

namespace Value

variable {s t inner : String} {kind : Kind} {json : Json} {v w : Value} {fuel fuel' : Nat}

/-! ## Literals -/

/-- A text is, but for blanks around it, a string literal that denotes another text. -/
def Quotes (s t : String) : Prop :=
  ∃ body, Json.IsLiteralBody body t.toList ∧ Text.trim s.toList = '"' :: (body ++ ['"'])

theorem isBlank_of_skipped {c : Char}
    (h : (c == ' ' || c == '\t' || c == '\n' || c == '\r') = true) : Text.isBlank c = true := by
  simp only [Bool.or_eq_true, beq_iff_eq] at h
  rcases h with ((rfl | rfl) | rfl) | rfl <;> decide

/-- Nothing stands before a text without blanks at its ends. -/
theorem skipBlanks_trim (text : List Char) :
    Json.Reader.skipBlanks (Text.trim text) = Text.trim text := by
  cases h : Text.trim text with
  | nil => rfl
  | cons c more =>
    have hc : Text.isBlank c = false := Text.isBlank_of_head?_trim (by rw [h]; rfl)
    refine List.dropWhile_cons_of_neg fun hskip => ?_
    rw [isBlank_of_skipped hskip] at hc
    cases hc

/-- A text is a literal exactly when it is read as a string. -/
theorem quotes_iff : Quotes s t ↔ Json.ofText? (Text.trimmed s) = some (.string t) := by
  rw [Json.ofText?_eq_string_iff, Text.trimmed, String.toList_ofList, skipBlanks_trim]
  constructor
  · rintro ⟨body, hbody, hs⟩
    exact ⟨body, [], hbody, hs, rfl⟩
  · rintro ⟨body, rest, hbody, hs, hrest⟩
    refine ⟨body, hbody, ?_⟩
    cases hlast : rest.getLast? with
    | none => rw [hs, List.getLast?_eq_none_iff.1 hlast]
    | some c =>
      have hend : (Text.trim s.toList).getLast? = some c := by
        rw [hs, List.getLast?_cons, List.getLast?_append, List.getLast?_cons, hlast]
        rfl
      have hskip := List.dropWhile_eq_nil_iff.1 hrest c (List.mem_of_getLast? hlast)
      exact Bool.noConfusion
        ((isBlank_of_skipped hskip).symm.trans (Text.isBlank_of_getLast?_trim hend))

/-- A text that begins with a quote is a literal when the reader leaves nothing after it. -/
theorem quotes_of_string? (hquote : (Text.trim s.toList).head? = some '"')
    (hread : Json.Reader.string? (Text.trim s.toList).tail = some (t, [])) : Quotes s t := by
  obtain ⟨body, hbody, htail⟩ := Json.Reader.string?_eq_some_iff.1 hread
  exact ⟨body, hbody, by rw [← htail, List.cons_head?_tail hquote]⟩

/-- **A literal is longer than the text that it denotes**, by its quotes at least. -/
theorem Quotes.length_le (h : Quotes s t) : t.length + 2 ≤ s.length := by
  obtain ⟨body, hbody, hs⟩ := h
  have htrim := (Text.trim_sublist s.toList).length_le
  have htext := hbody.length_le
  rw [hs, List.length_cons, List.length_append, List.length_singleton] at htrim
  rw [String.length_toList] at htrim htext
  omega

/-- Literals are not taken off without end. -/
theorem wellFounded_quotes : WellFounded fun t s => Quotes s t := by
  refine Subrelation.wf (fun {t s} h => ?_) (measure String.length).wf
  have hlength := Quotes.length_le h
  show t.length < s.length
  omega

/-! ## Reading a text -/

/-- A bound that the text is shorter than is as good as another. -/
theorem coerceDocumentText_congr (h : s.length < fuel) (h' : s.length < fuel') :
    coerceDocumentText fuel s kind = coerceDocumentText fuel' s kind := by
  induction fuel generalizing s fuel' with
  | zero => omega
  | succ fuel ih =>
    cases fuel' with
    | zero => omega
    | succ fuel' =>
      rw [coerceDocumentText, coerceDocumentText]
      split
      · rfl
      · next inner hread =>
        have hlength := (quotes_iff.2 hread).length_le
        exact ih (by omega) (by omega)
      · rfl

/-- A text has the document of a value inside any number of literals: they are taken off one after
the other, and what is left at the end is a list or an object that denotes the value. -/
def Reads (kind : Kind) (t : String) (w : Value) : Prop :=
  ∃ last, Relation.ReflTransGen Quotes t last ∧
    ∃ json, Json.ofText? (Text.trimmed last) = some json ∧ Json.Fits kind json ∧ ofJson json = w

/-- Either the text is the document, or it is a literal with the document inside. -/
theorem reads_iff :
    Reads kind t w ↔
      (∃ json, Json.ofText? (Text.trimmed t) = some json ∧ Json.Fits kind json ∧ ofJson json = w) ∨
        ∃ inner, Quotes t inner ∧ Reads kind inner w := by
  constructor
  · rintro ⟨last, hchain, hdocument⟩
    rcases hchain.cases_head with rfl | ⟨inner, hquotes, hrest⟩
    · exact .inl hdocument
    · exact .inr ⟨inner, hquotes, last, hrest, hdocument⟩
  · rintro (hdocument | ⟨inner, hquotes, last, hrest, hdocument⟩)
    · exact ⟨t, .refl, hdocument⟩
    · exact ⟨last, .head hquotes hrest, hdocument⟩

variable (hkind : kind = .list ∨ kind = .map)

include hkind

theorem coerceText_eq_coerceDocumentText :
    coerceText s kind = coerceDocumentText (s.length + 1) s kind := by
  rcases hkind with rfl | rfl <;> rfl

/-- What is no text is accepted as it is converted. -/
theorem acceptDocument_eq_coerce (hjson : ∀ t, json ≠ .string t) :
    acceptDocument kind (ofJson json) = (ofJson json).coerce kind false := by
  cases json with
  | string t => exact absurd rfl (hjson t)
  | number n =>
    cases n with
    | integer n fits =>
      rw [ofJson, ofJsonNumber]
      split <;> rcases hkind with rfl | rfl <;> rfl
    | float x finite => rcases hkind with rfl | rfl <;> rfl
  | _ => rcases hkind with rfl | rfl <;> rfl

/-- **Reading a text is converting the value of its document**, which reads a text inside it. -/
theorem coerceText_eq_coerce_ofJson (s : String) :
    coerceText s kind = (Json.ofText? (Text.trimmed s)).elim (.error (.badJson s kind))
      fun json => (ofJson json).coerce kind false := by
  rw [coerceText_eq_coerceDocumentText hkind, coerceDocumentText]
  split
  · next hread =>
    rw [hread]
    rfl
  · next inner hread =>
    have hlength := (quotes_iff.2 hread).length_le
    have hany : kind ≠ .any := by rcases hkind with rfl | rfl <;> decide
    rw [hread]
    show coerceDocumentText s.length inner kind = (Value.text inner).coerce kind false
    rw [coerce_text hany, coerceText_eq_coerceDocumentText hkind]
    exact coerceDocumentText_congr (by omega) (by omega)
  · next json hjson hread =>
    rw [hread]
    exact acceptDocument_eq_coerce hkind fun t ht => hjson t (by rw [ht])

/-- A document that is no text is converted exactly when it fits. -/
theorem coerce_ofJson_eq_ok_iff (hjson : ∀ t, json ≠ .string t) :
    (ofJson json).coerce kind false = .ok w ↔ Json.Fits kind json ∧ ofJson json = w := by
  rw [← acceptDocument_eq_coerce hkind hjson]
  cases json with
  | string t => exact absurd rfl (hjson t)
  | number n =>
    have hnumber : acceptDocument kind (ofJson (.number n)) ≠ .ok w := by
      cases n with
      | integer n fits =>
        rw [ofJson, ofJsonNumber]
        split <;> exact nofun
      | float x finite => exact nofun
    exact iff_of_false hnumber (fun h => nomatch h.1)
  | array items =>
    rcases hkind with rfl | rfl
    · exact ⟨fun h => ⟨.list items, Except.ok.inj h⟩, fun h => congrArg Except.ok h.2⟩
    · exact iff_of_false nofun (fun h => nomatch h.1)
  | object entries =>
    rcases hkind with rfl | rfl
    · exact iff_of_false nofun (fun h => nomatch h.1)
    · exact ⟨fun h => ⟨.map entries, Except.ok.inj h⟩, fun h => congrArg Except.ok h.2⟩
  | _ => exact iff_of_false nofun (fun h => nomatch h.1)

/-- One step of reading: a document is taken as it is, and a literal is read inside. -/
theorem coerceText_eq_ok_iff_step :
    coerceText t kind = .ok w ↔
      (∃ json, Json.ofText? (Text.trimmed t) = some json ∧ Json.Fits kind json ∧ ofJson json = w) ∨
        ∃ inner, Quotes t inner ∧ coerceText inner kind = .ok w := by
  have hany : kind ≠ .any := by rcases hkind with rfl | rfl <;> decide
  simp only [quotes_iff]
  rw [coerceText_eq_coerce_ofJson hkind]
  cases hread : Json.ofText? (Text.trimmed t) with
  | none => simp
  | some json =>
    by_cases hjson : ∃ inner, json = .string inner
    · obtain ⟨inner, rfl⟩ := hjson
      have hfits : ¬ Json.Fits kind (.string inner) := nofun
      simp [ofJson, coerce_text hany, hfits]
    · have hother : ∀ inner, json ≠ .string inner := fun inner h => hjson ⟨inner, h⟩
      simp [coerce_ofJson_eq_ok_iff hkind hother, hother]

/-- A text is read as what it has inside. -/
theorem coerceText_eq_ok_iff : coerceText t kind = .ok w ↔ Reads kind t w := by
  induction t using wellFounded_quotes.induction with
  | h t ih =>
    rw [coerceText_eq_ok_iff_step hkind, reads_iff]
    exact or_congr_right (exists_congr fun inner => and_congr_right fun hquotes => ih inner hquotes)

/-- **Lists and maps are read from inside any number of literals.**  Reading a text is converting the
value of its document, and reads again what a literal denotes; this has an end for every text.  The
answer is a value exactly when the text, stripped of literal after literal, is a document of the kind
that denotes the value, and a failure otherwise. -/
theorem coerceText_unquotes (t : String) :
    (∀ s, coerceText s kind = (Json.ofText? (Text.trimmed s)).elim (.error (.badJson s kind))
      fun json => (ofJson json).coerce kind false) ∧
    WellFounded (fun inner s => Json.ofText? (Text.trimmed s) = some (.string inner)) ∧
    (∀ w, coerceText t kind = .ok w ↔ Reads kind t w) ∧
    ((∀ w, ¬ Reads kind t w) → ∃ misfit, coerceText t kind = .error misfit) := by
  refine ⟨coerceText_eq_coerce_ofJson hkind, ?_, fun w => coerceText_eq_ok_iff hkind, fun h => ?_⟩
  · simpa only [quotes_iff] using wellFounded_quotes
  · cases hread : coerceText t kind with
    | error misfit => exact ⟨misfit, rfl⟩
    | ok w => exact absurd ((coerceText_eq_ok_iff hkind).1 hread) (h w)

omit hkind

/-- A list is read from inside two literals, one of which escapes its brackets. -/
theorem coerceText_unquotes_twice :
    Quotes " \"\\\"\\\\u005b7]\\\"\"" "\"\\u005b7]\"" ∧ Quotes "\"\\u005b7]\"" "[7]" ∧
    coerceText " \"\\\"\\\\u005b7]\\\"\"" .list = .ok (.list [.int 7]) := by
  have houter : Quotes " \"\\\"\\\\u005b7]\\\"\"" "\"\\u005b7]\"" :=
    quotes_of_string? (by decide) (by decide)
  have hinner : Quotes "\"\\u005b7]\"" "[7]" :=
    quotes_of_string? (by decide) (by decide)
  have hlist : Reads .list "[7]" (.list [.int 7]) :=
    ((coerceText_unquotes (.inl rfl) "[7]").2.2.1 _).1 (coerceText_of_eq rfl (by decide))
  have hreads : Reads .list " \"\\\"\\\\u005b7]\\\"\"" (.list [.int 7]) :=
    reads_iff.2 (.inr ⟨_, houter, reads_iff.2 (.inr ⟨_, hinner, hlist⟩)⟩)
  exact ⟨houter, hinner, ((coerceText_unquotes (.inl rfl) _).2.2.1 _).2 hreads⟩

end Value

end FieldRules
