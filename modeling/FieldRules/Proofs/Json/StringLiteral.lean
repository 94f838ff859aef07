import FieldRules.Json.Reader
import FieldRules.Proofs.Text.Blank
import Mathlib.Data.Option.Basic

/-!
# String literals

A string literal is written by its grammar: between two quotes stand characters from the space on,
other than the quote and the backslash, escapes of one letter, and code units in hexadecimal digits,
of which the surrogates stand in pairs.  The reader reads the literals of this grammar and no others,
and it reads each as the text that the grammar gives it.  A literal is longer than that text by its
quotes at least.

## Main definitions

* `Spells` — what stands for one character between the quotes.
* `IsLiteralBody` — what stands between the quotes, and the text it denotes.

## Main statements

* `Reader.string?_eq_some_iff` — the reader reads the literals of the grammar.
* `ofText?_eq_string_iff` — a document is a string exactly when its text is a literal.
-/

namespace FieldRules.Json

/-! ## The grammar -/

/-- The sixteen digits and their values, the letters in either case. -/
def IsHexDigit (c : Char) (n : Nat) : Prop := n < 16 ∧ (c = n.digitChar ∨ c = n.digitChar.toUpper)

instance (c : Char) (n : Nat) : Decidable (IsHexDigit c n) := instDecidableAnd

/-- Four digits and the code unit that they stand for. -/
inductive IsCodeUnit : List Char → Nat → Prop where
  | digits {a b c d : Char} {i j k l : Nat} (ha : IsHexDigit a i) (hb : IsHexDigit b j)
      (hc : IsHexDigit c k) (hd : IsHexDigit d l) :
      IsCodeUnit [a, b, c, d] (((i * 16 + j) * 16 + k) * 16 + l)

/-- The escapes of one letter: the letter, and the character that it stands for. -/
def letterEscapes : List (Char × Char) :=
  [('"', '"'), ('\\', '\\'), ('/', '/'), ('b', '\x08'), ('f', '\x0c'), ('n', '\n'), ('r', '\r'),
    ('t', '\t')]

/-- What stands for one character between the quotes of a literal. -/
inductive Spells : List Char → Char → Prop where
  /-- A character that stands for itself. -/
  | plain {c : Char} (hspace : 32 ≤ c.toNat) (hquote : c ≠ '"') (hbackslash : c ≠ '\\') :
      Spells [c] c
  | letter {c d : Char} (h : (c, d) ∈ letterEscapes) : Spells ['\\', c] d
  /-- A code unit that is a character of its own. -/
  | unit {digits : List Char} {n : Nat} (h : IsCodeUnit digits n)
      (hscalar : n < 0xD800 ∨ 0xE000 ≤ n) : Spells ('\\' :: 'u' :: digits) (Char.ofNat n)
  /-- A high and a low surrogate. -/
  | pair {first second : List Char} {high low : Nat} (hfirst : IsCodeUnit first high)
      (hsecond : IsCodeUnit second low) (hhigh : 0xD800 ≤ high ∧ high < 0xDC00)
      (hlow : 0xDC00 ≤ low ∧ low < 0xE000) :
      Spells ('\\' :: 'u' :: (first ++ '\\' :: 'u' :: second))
        (Char.ofNat (0x10000 + (high - 0xD800) * 1024 + (low - 0xDC00)))

/-- What stands between the quotes of a literal, and the characters of the text that it denotes. -/
inductive IsLiteralBody : List Char → List Char → Prop where
  | nil : IsLiteralBody [] []
  | cons {spelled body text : List Char} {c : Char} (hc : Spells spelled c)
      (hrest : IsLiteralBody body text) : IsLiteralBody (spelled ++ body) (c :: text)

theorem Spells.length_pos {s : List Char} {c : Char} (h : Spells s c) : 0 < s.length := by
  cases h <;> exact Nat.succ_pos _

theorem Spells.head?_ne {s : List Char} {c : Char} (h : Spells s c) : s.head? ≠ some '"' := by
  cases h with
  | plain hspace hquote hbackslash => simpa using hquote
  | _ => simp

/-- A text is no longer than what stands for it. -/
theorem IsLiteralBody.length_le {body text : List Char} (h : IsLiteralBody body text) :
    text.length ≤ body.length := by
  induction h with
  | nil => exact Nat.le_refl _
  | cons hc hrest ih =>
    have hpos := hc.length_pos
    rw [List.length_cons, List.length_append]
    omega

/-! ## Escapes -/

namespace Reader

variable {s rest : List Char} {c : Char} {n : Nat}

theorem hexValue?_eq_some_iff : hexValue? c = some n ↔ IsHexDigit c n := by
  constructor
  · intro h
    have htable : ∀ k < 128, ∀ m ∈ hexValue? (Char.ofNat k), IsHexDigit (Char.ofNat k) m := by
      decide
    have hrange : c.toNat < 128 := by
      have hnine : ('9' : Char).toNat = 57 := rfl
      simp only [hexValue?, Char.isDigit, Bool.and_eq_true, decide_eq_true_eq, ge_iff_le,
        UInt32.le_iff_toNat_le, Char.toNat_val] at h
      split at h
      · omega
      · split at h
        · omega
        · split at h
          · omega
          · cases h
    have hc := htable c.toNat hrange n
    rw [Char.ofNat_toNat] at hc
    exact hc h
  · rintro ⟨hn, hc⟩
    have htable : ∀ m < 16,
        hexValue? m.digitChar = some m ∧ hexValue? m.digitChar.toUpper = some m := by
      decide
    rcases hc with rfl | rfl
    · exact (htable n hn).1
    · exact (htable n hn).2

theorem hexCode?_eq_some_iff :
    hexCode? s = some (n, rest) ↔ ∃ digits, IsCodeUnit digits n ∧ s = digits ++ rest := by
  constructor
  · intro h
    match s with
    | a :: b :: c :: d :: more =>
      simp only [hexCode?, Option.bind_eq_bind, Option.bind_eq_some_iff, Option.some.injEq,
        Prod.mk.injEq, hexValue?_eq_some_iff] at h
      obtain ⟨i, ha, j, hb, k, hc, l, hd, rfl, rfl⟩ := h
      exact ⟨[a, b, c, d], .digits ha hb hc hd, rfl⟩
    | [] | [_] | [_, _] | [_, _, _] => cases h
  · rintro ⟨_, ⟨ha, hb, hc, hd⟩, rfl⟩
    simp only [← hexValue?_eq_some_iff] at ha hb hc hd
    simp [hexCode?, ha, hb, hc, hd]

/-- What follows `\u` is read as the grammar says. -/
theorem unicodeEscape?_eq_some_iff :
    unicodeEscape? s = some (c, rest) ↔
      ∃ digits, Spells ('\\' :: 'u' :: digits) c ∧ s = digits ++ rest := by
  constructor
  · intro h
    simp only [unicodeEscape?, Option.bind_eq_bind, Option.bind_eq_some_iff, Prod.exists,
      hexCode?_eq_some_iff] at h
    obtain ⟨high, more, ⟨first, hfirst, rfl⟩, h⟩ := h
    split at h
    · next hhigh =>
      split at h
      · next behind =>
        simp only [Option.bind_eq_some_iff, Prod.exists, hexCode?_eq_some_iff] at h
        obtain ⟨low, more, ⟨second, hsecond, rfl⟩, h⟩ := h
        split at h
        · next hlow =>
          obtain ⟨rfl, rfl⟩ := Prod.mk.inj (Option.some.inj h)
          exact ⟨_, .pair hfirst hsecond (by simpa using hhigh) (by simpa using hlow), by simp⟩
        · cases h
      · cases h
    · next hhigh =>
      split at h
      · cases h
      · next hlow =>
        cases h
        simp only [Bool.and_eq_true, decide_eq_true_eq] at hhigh hlow
        exact ⟨first, .unit hfirst (by omega), rfl⟩
  · rintro ⟨digits, hspells, rfl⟩
    cases hspells with
    | letter h => simp [letterEscapes] at h
    | unit h hscalar =>
      have hcode : hexCode? (digits ++ rest) = some _ := hexCode?_eq_some_iff.2 ⟨digits, h, rfl⟩
      simp only [unicodeEscape?, hcode, Option.bind_eq_bind, Option.bind_some]
      rw [if_neg (by simp; omega), if_neg (by simp; omega)]
    | @pair first second high low hfirst hsecond hhigh hlow =>
      have hcode : hexCode? (first ++ '\\' :: 'u' :: (second ++ rest)) = some _ :=
        hexCode?_eq_some_iff.2 ⟨first, hfirst, rfl⟩
      have hcode' : hexCode? (second ++ rest) = some _ :=
        hexCode?_eq_some_iff.2 ⟨second, hsecond, rfl⟩
      rw [List.append_assoc]
      simp only [List.cons_append, unicodeEscape?, hcode, hcode', Option.bind_eq_bind,
        Option.bind_some]
      rw [if_pos (by simpa using hhigh), if_pos (by simpa using hlow)]

/-- What follows a backslash is read as the grammar says. -/
theorem escape?_eq_some_iff :
    escape? s = some (c, rest) ↔ ∃ more, Spells ('\\' :: more) c ∧ s = more ++ rest := by
  constructor
  · intro h
    match s with
    | a :: behind =>
      rw [escape?] at h
      split at h
      · next hself =>
        cases h
        have hc : (c = '"' ∨ c = '\\') ∨ c = '/' := by simpa using hself
        exact ⟨[c], .letter (by rcases hc with (rfl | rfl) | rfl <;> decide), rfl⟩
      · iterate 5
          split at h
          · next hletter =>
            cases h
            rw [eq_of_beq hletter]
            exact ⟨[_], .letter (by decide), rfl⟩
        split at h
        · next hunit =>
          obtain ⟨digits, hspells, rfl⟩ := unicodeEscape?_eq_some_iff.1 h
          rw [eq_of_beq hunit]
          exact ⟨'u' :: digits, hspells, rfl⟩
        · cases h
    | [] => cases h
  · rintro ⟨more, hspells, rfl⟩
    cases hspells with
    | plain hspace hquote hbackslash => exact absurd rfl hbackslash
    | letter h =>
      simp only [letterEscapes, List.mem_cons, Prod.mk.injEq, List.not_mem_nil, or_false] at h
      rcases h with ⟨rfl, rfl⟩ | ⟨rfl, rfl⟩ | ⟨rfl, rfl⟩ | ⟨rfl, rfl⟩ | ⟨rfl, rfl⟩ | ⟨rfl, rfl⟩ |
        ⟨rfl, rfl⟩ | ⟨rfl, rfl⟩ <;> rfl
    | unit h hscalar => exact unicodeEscape?_eq_some_iff.2 ⟨_, .unit h hscalar, rfl⟩
    | pair hfirst hsecond hhigh hlow =>
      exact unicodeEscape?_eq_some_iff.2 ⟨_, .pair hfirst hsecond hhigh hlow, rfl⟩

/-! ## Literals -/

variable {spelled body text : List Char} {fuel : Nat}

/-- Reading takes one spelled character off the front. -/
theorem stringBody?_spelled (h : Spells spelled c) (fuel : Nat) (s : List Char) :
    stringBody? (fuel + 1) (spelled ++ s) =
      (stringBody? fuel s).map fun read => (c :: read.1, read.2) := by
  have hescape {more : List Char} (hmore : Spells ('\\' :: more) c) :
      stringBody? (fuel + 1) ('\\' :: (more ++ s)) =
        (stringBody? fuel s).map fun read => (c :: read.1, read.2) := by
    rw [stringBody?, if_neg (by decide), if_pos (by decide),
      escape?_eq_some_iff.2 ⟨more, hmore, rfl⟩]
    exact (Option.map_eq_bind ..).symm
  cases h with
  | plain hspace hquote hbackslash =>
    rw [List.singleton_append, stringBody?, if_neg (by simpa using hquote),
      if_neg (by simpa using hbackslash), if_neg (by omega)]
    exact (Option.map_eq_bind ..).symm
  | letter h => exact hescape (.letter h)
  | unit h hscalar => exact hescape (.unit h hscalar)
  | pair hfirst hsecond hhigh hlow => exact hescape (.pair hfirst hsecond hhigh hlow)

/-- What the grammar allows between the quotes is read, given steps enough. -/
theorem stringBody?_of_isLiteralBody (h : IsLiteralBody body text) (hfuel : body.length < fuel)
    (rest : List Char) : stringBody? fuel (body ++ '"' :: rest) = some (text, rest) := by
  induction h generalizing fuel with
  | nil =>
    cases fuel with
    | zero => omega
    | succ fuel => rfl
  | @cons spelled body text c hc hrest ih =>
    have hpos := hc.length_pos
    rw [List.length_append] at hfuel
    cases fuel with
    | zero => omega
    | succ fuel =>
      rw [List.append_assoc, stringBody?_spelled hc, ih (by omega)]
      rfl

/-- What is read is what the grammar allows. -/
theorem isLiteralBody_of_stringBody? (h : stringBody? fuel s = some (text, rest)) :
    ∃ body, IsLiteralBody body text ∧ s = body ++ '"' :: rest := by
  induction fuel generalizing s text with
  | zero => cases h
  | succ fuel ih =>
    match s with
    | [] => cases h
    | a :: behind =>
      rw [stringBody?] at h
      split at h
      · next hquote =>
        cases h
        exact ⟨[], .nil, by rw [eq_of_beq hquote]; rfl⟩
      · next hquote =>
        split at h
        · next hbackslash =>
          simp only [Option.bind_eq_bind, Option.bind_eq_some_iff, Prod.exists, Option.some.injEq,
            Prod.mk.injEq, escape?_eq_some_iff] at h
          obtain ⟨c, _, ⟨more, hspells, rfl⟩, text, _, hread, rfl, rfl⟩ := h
          obtain ⟨body, hbody, rfl⟩ := ih hread
          exact ⟨'\\' :: more ++ body, .cons hspells hbody, by simp [eq_of_beq hbackslash]⟩
        · next hbackslash =>
          split at h
          · cases h
          · next hspace =>
            simp only [Option.bind_eq_bind, Option.bind_eq_some_iff, Prod.exists, Option.some.injEq,
              Prod.mk.injEq] at h
            obtain ⟨text, _, hread, rfl, rfl⟩ := h
            obtain ⟨body, hbody, rfl⟩ := ih hread
            have hplain : Spells [a] a :=
              .plain (by omega) (by simpa using hquote) (by simpa using hbackslash)
            exact ⟨[a] ++ body, .cons hplain hbody, rfl⟩

/-- **The reader reads the literals of the grammar**, after their opening quote. -/
theorem string?_eq_some_iff {t : String} :
    string? s = some (t, rest) ↔ ∃ body, IsLiteralBody body t.toList ∧ s = body ++ '"' :: rest := by
  simp only [string?, Option.bind_eq_bind, Option.bind_eq_some_iff, Prod.exists, Option.some.injEq,
    Prod.mk.injEq]
  constructor
  · rintro ⟨text, _, hread, rfl, rfl⟩
    rw [String.toList_ofList]
    exact isLiteralBody_of_stringBody? hread
  · rintro ⟨body, hbody, rfl⟩
    have hfuel : body.length < (body ++ '"' :: rest).length + 1 := by
      rw [List.length_append]
      omega
    exact ⟨t.toList, rest, stringBody?_of_isLiteralBody hbody hfuel rest, String.ofList_toList, rfl⟩

/-! ## Documents -/

/-- Only a literal is read as a string. -/
theorem value?_eq_string_iff {depth : Nat} {t : String} :
    value? (fuel + 1) depth s = some (.string t, rest) ↔
      ∃ body, IsLiteralBody body t.toList ∧ skipBlanks s = '"' :: (body ++ '"' :: rest) := by
  constructor
  · intro h
    rw [value?] at h
    split at h
    case h_2 behind hbehind =>
      simp only [Option.bind_eq_bind, Option.bind_eq_some_iff, Prod.exists, Option.some.injEq,
        Prod.mk.injEq, Json.string.injEq, string?_eq_some_iff] at h
      obtain ⟨_, _, ⟨body, hbody, rfl⟩, rfl, rfl⟩ := h
      exact ⟨body, hbody, hbehind⟩
    all_goals repeat' split at h
    all_goals simp [Option.bind_eq_some_iff] at h
  · rintro ⟨body, hbody, hs⟩
    rw [value?, hs]
    simp only [string?_eq_some_iff.2 ⟨body, hbody, rfl⟩, Option.bind_eq_bind, Option.bind_some]

/-- A whole text is a string exactly when it is a literal with blanks around it. -/
theorem document?_eq_string_iff {t : String} :
    document? s = some (.string t) ↔
      ∃ body rest, IsLiteralBody body t.toList ∧ skipBlanks s = '"' :: (body ++ '"' :: rest) ∧
        skipBlanks rest = [] := by
  simp only [document?, Option.bind_eq_bind, Option.bind_eq_some_iff, Prod.exists, List.isEmpty_iff,
    Option.ite_none_right_eq_some, Option.some.injEq]
  constructor
  · rintro ⟨_, rest, hread, hrest, rfl⟩
    obtain ⟨body, hbody, hs⟩ := value?_eq_string_iff.1 hread
    exact ⟨body, rest, hbody, hs, hrest⟩
  · rintro ⟨body, rest, hbody, hs, hrest⟩
    exact ⟨_, rest, value?_eq_string_iff.2 ⟨body, hbody, hs⟩, hrest, rfl⟩

end Reader

theorem normalize_eq_string_iff {json : Json} {t : String} :
    json.normalize = .string t ↔ json = .string t := by
  cases json <;> simp [normalize]

/-- **A document is a string exactly when its text is a literal**, but for the blanks around it. -/
theorem ofText?_eq_string_iff {s t : String} :
    ofText? s = some (.string t) ↔
      ∃ body rest, IsLiteralBody body t.toList ∧
        Reader.skipBlanks s.toList = '"' :: (body ++ '"' :: rest) ∧ Reader.skipBlanks rest = [] := by
  simp only [ofText?, Option.map_eq_some_iff, normalize_eq_string_iff, exists_eq_right]
  exact Reader.document?_eq_string_iff

end FieldRules.Json
