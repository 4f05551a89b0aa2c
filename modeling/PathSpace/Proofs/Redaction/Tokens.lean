import PathSpace.Proofs.Redaction.Patterns
/-!
# Values that are tokens

A value that is a token gives way to the replacement.  Nothing of the token is left unless the
replacement asks for the match: then what is left of a longer token is longer, too.

## Key results

- `Redactor.isToken_iff`: what a token is
- `Redactor.redactValue_tokens_eq_iff`: when tokens cannot be told apart by what is left of them
-/

namespace PathSpace

/-- The first match is all of the text. -/
def Matcher.Covers (m : Matcher) (text : String) : Prop :=
  ∃ f, m.program.search { rest := text.toList } = some f ∧ f.start = 0 ∧ f.behind.rest = []

/-- A plain pattern covers a text if it matches all of it at once. -/
private theorem Matcher.covers_iff {r : Regex} (hr : r.Plain) (text : String) :
    (Matcher.mk (.ofRegex r) []).Covers text ↔ r.lead? text.toList = some (text.toList, []) := by
  constructor
  · rintro ⟨f, hf, hstart, hbehind⟩
    rcases Program.search_cases hr { rest := text.toList } with
      ⟨hsearch, -⟩ | ⟨before, w, rest, hlead, hrest, hsearch, -⟩
    · rw [hsearch] at hf
      cases hf
    · rw [hsearch] at hf
      cases hf
      have hrest : text.toList = before ++ (w ++ rest) := hrest
      have hbefore : 0 + before.length = 0 := hstart
      have hbehind : rest = [] := hbehind
      -- nothing is before the match and nothing behind it
      rw [Nat.zero_add, List.length_eq_zero_iff] at hbefore
      subst hbefore hbehind
      rw [hrest, List.nil_append, hlead, List.append_nil]
  · intro h
    exact ⟨_, Program.search_of_some hr h, rfl, rfl⟩

namespace Redactor

/-- All of a value is matched by the default pattern for tokens. -/
def IsToken (value : String) : Prop :=
  ∃ p ∈ ({} : RedactionSettings).patterns, p.name = "tokens" ∧
    ∃ m, p.valuePattern.bind Matcher.parse? = some m ∧ m.Covers value

/-- A token is a word of the pattern for tokens. -/
theorem isToken_iff (value : String) : IsToken value ↔ value.toList ∈ Secret.token.words := by
  have hcovers : IsToken value ↔ (Matcher.mk (.ofRegex Secret.token) []).Covers value := by
    simp [IsToken, Secret.parse?_token]
  rw [hcovers, Matcher.covers_iff Secret.plain_token]
  constructor
  · intro h
    exact (Regex.lead?_some rfl rfl h).1
  · intro h
    exact Secret.lead?_token_self h

private theorem isToken_of_last {c : List Char} (hc : c ∈ (Regex.many Secret.tokenChars).words) :
    IsToken (String.ofList ("eyJa.b.".toList ++ c)) := by
  rw [isToken_iff, String.toList_ofList, Secret.mem_words_token]
  exact ⟨['a'], Regex.singleton_mem_words_many (by decide), ['b'],
    Regex.singleton_mem_words_many (by decide), c, hc, rfl⟩

/-- There are tokens of any length. -/
private theorem exists_isToken (n : Nat) : ∃ value, IsToken value ∧ n < value.length := by
  have hmany : List.replicate (n + 1) 'c' ∈ (Regex.many Secret.tokenChars).words := by
    refine Regex.mem_words_many.2 ⟨by simp, fun x hx => ?_⟩
    rw [List.eq_of_mem_replicate hx]
    decide
  refine ⟨_, isToken_of_last hmany, ?_⟩
  simp
  omega

/-! ## What is left of a token -/

/-- A replacement asks for what has been matched. -/
def ShowsMatch (replacement : String) : Prop :=
  ∃ name, .ref name ∈ TemplatePart.parse replacement.toList ∧ Matcher.groupNumber? name = some 0

/-- A replacement that does not refer to the match is the same for all matches. -/
private theorem filled_eq_of_not_showsMatch {replacement : String} (h : ¬ShowsMatch replacement)
    (v w : List Char) : TemplatePart.filled replacement v = TemplatePart.filled replacement w := by
  refine List.flatMap_congr fun part hpart => ?_
  cases part with
  | char x => rfl
  | ref name =>
    have hname : ¬Matcher.groupNumber? name = some 0 := fun hname => h ⟨name, hpart, hname⟩
    rw [TemplatePart.fill, if_neg hname, TemplatePart.fill, if_neg hname]

/-- A replacement that shows the match is at least as long. -/
private theorem length_le_filled {replacement : String} (h : ShowsMatch replacement)
    (w : List Char) :
    w.length ≤ (TemplatePart.filled replacement w).length := by
  obtain ⟨name, hpart, hname⟩ := h
  have hfill : TemplatePart.fill w (.ref name) = w := if_pos hname
  rw [TemplatePart.filled, List.flatMap_def]
  exact (List.sublist_flatten_of_mem (List.mem_map.2 ⟨_, hpart, hfill⟩)).length_le

/-- A replacement that asks for the match makes no value shorter. -/
private theorem length_le_redactValue {replacement : String} (h : ShowsMatch replacement)
    (value : String) :
    value.length ≤ ((ofSettings { replacement }).redactValue value).length := by
  have hfill (w : List Char) := length_le_filled h w
  rw [redactValue_ofSettings, String.length_ofList, ← String.length_toList]
  exact (Secret.plain_token.length_le_rewrite (fun w _ => hfill w) _).trans
    (Secret.plain_login.length_le_rewrite (fun w _ => hfill w) _)

/-- Masked tokens look the same, whatever the tokens are, if and only if the replacement does not
ask for the match. -/
theorem redactValue_tokens_eq_iff (replacement : String) :
    (∀ v w, IsToken v → IsToken w → (ofSettings { replacement }).redactValue v =
        (ofSettings { replacement }).redactValue w) ↔ ¬ShowsMatch replacement := by
  constructor
  · intro h hshows
    -- a token that is longer than what is left of another one
    obtain ⟨v, hv, -⟩ := exists_isToken 0
    obtain ⟨w, hw, hlength⟩ :=
      exists_isToken ((ofSettings { replacement }).redactValue v).length
    have hle := length_le_redactValue hshows w
    rw [← h v w hv hw] at hle
    exact Nat.not_lt_of_le hle hlength
  · intro hshows v w hv hw
    -- the first pass leaves the replacement alone, and what the second one sees is the same text
    have hmasked {value : String} (hvalue : IsToken value) :
        Secret.token.rewrite (TemplatePart.filled replacement) value.toList =
          TemplatePart.filled replacement value.toList := by
      have hlead := Secret.lead?_token_self ((isToken_iff value).1 hvalue)
      rw [Secret.plain_token.rewrite_of_some hlead, Regex.rewrite_nil, List.append_nil]
    rw [redactValue_ofSettings, redactValue_ofSettings, hmasked hv, hmasked hw,
      filled_eq_of_not_showsMatch hshows v.toList w.toList]

/-- With the replacement `$0` tokens stay as they are. -/
theorem redactValue_token_shown :
    IsToken "eyJa.b.c" ∧ IsToken "eyJa.b.d" ∧
      (ofSettings { replacement := "$0" }).redactValue "eyJa.b.c" = "eyJa.b.c" ∧
      (ofSettings { replacement := "$0" }).redactValue "eyJa.b.c" ≠
        (ofSettings { replacement := "$0" }).redactValue "eyJa.b.d" := by
  have hc : IsToken "eyJa.b.c" :=
    isToken_of_last (Regex.singleton_mem_words_many (x := 'c') (by decide))
  have hd : IsToken "eyJa.b.d" :=
    isToken_of_last (Regex.singleton_mem_words_many (x := 'd') (by decide))
  exact ⟨hc, hd, by decide +kernel⟩

end Redactor

end PathSpace
