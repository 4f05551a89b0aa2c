import PathSpace.Redaction.Redactor
import PathSpace.Proofs.Pattern.Rewriting
/-!
# What secrets look like

The default settings know two kinds of secrets by what they look like: tokens, and the login in a
locator.  Both expressions are plain, so masking rewrites a value twice, first without its tokens
and then without its logins.

## Key results

- `CharSet.contains_compl`: what a complement holds
- `Secret.token`, `Secret.login`: the expressions of the default settings
- `Secret.mem_words_token`, `Secret.lead?_token`: what a token is, and that it is matched as a whole
- `Secret.lead?_login_iff`: a login is matched wherever a text begins with one
- `Redactor.redactValue_ofSettings`: masking with the default patterns is rewriting
-/

namespace PathSpace

/-! ## Sets of characters -/

namespace CharSet

/-- Ranges in increasing order. -/
def Increasing (rs : List (Nat × Nat)) : Prop :=
  (∀ r ∈ rs, r.1 ≤ r.2) ∧ rs.Pairwise fun r r' => r.2 < r'.1

instance (rs : List (Nat × Nat)) : Decidable (Increasing rs) := inferInstanceAs (Decidable (_ ∧ _))

/-- A number lies in a gap of the ranges if it lies in none of them. -/
private theorem any_gaps {n : Nat} (hn : n ≤ maxNumber) {rs : List (Nat × Nat)} {lo : Nat}
    (hrs : Increasing rs) (hlo : ∀ r ∈ rs, lo ≤ r.1) :
    ((gaps lo rs).any fun r => r.1 ≤ n && n ≤ r.2) =
      (lo ≤ n && !rs.any fun r => r.1 ≤ n && n ≤ r.2) := by
  induction rs generalizing lo with
  | nil =>
    rw [gaps]
    split
    · simp [hn]
    · simp; omega
  | cons r rs ih =>
    obtain ⟨a, b⟩ := r
    obtain ⟨hle, hpair⟩ := hrs
    rw [List.pairwise_cons] at hpair
    have hlater : ((gaps (b + 1) rs).any fun r => r.1 ≤ n && n ≤ r.2) =
        (b + 1 ≤ n && !rs.any fun r => r.1 ≤ n && n ≤ r.2) :=
      ih ⟨fun r hr => hle r (List.mem_cons_of_mem _ hr), hpair.2⟩ hpair.1
    have hab : a ≤ b := hle _ List.mem_cons_self
    have hla : lo ≤ a := hlo _ List.mem_cons_self
    have hbehind (h : rs.any (fun r => r.1 ≤ n && n ≤ r.2) = true) : b < n := by
      obtain ⟨r, hr, hn⟩ := List.any_eq_true.1 h
      have hbr := hpair.1 r hr
      simp only [Bool.and_eq_true, decide_eq_true_eq] at hn
      omega
    rw [gaps, List.any_cons, Bool.eq_iff_iff]
    -- is there a gap in front of the first range?
    split
    · rw [List.any_cons, hlater]
      cases hlast : rs.any fun r => r.1 ≤ n && n ≤ r.2 with
      | false => simp; omega
      | true => have := hbehind hlast; simp; omega
    · rw [hlater]
      cases hlast : rs.any fun r => r.1 ≤ n && n ≤ r.2 with
      | false => simp; omega
      | true => simp

/-- A complement holds the characters that are not in the set. -/
theorem contains_compl {s : CharSet} (hs : Increasing s.ranges) (c : Char) :
    s.compl.contains c = !s.contains c := by
  have hc : c.toNat ≤ maxNumber := by
    have hvalid := c.valid
    unfold UInt32.isValidChar Nat.isValidChar at hvalid
    show c.val.toNat ≤ 0x10ffff
    omega
  rw [contains, hasNumber, compl, any_gaps hc hs fun _ _ => Nat.zero_le _]
  simp [contains, hasNumber]

/-- A union of two sets contains what one of them contains. -/
private theorem contains_union {s t : CharSet} (hs : Increasing s.ranges) (ht : Increasing t.ranges)
    (c : Char) : (s.union t).contains c = (s.contains c || t.contains c) :=
  hasNumber_union s t c.toNat hs.1 ht.1

/-- The set of one character contains this character only. -/
theorem contains_single (x c : Char) : (single x).contains c = (c == x) := by
  rw [contains, hasNumber, single, range, if_pos (Nat.le_refl _), Bool.eq_iff_iff, beq_iff_eq,
    ← Char.toNat_inj]
  simp
  omega

/-- The class of white space is the white space of the texts. -/
private theorem contains_blankChars (c : Char) :
    Pattern.blankChars.contains c = Text.isBlank c := by
  have hranges : Pattern.blankChars.ranges =
      [(9, 13), (0x20, 0x20), (0x85, 0x85), (0xa0, 0xa0), (0x1680, 0x1680), (0x2000, 0x200a),
        (0x2028, 0x2029), (0x202f, 0x202f), (0x205f, 0x205f), (0x3000, 0x3000)] := by decide
  simp only [contains, hasNumber, hranges, Text.isBlank]
  rw [Bool.eq_iff_iff]
  simp
  omega

end CharSet

namespace Regex

/-! ## Many characters of a set -/

/-- At least one character of a set, and as many as there are. -/
def many (s : CharSet) : Regex := .repeated (.set s) 1 none true

/-- One character. -/
def char (x : Char) : Regex := .set (.single x)

variable {s : CharSet} {w text : List Char} {x : Char}

/-- The words over a set have letters from it. -/
private theorem mem_kstar_letters : w ∈ KStar.kstar (letters s) ↔ ∀ x ∈ w, s.contains x = true := by
  rw [Language.mem_kstar]
  constructor
  · rintro ⟨parts, rfl, hparts⟩ x hx
    obtain ⟨part, hpart, hx⟩ := List.mem_flatten.1 hx
    obtain ⟨y, hy, rfl⟩ := hparts part hpart
    rwa [List.mem_singleton.1 hx]
  -- the word is cut into words of one letter
  · intro hw
    refine ⟨w.map ([·]), by simp [← List.flatMap_def], fun part hpart => ?_⟩
    obtain ⟨x, hx, rfl⟩ := List.mem_map.1 hpart
    exact ⟨x, hw x hx, rfl⟩

/-- Many characters of a set are one or more. -/
theorem mem_words_many : w ∈ (many s).words ↔ w ≠ [] ∧ ∀ x ∈ w, s.contains x = true := by
  simp only [many, words, pow_one, Language.mem_mul]
  constructor
  · rintro ⟨_, ⟨x, hx, rfl⟩, rest, hrest, rfl⟩
    exact ⟨List.cons_ne_nil _ _, List.forall_mem_cons.2 ⟨hx, mem_kstar_letters.1 hrest⟩⟩
  · rintro ⟨hne, hw⟩
    obtain ⟨x, rest, rfl⟩ := List.exists_cons_of_ne_nil hne
    rw [List.forall_mem_cons] at hw
    exact ⟨[x], ⟨x, hw.1, rfl⟩, rest, mem_kstar_letters.2 hw.2, rfl⟩

/-- One character of the set is enough. -/
theorem singleton_mem_words_many (hx : s.contains x = true) : [x] ∈ (many s).words :=
  mem_words_many.2 ⟨List.cons_ne_nil x [], List.forall_mem_singleton.2 hx⟩

/-- The only word of a character is the character. -/
@[simp] theorem mem_words_char : w ∈ (char x).words ↔ w = [x] := by
  simp [char, words, mem_letters, CharSet.contains_single]

/-- A plain expression matches `w` at the start of a text, and `rest` is behind it. -/
structure Begins (r : Regex) (text w rest : List Char) : Prop where
  plain : r.isPlain = true
  steady : r.isSteady = true
  lead : r.lead? text = some (w, rest)

namespace Begins

variable {a b : Regex} {v rest rest' : List Char}

theorem char (x : Char) (rest : List Char) :
    (Regex.char x).Begins (x :: rest) [x] rest where
  plain := rfl
  steady := rfl
  lead := by
    simp [Regex.char, lead?, outcomes, CharSet.contains_single, Found.pass, Cursor.behind]

theorem many (hw : w ∈ (many s).words) (hrest : ∀ x ∈ rest.head?, s.contains x = false) :
    (many s).Begins (w ++ rest) w rest where
  plain := rfl
  steady := rfl
  lead := lead?_many (mem_words_many.1 hw).1 (mem_words_many.1 hw).2 hrest

/-- What begins with the one and goes on with the other begins with both. -/
theorem cat (ha : a.Begins text w rest) (hb : b.Begins rest v rest') :
    (a.cat b).Begins text (w ++ v) rest' where
  plain := by rw [isPlain, ha.plain, hb.plain]; rfl
  steady := by rw [isSteady, ha.steady, hb.steady]; rfl
  lead := lead?_cat (by rw [isPlain, ha.plain, hb.plain]; rfl)
    (by rw [isSteady, ha.steady, hb.steady]; rfl) ha.lead hb.lead

end Begins

end Regex

namespace Secret

open Regex (many char Begins)

/-- The characters between the dots of a token. -/
def tokenChars : CharSet := .ofRanges [(97, 122), (65, 90), (48, 57), (95, 95), (45, 45)]

/-- The characters of a password in a locator. -/
def passwordChars : CharSet :=
  (((CharSet.single '/').union (.single '@')).union Pattern.blankChars).compl

/-- The characters of the name of a user in a locator. -/
def nameChars : CharSet :=
  ((((CharSet.single '/').union (.single '@')).union (.single ':')).union Pattern.blankChars).compl

/-- A token: three words with dots between them, of which the first begins as JSON does. -/
def token : Regex :=
  ((((((((char 'e').cat (char 'y')).cat (char 'J')).cat (many tokenChars)).cat (char '.')).cat
    (many tokenChars)).cat (char '.')).cat (many tokenChars))

/-- The login in a locator: a name and a password. -/
def login : Regex := (((many nameChars).cat (char ':')).cat (many passwordChars)).cat (char '@')

/-- The first pattern that is used by default is parsed to that of a token. -/
theorem parse?_token : Matcher.parse? "eyJ[a-zA-Z0-9_-]+\\.[a-zA-Z0-9_-]+\\.[a-zA-Z0-9_-]+" =
    some ⟨.ofRegex token, []⟩ := by decide +kernel

/-- The second pattern that is used by default is parsed to that of a login. -/
private theorem parse?_login :
    Matcher.parse? "[^/@:\\s]+:[^/@\\s]+@" = some ⟨.ofRegex login, []⟩ := by
  decide +kernel

/-- The first pattern is plain. -/
theorem plain_token : token.Plain := ⟨rfl, rfl, rfl⟩

/-- The second pattern is plain. -/
theorem plain_login : login.Plain := ⟨rfl, rfl, rfl⟩

/-- A password has no slash, no at sign and no white space. -/
theorem contains_passwordChars (c : Char) :
    passwordChars.contains c = !(c == '/' || c == '@' || Text.isBlank c) := by
  rw [passwordChars, CharSet.contains_compl (by decide),
    CharSet.contains_union (by decide) (by decide), CharSet.contains_union (by decide) (by decide),
    CharSet.contains_single, CharSet.contains_single, CharSet.contains_blankChars]

/-- A name has no colon either. -/
theorem contains_nameChars (c : Char) :
    nameChars.contains c = (passwordChars.contains c && c != ':') := by
  rw [contains_passwordChars, nameChars, CharSet.contains_compl (by decide),
    CharSet.contains_union (by decide) (by decide), CharSet.contains_union (by decide) (by decide),
    CharSet.contains_union (by decide) (by decide), CharSet.contains_single,
    CharSet.contains_single, CharSet.contains_single, CharSet.contains_blankChars]
  grind

variable {w rest : List Char}

/-! ## Tokens -/

/-- A token has three parts, and the first of them begins with eyJ. -/
theorem mem_words_token : w ∈ token.words ↔ ∃ a ∈ (many tokenChars).words,
    ∃ b ∈ (many tokenChars).words, ∃ c ∈ (many tokenChars).words,
      w = 'e' :: 'y' :: 'J' :: (a ++ '.' :: (b ++ '.' :: c)) := by
  simp only [token, Regex.words, Language.mem_mul, Regex.mem_words_char]
  constructor
  · rintro ⟨_, ⟨_, ⟨_, ⟨_, ⟨_, ⟨_, ⟨_, rfl, _, rfl, rfl⟩, _, rfl, rfl⟩, a, ha, rfl⟩, _, rfl, rfl⟩,
      b, hb, rfl⟩, _, rfl, rfl⟩, c, hc, rfl⟩
    exact ⟨a, ha, b, hb, c, hc, by simp⟩
  · rintro ⟨a, ha, b, hb, c, hc, rfl⟩
    exact ⟨_, ⟨_, ⟨_, ⟨_, ⟨_, ⟨_, ⟨_, rfl, _, rfl, rfl⟩, _, rfl, rfl⟩, a, ha, rfl⟩, _, rfl, rfl⟩,
      b, hb, rfl⟩, _, rfl, rfl⟩, c, hc, by simp⟩

/-- A token is matched to its end. -/
theorem lead?_token (hw : w ∈ token.words)
    (hrest : ∀ x ∈ rest.head?, tokenChars.contains x = false) :
    token.lead? (w ++ rest) = some (w, rest) := by
  obtain ⟨a, ha, b, hb, c, hc, rfl⟩ := mem_words_token.1 hw
  have hdot (text : List Char) : ∀ x ∈ ('.' :: text).head?, tokenChars.contains x = false := by
    rintro _ ⟨rfl⟩
    decide
  have hbegins : token.Begins ('e' :: 'y' :: 'J' :: (a ++ '.' :: (b ++ '.' :: (c ++ rest))))
      (((((((['e'] ++ ['y']) ++ ['J']) ++ a) ++ ['.']) ++ b) ++ ['.']) ++ c) rest :=
    (((((((Begins.char 'e' _).cat (.char 'y' _)).cat (.char 'J' _)).cat (.many ha (hdot _))).cat
      (.char '.' _)).cat (.many hb (hdot _))).cat (.char '.' _)).cat (.many hc hrest)
  simpa using hbegins.lead

/-- A token is matched as a whole where nothing follows it. -/
theorem lead?_token_self (hw : w ∈ token.words) : token.lead? w = some (w, []) := by
  have hrest : ∀ x ∈ ([] : List Char).head?, tokenChars.contains x = false := fun _ h => nomatch h
  simpa using lead?_token hw hrest

/-! ## Logins -/

/-- A name and a password, as they stand in a locator. -/
def IsLogin (w : List Char) : Prop :=
  ∃ u ∈ (many nameChars).words, ∃ p ∈ (many passwordChars).words, w = u ++ ':' :: (p ++ ['@'])

/-- The words of the second pattern are the logins. -/
theorem mem_words_login : w ∈ login.words ↔ IsLogin w := by
  simp only [login, Regex.words, Language.mem_mul, Regex.mem_words_char, IsLogin]
  constructor
  · rintro ⟨_, ⟨_, ⟨u, hu, _, rfl, rfl⟩, p, hp, rfl⟩, _, rfl, rfl⟩
    exact ⟨u, hu, p, hp, by simp⟩
  · rintro ⟨u, hu, p, hp, rfl⟩
    exact ⟨_, ⟨_, ⟨u, hu, _, rfl, rfl⟩, p, hp, rfl⟩, _, rfl, by simp⟩

/-- A login is matched wherever a text begins with one. -/
theorem lead?_login_iff {text : List Char} :
    login.lead? text = some (w, rest) ↔ IsLogin w ∧ text = w ++ rest := by
  constructor
  · intro h
    obtain ⟨hw, htext⟩ := Regex.lead?_some rfl rfl h
    exact ⟨mem_words_login.1 hw, htext⟩
  · rintro ⟨⟨u, hu, p, hp, rfl⟩, rfl⟩
    have hbegins : login.Begins (u ++ ':' :: (p ++ '@' :: rest))
        (((u ++ [':']) ++ p) ++ ['@']) rest :=
      (((Begins.many hu (by rintro _ ⟨rfl⟩; decide)).cat (.char ':' _)).cat
        (.many hp (by rintro _ ⟨rfl⟩; decide))).cat (.char '@' _)
    simpa using hbegins.lead

end Secret

namespace Redactor

/-- By default values are searched for tokens and for logins. -/
private theorem valuePatterns_ofSettings (replacement : String) :
    (ofSettings { replacement }).valuePatterns =
      [⟨.ofRegex Secret.token, []⟩, ⟨.ofRegex Secret.login, []⟩] := by
  simp [ofSettings, Secret.parse?_token, Secret.parse?_login]

/-- Masking with the default patterns rewrites a value twice. -/
theorem redactValue_ofSettings (replacement value : String) :
    (ofSettings { replacement }).redactValue value = String.ofList
      (Secret.login.rewrite (TemplatePart.filled replacement)
        (Secret.token.rewrite (TemplatePart.filled replacement) value.toList)) := by
  have henabled : (ofSettings { replacement }).enabled = true := rfl
  rw [redactValue, if_pos henabled, valuePatterns_ofSettings, List.foldl_cons, List.foldl_cons,
    List.foldl_nil, Matcher.replaceAll_eq Secret.plain_token,
    Matcher.replaceAll_eq Secret.plain_login, String.toList_ofList]
  rfl

end Redactor

end PathSpace
