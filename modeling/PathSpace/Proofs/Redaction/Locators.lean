import PathSpace.Proofs.Redaction.Patterns
import PathSpace.Proofs.Text.Pieces
/-!
# Logins in locators

A locator may begin with a login, which is a name and a password.  The login is masked as a whole,
but only if nothing in the password ends a part of the locator.

## Key results

- `Secret.login_rewrite_eq_mask_iff`: when a login is masked as a whole
- `Redactor.redactValue_loginLocator`: masking a locator is masking its login and its host
- `Redactor.redactValue_login_iff`: which passwords are masked
- `Redactor.redactValue_passwords_eq_iff`: when passwords cannot be told apart in a masked locator
-/

namespace PathSpace

namespace Secret

open Regex (many)

variable {u p text rest : List Char}

/-- Whether a character ends a part of a locator: a slash, the sign behind a login, or a blank. -/
def endsPart (c : Char) : Bool := c == '/' || c == '@' || Text.isBlank c

/-- A password has no character that would end it. -/
private theorem mem_words_password :
    p ∈ (many passwordChars).words ↔ p ≠ [] ∧ ∀ x ∈ p, endsPart x = false := by
  simp only [Regex.mem_words_many, contains_passwordChars, Bool.not_eq_true', endsPart]

/-- A name has no character that would end it, and no colon. -/
private theorem mem_words_name :
    u ∈ (many nameChars).words ↔ u ≠ [] ∧ ∀ x ∈ u, endsPart x = false ∧ x ≠ ':' := by
  simp only [Regex.mem_words_many, contains_nameChars, contains_passwordChars, Bool.and_eq_true,
    Bool.not_eq_true', bne_iff_ne, endsPart]

/-! ## Where a value falls apart -/

/-- A colon does not end a part. -/
private theorem ne_colon_of_endsPart {c : Char} (hc : endsPart c = true) : c ≠ ':' := by
  rintro rfl
  revert hc
  decide

/-- The characters of tokens do not end a part of a locator. -/
private theorem endsPart_of_tokenChars {c : Char} (hc : tokenChars.contains c = true ∨ c = '.') :
    endsPart c = false ∧ c ≠ ':' := by
  rcases hc with hc | rfl
  · have hranges : tokenChars.ranges = [(45, 45), (48, 57), (65, 90), (95, 95), (97, 122)] := by
      decide
    simp only [CharSet.contains, CharSet.hasNumber, hranges] at hc
    simp only [endsPart, Text.isBlank, ← Char.toNat_inj, ne_eq]
    simp [← Char.toNat_inj] at hc ⊢
    omega
  · decide

/-- What ends a part of a locator is in no token. -/
private theorem token_avoids {c : Char} (hc : endsPart c = true ∨ c = ':') :
    token.avoids c = true := by
  have hnot : ¬(tokenChars.contains c = true ∨ c = '.') := by
    intro htoken
    obtain ⟨hends, hcolon⟩ := endsPart_of_tokenChars htoken
    rcases hc with hc | hc
    · rw [hends] at hc
      cases hc
    · exact hcolon hc
  rw [not_or, Bool.not_eq_true] at hnot
  -- the letters in front of a token are such as it may consist of
  have hletter {x : Char} (hx : tokenChars.contains x = true) : c ≠ x := by
    rintro rfl
    rw [hnot.1] at hx
    cases hx
  have he : c ≠ 'e' := hletter (by decide)
  have hy : c ≠ 'y' := hletter (by decide)
  have hJ : c ≠ 'J' := hletter (by decide)
  simp [token, Regex.avoids, many, Regex.char, CharSet.contains_single, hnot, he, hy, hJ]

/-- Apart from the at sign no login has a character that would end a part. -/
private theorem login_avoids {c : Char} (hc : endsPart c = true) (hat : c ≠ '@') :
    login.avoids c = true := by
  have hcolon := ne_colon_of_endsPart hc
  rw [endsPart] at hc
  simp [login, Regex.avoids, many, Regex.char, CharSet.contains_single, contains_nameChars,
    contains_passwordChars, hc, hat, hcolon]

/-- A login ends with the first sign that ends logins. -/
private theorem IsLogin.eq_append {w : List Char} (h : IsLogin w) :
    ∃ v, w = v ++ ['@'] ∧ '@' ∉ v := by
  obtain ⟨u, hu, p, hp, rfl⟩ := h
  refine ⟨u ++ ':' :: p, by simp, fun hat => ?_⟩
  rw [List.mem_append, List.mem_cons] at hat
  rcases hat with hat | hat | hat
  · exact absurd ((mem_words_name.1 hu).2 _ hat).1 (by decide)
  · cases hat
  · exact absurd ((mem_words_password.1 hp).2 _ hat) (by decide)

/-- What is matched in front of such a sign does not depend on what is behind it. -/
private theorem lead?_login_append (text rest : List Char) :
    login.lead? (text ++ ['@'] ++ rest) =
      (login.lead? (text ++ ['@'])).map fun m => (m.1, m.2 ++ rest) := by
  cases h : login.lead? (text ++ ['@']) with
  | some m =>
    obtain ⟨hw, htext⟩ := lead?_login_iff.1 h
    exact lead?_login_iff.2 ⟨hw, by rw [htext, List.append_assoc]⟩
  | none =>
    have hnone {w : List Char} (hw : IsLogin w) : ¬w <+: text ++ ['@'] := by
      rintro ⟨behind, htext⟩
      rw [lead?_login_iff.2 ⟨hw, htext.symm⟩] at h
      cases h
    cases hall : login.lead? (text ++ ['@'] ++ rest) with
    | none => rfl
    | some m =>
      obtain ⟨hw, htext⟩ := lead?_login_iff.1 hall
      obtain ⟨v, hv, hat⟩ := hw.eq_append
      exfalso
      -- either the login ends in front of the sign, or the sign is in it and not at its end
      rcases List.prefix_or_prefix_of_prefix (List.prefix_append m.1 m.2)
        (htext ▸ List.prefix_append (text ++ ['@']) rest) with hlong | hshort
      · exact hnone hw hlong
      · rw [hv, List.prefix_concat_iff] at hshort
        rcases hshort with heq | hshort
        · exact hnone hw (by rw [hv, heq])
        · exact hat (hshort.subset (by simp))

/-- No match goes on behind the sign that ends logins. -/
private theorem login_rewrite_append {fill : List Char → List Char} (text rest : List Char) :
    login.rewrite fill (text ++ '@' :: rest) =
      login.rewrite fill (text ++ ['@']) ++ login.rewrite fill rest := by
  rw [List.append_cons]
  refine plain_login.rewrite_append fun part hpart hne => ?_
  rcases List.suffix_concat_iff.1 hpart with rfl | ⟨front, rfl, -⟩
  · exact absurd rfl hne
  · exact lead?_login_append front rest

/-! ## Masking a login -/

/-- What stands for a secret in the default settings. -/
def mask : List Char := "[REDACTED]".toList

/-- The mask has no character that would end a part, and no colon. -/
private theorem forall_mem_mask : ∀ x ∈ mask, endsPart x = false ∧ x ≠ ':' := by
  have hall : mask.all (fun x => !endsPart x && x != ':') = true := by decide
  simpa [List.all_eq_true] using hall

/-- A name has no colon. -/
private theorem not_mem_of_mem_words_name (hu : u ∈ (many nameChars).words) : ':' ∉ u := fun hmem =>
  ((mem_words_name.1 hu).2 _ hmem).2 rfl

/-- A login has a colon. -/
private theorem colon_mem (w : List Char) (hw : w ∈ login.words) : ':' ∈ w := by
  obtain ⟨u, -, p, -, rfl⟩ := mem_words_login.1 hw
  exact List.mem_append_right u List.mem_cons_self

/-- A text with a colon begins with a login if there is a name before the first one, and a password
behind it. -/
private theorem lead?_login_colon {part : List Char} (hpart : ':' ∉ part)
    (h : (login.lead? (part ++ ':' :: text)).isSome = true) :
    part ∈ (many nameChars).words ∧
      ∃ p ∈ (many passwordChars).words, ∃ rest, text = p ++ '@' :: rest := by
  obtain ⟨m, hm⟩ := Option.isSome_iff_exists.1 h
  obtain ⟨⟨u, hu, p, hp, hw⟩, htext⟩ := lead?_login_iff.1 hm
  rw [hw, List.append_assoc, List.cons_append, List.append_assoc] at htext
  -- the text is cut at its first colon in one way only
  have hcut : Text.cutAt ':' (part ++ ':' :: text) = some (part, text) :=
    Text.cutAt_eq_some_iff.2 ⟨rfl, hpart⟩
  rw [htext, Text.cutAt_eq_some_iff.2 ⟨rfl, not_mem_of_mem_words_name hu⟩] at hcut
  cases hcut
  exact ⟨hu, p, hp, m.2, rfl⟩

/-- Without a password behind the colon, a name and the colon stay. -/
private theorem login_rewrite_colon {fill : List Char → List Char} (hu : u ∈ (many nameChars).words)
    (hnone : ¬∃ p ∈ (many passwordChars).words, ∃ rest, text = p ++ '@' :: rest) :
    login.rewrite fill (u ++ ':' :: text) = u ++ ':' :: login.rewrite fill text := by
  have hcolon := not_mem_of_mem_words_name hu
  have hlead {part : List Char} (hpart : ':' ∉ part) :
      login.lead? (part ++ ':' :: text) = none := by
    by_contra h
    exact hnone (lead?_login_colon hpart (Option.isSome_iff_ne_none.2 h)).2
  -- no match begins in the name or at the colon, so each part is rewritten on its own
  have halone : login.rewrite fill u = u :=
    plain_login.rewrite_of_not_mem colon_mem hcolon
  have hnil : login.lead? ([] ++ ':' :: text) = none := hlead List.not_mem_nil
  have hbehind : login.rewrite fill (':' :: text) = ':' :: login.rewrite fill text :=
    Regex.rewrite_of_none hnil
  rw [plain_login.rewrite_append, halone, hbehind]
  intro part hpart _
  have hpart : ':' ∉ part := fun hmem => hcolon (hpart.subset hmem)
  rw [hlead hpart, plain_login.lead?_of_not_mem colon_mem hpart]
  rfl

/-- A login is masked as a whole if and only if it has a password. -/
theorem login_rewrite_eq_mask_iff (hu : u ∈ (many nameChars).words) :
    login.rewrite (fun _ => mask) (u ++ ':' :: (p ++ ['@'])) = mask ↔
      p ∈ (many passwordChars).words := by
  constructor
  · intro h
    by_cases hlogin : ∃ p' ∈ (many passwordChars).words, ∃ rest, p ++ ['@'] = p' ++ '@' :: rest
    · -- the login is masked, so there is no room for anything behind it
      obtain ⟨p', hp', rest, heq⟩ := hlogin
      have hlead : login.lead? (u ++ ':' :: (p ++ ['@'])) =
          some (u ++ ':' :: (p' ++ ['@']), rest) :=
        lead?_login_iff.2 ⟨⟨u, hu, p', hp', rfl⟩, by simp [heq]⟩
      rw [plain_login.rewrite_of_some hlead, List.append_right_eq_self] at h
      have hrest : rest = [] := by
        by_contra hne
        exact plain_login.rewrite_ne_nil (fun _ => by decide) hne h
      rw [hrest, List.append_left_inj] at heq
      rwa [heq]
    · -- the colon stays, and the mask has none
      rw [login_rewrite_colon hu hlogin] at h
      have hcolon : ':' ∈ mask := h ▸ List.mem_append_right u List.mem_cons_self
      exact absurd hcolon (by decide)
  · intro hp
    have hlead : login.lead? (u ++ ':' :: (p ++ ['@'])) = some (u ++ ':' :: (p ++ ['@']), []) :=
      lead?_login_iff.2 ⟨⟨u, hu, p, hp, rfl⟩, (List.append_nil _).symm⟩
    rw [plain_login.rewrite_of_some hlead, Regex.rewrite_nil, List.append_nil]

/-! ## What is left of parts -/

/-- Masking tokens leaves a name a name. -/
private theorem token_rewrite_mem_name (hu : u ∈ (many nameChars).words) :
    token.rewrite (fun _ => mask) u ∈ (many nameChars).words := by
  rw [mem_words_name] at hu ⊢
  refine ⟨plain_token.rewrite_ne_nil (fun _ => by decide) hu.1,
    (plain_token.forall_mem_rewrite (fun x hx => token_avoids ?_) fun _ => forall_mem_mask).2 hu.2⟩
  rwa [not_and_or, Bool.not_eq_false, not_not] at hx

/-- Masking tokens neither makes a password of something else nor something else of a password. -/
private theorem token_rewrite_mem_password_iff (hp : p ≠ []) :
    token.rewrite (fun _ => mask) p ∈ (many passwordChars).words ↔ ∀ x ∈ p, endsPart x = false := by
  rw [mem_words_password,
    plain_token.forall_mem_rewrite (fun x hx => token_avoids (.inl (by simpa using hx)))
      fun _ x hx => (forall_mem_mask x hx).1]
  exact and_iff_right (plain_token.rewrite_ne_nil (fun _ => by decide) hp)

end Secret

namespace Redactor

open Secret

/-- Masking with the default settings. -/
private theorem standard_redactValue (value : String) : standard.redactValue value =
    String.ofList (login.rewrite (fun _ => mask) (token.rewrite (fun _ => mask) value.toList)) := by
  have hfill : TemplatePart.filled "[REDACTED]" = fun _ => mask :=
    funext (TemplatePart.filled_of_not_mem (by decide))
  rw [← hfill]
  exact redactValue_ofSettings "[REDACTED]" value

/-- A locator with a login. -/
def loginLocator (user password host : String) : String :=
  "tcp/" ++ user ++ ":" ++ password ++ "@" ++ host

/-- What is left of a locator is what is left of its login and of its host, one behind the other. -/
theorem redactValue_loginLocator (u p h : String) : standard.redactValue (loginLocator u p h) =
    "tcp/" ++ String.ofList (login.rewrite (fun _ => mask)
      (token.rewrite (fun _ => mask) u.toList ++ ':' ::
        (token.rewrite (fun _ => mask) p.toList ++ ['@']))) ++ standard.redactValue h := by
  have htext : (loginLocator u p h).toList =
      "tcp".toList ++ '/' :: (u.toList ++ ':' :: (p.toList ++ '@' :: h.toList)) := by
    simp [loginLocator]
  -- slash, colon and at sign keep tokens apart; slash and at sign keep logins apart
  have htoken : token.rewrite (fun _ => mask) "tcp".toList = "tcp".toList := by
    refine plain_token.rewrite_of_not_mem (x := 'e') (fun w hw => ?_) (by decide)
    obtain ⟨a, -, b, -, c, -, rfl⟩ := mem_words_token.1 hw
    exact List.mem_cons_self
  have hlogin : login.rewrite (fun _ => mask) "tcp".toList = "tcp".toList :=
    plain_login.rewrite_of_not_mem colon_mem (by decide)
  rw [standard_redactValue, standard_redactValue, htext,
    plain_token.rewrite_append_cons (token_avoids (.inl rfl)), htoken,
    plain_token.rewrite_append_cons (token_avoids (.inr rfl)),
    plain_token.rewrite_append_cons (token_avoids (.inl rfl)),
    plain_login.rewrite_append_cons (login_avoids rfl (by decide)), hlogin,
    ← List.cons_append, ← List.append_assoc, login_rewrite_append, ← String.toList_inj]
  simp

/-- A login in a locator is masked if and only if nothing in its password ends a part of the
locator. -/
theorem redactValue_login_iff {u p : String} (h : String) (hu : u ≠ "")
    (hname : ∀ c ∈ u.toList, endsPart c = false ∧ c ≠ ':') (hp : p ≠ "") :
    standard.redactValue (loginLocator u p h) = "tcp/[REDACTED]" ++ standard.redactValue h ↔
      ∀ c ∈ p.toList, endsPart c = false := by
  have huser : u.toList ∈ (Regex.many nameChars).words :=
    mem_words_name.2 ⟨by simpa using hu, hname⟩
  have hpassword : p.toList ≠ [] := by simpa using hp
  have hmask : "tcp/[REDACTED]" = "tcp/" ++ String.ofList mask := by decide
  rw [← token_rewrite_mem_password_iff hpassword,
    ← login_rewrite_eq_mask_iff (token_rewrite_mem_name huser),
    redactValue_loginLocator, hmask, ← String.toList_inj]
  simp only [String.toList_append, String.toList_ofList, List.append_left_inj,
    List.append_right_inj]

/-- A password without anything that ends a part of a locator cannot be told apart from another
password, once the locator has been masked, if and only if the other one is of this kind, too. -/
theorem redactValue_passwords_eq_iff {u p q : String} (h : String) (hu : u ≠ "")
    (hname : ∀ c ∈ u.toList, endsPart c = false ∧ c ≠ ':') (hp : p ≠ "")
    (hpart : ∀ c ∈ p.toList, endsPart c = false) (hq : q ≠ "") :
    standard.redactValue (loginLocator u p h) = standard.redactValue (loginLocator u q h) ↔
      ∀ c ∈ q.toList, endsPart c = false := by
  rw [(redactValue_login_iff h hu hname hp).2 hpart, eq_comm, redactValue_login_iff h hu hname hq]

/-- A password may have colons. -/
theorem redactValue_passwords_of_alice :
    standard.redactValue (loginLocator "alice" "hunter2" "bob:pw@10.0.0.1:7447") =
      standard.redactValue (loginLocator "alice" ":eyJ:" "bob:pw@10.0.0.1:7447") := by
  have hname : ∀ c ∈ "alice".toList, endsPart c = false ∧ c ≠ ':' := by simp; decide
  have hfirst : ∀ c ∈ "hunter2".toList, endsPart c = false := by simp; decide
  have hsecond : ∀ c ∈ ":eyJ:".toList, endsPart c = false := by simp; decide
  exact (redactValue_passwords_eq_iff _ (by decide) hname (by decide) hfirst (by decide)).2 hsecond

/-- A password with a slash stays as it is, and so does the name before it. -/
theorem redactValue_password_shown :
    standard.redactValue (loginLocator "alice" "hun/ter2" "10.0.0.1:7447") =
        loginLocator "alice" "hun/ter2" "10.0.0.1:7447" ∧
      standard.redactValue (loginLocator "alice" "hunter2" "10.0.0.1:7447") ≠
        standard.redactValue (loginLocator "alice" "hun/ter2" "10.0.0.1:7447") := by
  decide +kernel

end Redactor

end PathSpace
