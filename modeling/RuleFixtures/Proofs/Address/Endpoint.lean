import Mathlib.Tactic
import RuleFixtures.Config.RunConfig
import RuleFixtures.Proofs.Traversal

/-!
Which addresses are accepted.

An address is split in front of the first colon and behind two slashes. The authority may be refused
already when it is split off, which happens before the scheme is looked at.

* `AddressParts.splitScheme_eq_iff` and `AddressParts.splitAuthority_eq_iff` say which texts have a
  scheme of letters, and which an authority.
* `AddressParts.hostOf` is the host in an authority, and `AddressParts.hostOf_eq_nil_iff` says when
  there is none.
* `RunConfig.IsEndpoint` holds of absolute addresses of the web; `RunConfig.validate_eq_ok_iff`:
  these are accepted if their authority can be taken, and no others are.
* `RunConfig.validate_eq_error_iff` lists the faults of the others.
-/

namespace RuleFixtures

/-- A list is split in front of the first element that lacks a property. -/
lemma takeWhile_drop_eq_iff {α : Type} {p : α → Bool} {xs front back : List α} :
    xs.takeWhile p = front ∧ xs.drop front.length = back ↔
      xs = front ++ back ∧ (∀ x ∈ front, p x = true) ∧ ∀ x ∈ back.head?, p x = false := by
  constructor
  · rintro ⟨rfl, rfl⟩
    have hdrop : xs.drop (xs.takeWhile p).length = xs.dropWhile p := by
      conv_lhs => arg 2; rw [← List.takeWhile_append_dropWhile (p := p) (l := xs)]
      rw [List.drop_left]
    rw [hdrop]
    refine ⟨List.takeWhile_append_dropWhile.symm, List.all_eq_true.1 List.all_takeWhile, ?_⟩
    intro x hx
    have hnot := List.head?_dropWhile_not p xs
    rw [Option.mem_def] at hx
    rwa [hx] at hnot
  · rintro ⟨rfl, hfront, hback⟩
    have htake : back.takeWhile p = [] := by
      cases back with
      | nil => rfl
      | cons x rest => exact List.takeWhile_cons_of_neg (by simp [hback x rfl])
    rw [List.takeWhile_append_of_pos hfront, htake, List.append_nil]
    exact ⟨rfl, List.drop_left⟩

namespace AddressParts

/-! ### The scheme -/

lemma isAlpha_of_toLower {c : Char} (h : c.toLower.isAlpha = true) : c.isAlpha = true := by
  by_cases hupper : c.isUpper = true
  · have hcases : c.isAlpha = (c.isUpper || c.isLower) := rfl
    rw [hcases, hupper, Bool.true_or]
  · have hsame : c.toLower = c := by
      unfold Char.toLower
      unfold Char.isUpper at hupper
      grind
    rwa [hsame] at h

variable {s scheme rest authority : List Char}

/-- A scheme of letters stands in front of the first colon, in small letters or large ones. -/
lemma splitScheme_eq_iff (hne : scheme ≠ []) (hletters : ∀ c ∈ scheme, c.isAlpha = true) :
    splitScheme s = (scheme, rest) ↔
      ∃ written, s = written ++ ':' :: rest ∧ written.map Char.toLower = scheme := by
  constructor
  · intro h
    obtain ⟨hsplit, -, hcolon⟩ := takeWhile_drop_eq_iff.1
      (⟨rfl, rfl⟩ : s.takeWhile (· ≠ ':') = _ ∧ s.drop (s.takeWhile (· ≠ ':')).length = _)
    simp only [splitScheme] at h
    split at h
    · next c behind first others hdrop hscheme =>
      rw [hdrop] at hsplit hcolon
      obtain rfl : c = ':' := by simpa using hcolon c rfl
      split at h
      · obtain ⟨hlower, rfl⟩ := Prod.mk.inj h
        exact ⟨_, hsplit, hlower⟩
      · exact absurd (Prod.mk.inj h).1.symm hne
    · exact absurd (Prod.mk.inj h).1.symm hne
  · rintro ⟨written, rfl, rfl⟩
    have hwritten : ∀ c ∈ written, c.isAlpha = true := fun c hc =>
      isAlpha_of_toLower (hletters _ (List.mem_map_of_mem hc))
    -- a letter is no colon, so that the scheme is cut off at its end
    have hcolon : ∀ c ∈ written, decide (c ≠ ':') = true := by
      intro c hc
      refine decide_eq_true ?_
      rintro rfl
      exact absurd (hwritten _ hc) (by decide)
    obtain ⟨htake, hdrop⟩ := takeWhile_drop_eq_iff.2
      (⟨rfl, hcolon, by simp⟩ : written ++ ':' :: rest = _ ∧ _)
    obtain ⟨first, others, rfl⟩ := List.exists_cons_of_ne_nil (mt (congrArg (List.map _)) hne)
    have hall : (first :: others).all isSchemeChar = true := by
      refine List.all_eq_true.2 fun c hc => ?_
      simp [isSchemeChar, Char.isAlphanum, hwritten c hc]
    simp only [splitScheme, htake, hdrop]
    simp [hwritten first (by simp), hall]

/-! ### The authority -/

/-- The characters that end an authority. -/
def endsAuthority (c : Char) : Bool := c = '/' || c = '?' || c = '#'

/-- The text starts with two slashes and the authority, and this ends in front of the rest. -/
structure HasAuthority (s authority rest : List Char) : Prop where
  split : s = '/' :: '/' :: (authority ++ rest)
  authority : ∀ c ∈ authority, endsAuthority c = false
  rest : ∀ c ∈ rest.head?, endsAuthority c = true

lemma splitAuthority_eq_iff (hne : authority ≠ []) :
    splitAuthority s = (authority, rest) ↔ HasAuthority s authority rest := by
  have hsplit (behind : List Char) :
      (behind.takeWhile fun c => c ≠ '/' && c ≠ '?' && c ≠ '#') = authority ∧
          behind.drop authority.length = rest ↔
        HasAuthority ('/' :: '/' :: behind) authority rest := by
    -- what the code stops at is what ends an authority
    have hends : (fun c : Char => c ≠ '/' && c ≠ '?' && c ≠ '#') = fun c => !endsAuthority c := by
      funext c
      simp [endsAuthority]
    rw [hends, takeWhile_drop_eq_iff]
    constructor
    · rintro ⟨rfl, hauthority, hrest⟩
      exact ⟨rfl, by simpa using hauthority, by simpa using hrest⟩
    · rintro ⟨hsplit, hauthority, hrest⟩
      exact ⟨by simpa using hsplit, by simpa using hauthority, by simpa using hrest⟩
  constructor
  · intro h
    unfold splitAuthority at h
    split at h
    · next behind =>
      obtain ⟨htake, hdrop⟩ := Prod.mk.inj h
      rw [htake] at hdrop
      exact (hsplit behind).1 ⟨htake, hdrop⟩
    · exact absurd (Prod.mk.inj h).1.symm hne
  · intro h
    obtain rfl := h.split
    obtain ⟨htake, hdrop⟩ := (hsplit _).2 h
    simp only [splitAuthority, htake, hdrop]

/-! ### The host -/

/-- The place in an authority: what stands behind the user. -/
def placeOf (authority : List Char) : List Char :=
  (authority.reverse.takeWhile (· ≠ '@')).reverse

/-- The host in an authority: a numeric address in brackets, or what stands in front of the
port. -/
def hostOf (authority : List Char) : List Char :=
  if '[' ∈ placeOf authority then inBrackets (placeOf authority)
  else (placeOf authority).takeWhile (· ≠ ':')

/-- Without brackets there is no host if there is nothing but a user and a port. -/
lemma hostOf_eq_nil_iff (h : '[' ∉ placeOf authority) :
    hostOf authority = [] ↔ ∀ c ∈ (placeOf authority).head?, c = ':' := by
  rw [hostOf, if_neg h]
  cases placeOf authority with
  | nil => simp
  | cons c rest => by_cases hc : c = ':' <;> simp [hc]

end AddressParts

/-! ### Configurations -/

namespace RunConfig

open AddressParts

/-- The authority in an address, empty if there is none. -/
def authorityOf (url : String) : List Char :=
  (splitAuthority (splitScheme (clean url.toList)).2).1

/-- The scheme of an address in small letters, empty if there is none. -/
def schemeOf (url : String) : String := String.ofList (splitScheme (clean url.toList)).1

/-- The address is absolute, with a scheme of the web and an authority. Blanks in front of it, tabs
and line breaks do not count. -/
def IsEndpoint (url : String) (authority : List Char) : Prop :=
  ∃ scheme behind rest, clean url.toList = scheme ++ ':' :: behind ∧
    String.ofList (scheme.map Char.toLower) ∈ allowedSchemes ∧
    HasAuthority behind authority rest ∧ authority ≠ []

variable {config : RunConfig}

/-- The faults of addresses that are not accepted. -/
inductive Refused (config : RunConfig) : Fault → Prop where
  | missing (h : config.url = "") : Refused config (.failure .missingUrl)
  /-- The authority is refused whatever the scheme is. -/
  | authority {fault : AddressFault} (hurl : config.url ≠ "")
    (h : checkAuthority (authorityOf config.url) = .error fault) : Refused config (.address fault)
  | scheme (hurl : config.url ≠ "") (htaken : checkAuthority (authorityOf config.url) = .ok ())
    (h : schemeOf config.url ∉ allowedSchemes) :
    Refused config (.failure (.refusedScheme (schemeOf config.url) config.url))
  | host (hscheme : schemeOf config.url ∈ allowedSchemes) (h : authorityOf config.url = []) :
    Refused config (.failure (.missingHost config.url))

/-- What is checked of an address that is not empty. -/
lemma validate_eq (hurl : config.url ≠ "") :
    config.validate = match checkAuthority (authorityOf config.url) with
      | .error fault => .error (.address fault)
      | .ok () =>
        if schemeOf config.url ∉ allowedSchemes then
          .error (.failure (.refusedScheme (schemeOf config.url) config.url))
        else if authorityOf config.url = [] then .error (.failure (.missingHost config.url))
        else .ok config := by
  rw [validate, if_neg hurl, AddressParts.read, authorityOf, schemeOf]
  rcases splitScheme (clean config.url.toList) with ⟨scheme, behind⟩
  rcases hauthority : splitAuthority behind with ⟨authority, rest⟩
  cases hcheck : checkAuthority authority with
  | error fault => simp [hcheck, bind, Except.bind, Except.mapError, hauthority]
  | ok _ =>
    by_cases hscheme : String.ofList scheme ∈ allowedSchemes <;>
      simp [hcheck, hauthority, hscheme, bind, Except.bind, Except.mapError, pure, Except.pure,
        throw, throwThe, MonadExceptOf.throw]

lemma url_ne_empty_of_scheme (h : schemeOf config.url ∈ allowedSchemes) : config.url ≠ "" := by
  intro hempty
  rw [hempty] at h
  exact absurd h (by decide)

/-- The faults are those of addresses that are refused. -/
theorem validate_eq_error_iff (fault : Fault) :
    config.validate = .error fault ↔ Refused config fault := by
  constructor
  · intro h
    -- the checks in the order in which they are made
    by_cases hurl : config.url = ""
    · rw [validate, if_pos hurl] at h
      cases h
      exact .missing hurl
    rw [validate_eq hurl] at h
    cases hcheck : checkAuthority (authorityOf config.url) with
    | error found =>
      rw [hcheck] at h
      cases h
      exact .authority hurl hcheck
    | ok _ =>
      rw [hcheck] at h
      dsimp only at h
      split_ifs at h with hscheme hempty
      · cases h
        exact .host hscheme hempty
      · cases h
        exact .scheme hurl hcheck hscheme
  · rintro (hurl | ⟨hurl, hcheck⟩ | ⟨hurl, htaken, hscheme⟩ | ⟨hscheme, hempty⟩)
    · rw [validate, if_pos hurl]
      rfl
    · rw [validate_eq hurl, hcheck]
    · rw [validate_eq hurl, htaken]
      exact if_pos hscheme
    · have htaken : checkAuthority [] = .ok () := rfl
      rw [validate_eq (url_ne_empty_of_scheme hscheme), hempty, htaken]
      dsimp only
      rw [if_neg (not_not.2 hscheme), if_pos rfl]

lemma letters_of_allowed {scheme : List Char} (h : String.ofList scheme ∈ allowedSchemes) :
    scheme ≠ [] ∧ ∀ c ∈ scheme, c.isAlpha = true := by
  simp only [allowedSchemes, List.mem_cons, List.not_mem_nil, or_false] at h
  rcases h with h | h <;> obtain rfl := String.ofList_injective h
  · exact ⟨by decide, List.all_eq_true.1 (by decide)⟩
  · exact ⟨by decide, List.all_eq_true.1 (by decide)⟩

lemma isEndpoint_iff {url : String} {authority : List Char} :
    IsEndpoint url authority ↔
      schemeOf url ∈ allowedSchemes ∧ authorityOf url = authority ∧ authority ≠ [] := by
  rw [schemeOf, authorityOf]
  constructor
  · rintro ⟨written, behind, rest, hsplit, hallowed, hauthority, hne⟩
    obtain ⟨hnonempty, hletters⟩ := letters_of_allowed hallowed
    have hscheme := (splitScheme_eq_iff hnonempty hletters).2 ⟨written, hsplit, rfl⟩
    rw [hscheme, (splitAuthority_eq_iff hne).2 hauthority]
    exact ⟨hallowed, rfl, hne⟩
  · rintro ⟨hallowed, hauthority, hne⟩
    rcases hscheme : splitScheme (clean url.toList) with ⟨scheme, behind⟩
    rw [hscheme] at hallowed hauthority
    obtain ⟨hnonempty, hletters⟩ := letters_of_allowed hallowed
    obtain ⟨written, hsplit, rfl⟩ := (splitScheme_eq_iff hnonempty hletters).1 hscheme
    exact ⟨written, behind, _, hsplit, hallowed,
      (splitAuthority_eq_iff hne).1 (Prod.ext hauthority rfl), hne⟩

/-- Accepted are the addresses of the web whose authority can be taken. -/
theorem validate_eq_ok_iff (valid : RunConfig) :
    config.validate = .ok valid ↔ valid = config ∧
      ∃ authority, IsEndpoint config.url authority ∧ checkAuthority authority = .ok () := by
  constructor
  · intro h
    have hnot (fault : Fault) : ¬Refused config fault := by
      rw [← validate_eq_error_iff, h]
      rintro ⟨⟩
    have hurl : config.url ≠ "" := fun hempty => hnot _ (.missing hempty)
    rcases hcheck : checkAuthority (authorityOf config.url) with fault | ⟨⟨⟩⟩
    · exact absurd (.authority hurl hcheck) (hnot _)
    · have hscheme : schemeOf config.url ∈ allowedSchemes :=
        not_not.1 fun hscheme => hnot _ (.scheme hurl hcheck hscheme)
      have hne : authorityOf config.url ≠ [] := fun hempty => hnot _ (.host hscheme hempty)
      rw [validate_eq hurl, hcheck] at h
      simp only [hscheme, not_true_eq_false, if_false, hne] at h
      cases h
      exact ⟨rfl, _, isEndpoint_iff.2 ⟨hscheme, rfl, hne⟩, hcheck⟩
  · rintro ⟨rfl, authority, hendpoint, hcheck⟩
    obtain ⟨hscheme, rfl, hne⟩ := isEndpoint_iff.1 hendpoint
    rw [validate_eq (url_ne_empty_of_scheme hscheme), hcheck]
    simp only [hscheme, not_true_eq_false, if_false, hne]

end RunConfig

end RuleFixtures
