import Mathlib.Data.List.Forall2
import Mathlib.Data.List.TakeWhile
import Mathlib.Tactic
import RuleFixtures.CommandLine.Invocation

/-!
Flags that are written with one dash and with two.

The name of most flags is a word, and it may stand behind one dash or behind two. Both ways lead to
the same flag, but the arguments of one dash have rules of their own: letters of flags without a
value may be written together behind one dash only.

* `Respelled` relates an argument to the same argument with a dash more.
* `Compared` relates what two command lines come to, with `Compared.bind` for their steps.
* `Invocation.read_respelled`: command lines whose arguments are respelled come to the same, except
  for a flag without a value that has further flags attached, and for arguments with blanks that are
  flags of the other command.
-/

namespace RuleFixtures.CommandLine

/-! ### Spellings -/

/-- The word that names a flag behind one dash and behind two. -/
def Flag.word? : Flag → Option String
  | .url => some "url"
  | .tokenFile => some "token-file"
  | .ca => some "ca"
  | .insecure => some "insecure"
  | .recordingRule => some "recording-rule"
  | .alertingRule => some "alerting-rule"
  | .ruleFile => some "rule-file"
  | .help | .verbose | .form | .output => none

lemma Flag.names_of_word {flag : Flag} {word : String} (h : flag.word? = some word) :
    flag.names = ["-" ++ word, "--" ++ word] := by
  cases flag <;> simp only [word?, Option.some.injEq, reduceCtorEq] at h <;> subst h <;> rfl

/-- A name, perhaps with a text behind an equals sign. -/
def written (name : String) : Option String → String
  | none => name
  | some text => name ++ "=" ++ text

/-- The second argument is the first one, perhaps with two dashes instead of one. -/
inductive Respelled : String → String → Prop where
  | same (argument : String) : Respelled argument argument
  | doubled {flag : Flag} {word : String} (h : flag.word? = some word) (attached : Option String) :
    Respelled (written ("-" ++ word) attached) (written ("--" ++ word) attached)

namespace Token

lemma splitEquals_written {name : String} (h : '=' ∉ name.toList) (attached : Option String) :
    splitEquals (written name attached) = (name, attached) := by
  have hname (rest : List Char) :
      (name.toList ++ '=' :: rest).takeWhile (· ≠ '=') = name.toList := by
    rw [List.takeWhile_append_of_pos fun c hc => decide_eq_true (ne_of_mem_of_not_mem hc h)]
    simp
  cases attached with
  | none =>
    have hall : name.toList.takeWhile (· ≠ '=') = name.toList :=
      List.takeWhile_eq_self_iff.2 fun c hc => decide_eq_true (ne_of_mem_of_not_mem hc h)
    simp only [splitEquals, written, hall, List.drop_length]
  | some text =>
    have htext : (name ++ "=" ++ text).toList = name.toList ++ '=' :: text.toList := by simp
    simp only [splitEquals, written, htext, hname, List.drop_left, String.ofList_toList]

end Token

namespace Command

lemma notMem_of_mem_named {command : Command} :
    ∀ entry ∈ command.named, '=' ∉ entry.1.toList := by
  cases command <;> decide

lemma head_of_mem_named {command : Command} :
    ∀ entry ∈ command.named, entry.1.toList.head? = some '-' := by
  cases command <;> decide

/-- A name belongs to one flag only. -/
lemma flag?_of_mem_named {command : Command} :
    ∀ entry ∈ command.named, command.flag? entry.1 = some entry.2 := by
  cases command <;> decide

lemma mem_named_of_flag? {command : Command} {name : String} {flag : Flag}
    (h : command.flag? name = some flag) : (name, flag) ∈ command.named := by
  obtain ⟨entry, hentry, rfl⟩ := Option.map_eq_some_iff.1 h
  obtain rfl : entry.1 = name := by simpa using List.find?_some hentry
  exact List.mem_of_find?_eq_some hentry

lemma flag?_eq_none {command : Command} {name : String} (h : '=' ∈ name.toList) :
    command.flag? name = none :=
  Option.eq_none_iff_forall_ne_some.2 fun _ hflag =>
    notMem_of_mem_named _ (mem_named_of_flag? hflag) h

/-- The flags of one letter. -/
lemma letter_of_flag? {command : Command} {letter : Char} {flag : Flag}
    (h : command.flag? (String.ofList ['-', letter]) = some flag) :
    letter = 'h' ∨ letter = 'v' ∨ letter = 'o' ∧ command = .generate := by
  have hnamed : ∀ entry ∈ command.named, entry.1.toList.length = 2 →
      entry.1.toList[1]? = some 'h' ∨ entry.1.toList[1]? = some 'v' ∨
        entry.1.toList[1]? = some 'o' ∧ command = .generate := by
    cases command <;> decide
  simpa using hnamed _ (mem_named_of_flag? h)

end Command

namespace Token

variable {command : Command}

/-- The name of a flag, with or without a value, stands for this flag. -/
lemma ofArgument_written {name : String} {flag : Flag} (h : (name, flag) ∈ command.named)
    (attached : Option String) :
    ofArgument command (written name attached) = .ok (.option ⟨flag, name, attached⟩) := by
  have hname : command.flag? name = some flag := Command.flag?_of_mem_named _ h
  have hhead : (written name attached).toList.head? = some '-' := by
    have := Command.head_of_mem_named _ h
    cases attached <;> simp_all [written]
  rw [ofArgument, splitEquals_written (Command.notMem_of_mem_named _ h), hhead]
  cases attached with
  | none => simp [written, hname]
  | some text =>
    have hnone : command.flag? (name ++ "=" ++ text) = none :=
      Command.flag?_eq_none (by simp)
    have hdash : name ++ "=" ++ text ≠ "-" := by
      intro heq
      have hmem : '=' ∈ (name ++ "=" ++ text).toList := by simp
      rw [heq] at hmem
      exact absurd hmem (by decide)
    simp [written, hnone, hdash, hname]

end Token

/-! ### Comparing what command lines come to -/

/-- How what two command lines come to compares: both give a result, and the results are related;
or both end, in error or not; or the second one ends in one of some ways. -/
inductive Compared (refused : Exit → Prop) {α : Type} (related : α → α → Prop) :
    Except Exit α → Except Exit α → Prop where
  | given {x y : α} (h : related x y) : Compared refused related (.ok x) (.ok y)
  | ended {exit other : Exit} (h : exit.code = other.code) :
    Compared refused related (.error exit) (.error other)
  | refused (result : Except Exit α) {exit : Exit} (h : refused exit) :
    Compared refused related result (.error exit)

namespace Compared

variable {refused : Exit → Prop} {α γ : Type} {related : α → α → Prop}

lemma refl (hrelated : ∀ x, related x x) (result : Except Exit α) :
    Compared refused related result result := by
  cases result with
  | ok x => exact .given (hrelated x)
  | error exit => exact .ended rfl

/-- Steps that compare, one after the other. -/
lemma bind {related' : γ → γ → Prop} {r s : Except Exit α} {f g : α → Except Exit γ}
    (h : Compared refused related r s)
    (hnext : ∀ x y, related x y → Compared refused related' (f x) (g y)) :
    Compared refused related' (r >>= f) (s >>= g) := by
  cases h with
  | given h => exact hnext _ _ h
  | ended h => exact .ended h
  | refused result h => exact .refused _ h

end Compared

/-! ### Steps of the arguments -/

namespace Assignment

/-- Takes the flags of an argument up, and goes on. -/
def goOn (command : Command) (found : Cluster) (value : Option String)
    (tail : Except Exit (List Assignment × List String)) :
    Except Exit (List Assignment × List String) := do
  let taken := found.switches.map (fun flag => (⟨flag, none⟩ : Assignment)) ++ [⟨found.last, value⟩]
  take command taken
  let (more, extra) ← tail
  return (taken ++ more, extra)

/-- The value that comes next, and what is behind it. -/
def nextValue? : List (String × Token) → Option (String × List (String × Token))
  | (value, .value) :: after => some (value, after)
  | _ => none

lemma ofTokens_option (command : Command) (argument : String) (spelling : Spelling)
    (rest : List (String × Token)) :
    ofTokens command ((argument, .option spelling) :: rest) =
      ((clusterOf command spelling).mapError (.usage command) >>= fun found =>
        match found.attached with
        | some value => goOn command found (some value) (ofTokens command rest)
        | none =>
          if found.last.takesValue then
            match nextValue? rest with
            | some (value, after) => goOn command found (some value) (ofTokens command after)
            | none => .error (.usage command (.expectedValue found.last))
          else goOn command found none (ofTokens command rest)) := by
  rw [ofTokens]
  refine bind_congr fun found => ?_
  cases found.attached with
  | some value => rfl
  | none =>
    dsimp only
    split
    · rcases rest with _ | ⟨⟨value, token⟩, after⟩
      · rfl
      · cases token <;> rfl
    · rfl

lemma ofTokens_other (command : Command) (argument : String) {token : Token}
    (h : ∀ spelling, token ≠ .option spelling) (rest : List (String × Token)) :
    ofTokens command ((argument, token) :: rest) =
      (ofTokens command rest >>= fun result => .ok (result.1, argument :: result.2)) := by
  rw [ofTokens]
  · rfl
  · exact h

end Assignment

/-! ### Arguments that compare -/

section Arguments

variable (paired : String → String → Prop)

/-- A flag without a value has letters of other flags attached, which are not taken behind two
dashes. -/
inductive IgnoredLetters (command : Command) : Exit → Prop where
  | ignored {letter : Char} {text : String} {rest : List Char}
    (htext : text.toList = letter :: rest)
    (hletter : letter = 'h' ∨ letter = 'v' ∨ letter = 'o' ∧ command = .generate)
    (hpaired : paired (written "-insecure" (some text)) (written "--insecure" (some text))) :
    IgnoredLetters command (.usage command (.ignoredValue .insecure text))

/-- The second value is the first one, or the flag of another command with a blank in its text. -/
inductive SameValue (command : Command) : String → String → Prop where
  | same (value : String) : SameValue command value value
  | foreign {text : String} (hcommand : command = .inspect) (hblank : ' ' ∈ text.toList)
    (hpaired : paired (written "-rule-file" (some text)) (written "--rule-file" (some text))) :
    SameValue command (written "-rule-file" (some text)) (written "--rule-file" (some text))

/-- Arguments that stand for the same. -/
inductive SameToken (command : Command) : String × Token → String × Token → Prop where
  | same (entry : String × Token) : SameToken command entry entry
  | option (argument other : String) {spelling spelling' : Spelling}
    (h : Compared (IgnoredLetters paired command) Eq
      ((Assignment.clusterOf command spelling).mapError (.usage command))
      ((Assignment.clusterOf command spelling').mapError (.usage command))) :
    SameToken command (argument, .option spelling) (other, .option spelling')
  | unknown (argument other : String) :
    SameToken command (argument, .unknown) (other, .unknown)
  | value {value other : String} (h : SameValue paired command value other) :
    SameToken command (value, .value) (other, .value)

/-- Lists of arguments that stand for the same; behind two dashes the arguments do not matter. -/
inductive SameTokens (command : Command) :
    List (String × Token) → List (String × Token) → Prop where
  | nil : SameTokens command [] []
  | cons {entry other : String × Token} {entries others : List (String × Token)}
    (h : SameToken paired command entry other) (hrest : SameTokens command entries others) :
    SameTokens command (entry :: entries) (other :: others)
  | behind (argument : String) (values others : List String) :
    SameTokens command ((argument, .separator) :: values.map (·, .value))
      ((argument, .separator) :: others.map (·, .value))

/-- Flags with the same values. -/
inductive SameAssignment (command : Command) : Assignment → Assignment → Prop where
  | same (assignment : Assignment) : SameAssignment command assignment assignment
  | value (flag : Flag) {value other : String} (h : SameValue paired command value other) :
    SameAssignment command ⟨flag, some value⟩ ⟨flag, some other⟩

/-- Flags with the same values, and arguments that no flag takes in both lists or in none. -/
def SameResult (command : Command) (result other : List Assignment × List String) : Prop :=
  List.Forall₂ (SameAssignment paired command) result.1 other.1 ∧ (result.2 = [] ↔ other.2 = [])

variable {paired} {command : Command}

lemma SameValue.mem_iff {value other : String} (h : SameValue paired command value other) :
    ∀ flag : Flag, value ∈ flag.choices ↔ other ∈ flag.choices := by
  intro flag
  cases h with
  | same => rfl
  | foreign _ hblank _ =>
    have hchoice : ∀ choice ∈ flag.choices, '=' ∉ choice.toList := by
      cases flag <;> decide
    exact iff_of_false (fun hmem => hchoice _ hmem (by simp [written]))
      fun hmem => hchoice _ hmem (by simp [written])

namespace Assignment

lemma compared_take {assignments others : List Assignment}
    (h : List.Forall₂ (SameAssignment paired command) assignments others) :
    Compared (IgnoredLetters paired command) Eq (take command assignments)
      (take command others) := by
  induction h with
  | nil => exact .given rfl
  | @cons assignment other rest rests h hrest ih =>
    have hflag : other.flag = assignment.flag := by cases h <;> rfl
    have hcheck : Compared (IgnoredLetters paired command) Eq
        (assignment.check.mapError (.usage command)) (other.check.mapError (.usage command)) := by
      cases h with
      | same => exact .refl (fun _ => rfl) _
      | value flag h =>
        simp only [check, List.contains_iff_mem, h.mem_iff, Bool.or_eq_true]
        split
        · exact .given rfl
        · exact .ended rfl
    rw [take, take, hflag]
    split
    · exact .ended rfl
    · exact hcheck.bind fun _ _ _ => ih

lemma compared_goOn (found : Cluster) {value other : Option String}
    (hvalue : ∀ flag, SameAssignment paired command ⟨flag, value⟩ ⟨flag, other⟩)
    {tail tail' : Except Exit (List Assignment × List String)}
    (h : Compared (IgnoredLetters paired command) (SameResult paired command) tail tail') :
    Compared (IgnoredLetters paired command) (SameResult paired command)
      (goOn command found value tail) (goOn command found other tail') := by
  have htaken : List.Forall₂ (SameAssignment paired command)
      (found.switches.map (fun flag => (⟨flag, none⟩ : Assignment)) ++ [⟨found.last, value⟩])
      (found.switches.map (fun flag => (⟨flag, none⟩ : Assignment)) ++ [⟨found.last, other⟩]) :=
    List.rel_append (List.forall₂_same.2 fun _ _ => .same _)
      (.cons (hvalue _) .nil)
  refine (compared_take htaken).bind fun _ _ _ => h.bind fun result other hresult => ?_
  exact .given ⟨List.rel_append htaken hresult.1, hresult.2⟩

/-- Values that come next are the same, and so is what is behind them. -/
lemma nextValue?_of_same {tokens others : List (String × Token)}
    (h : SameTokens paired command tokens others) :
    (nextValue? tokens = none ∧ nextValue? others = none) ∨
      ∃ value other after after', nextValue? tokens = some (value, after) ∧
        nextValue? others = some (other, after') ∧ SameValue paired command value other ∧
        SameTokens paired command after after' ∧ after.length < tokens.length := by
  cases h with
  | nil => exact .inl ⟨rfl, rfl⟩
  | behind => exact .inl ⟨rfl, rfl⟩
  | @cons entry _ _ _ h hrest =>
    cases h with
    | same =>
      obtain ⟨value, token⟩ := entry
      cases token with
      | value => exact .inr ⟨_, _, _, _, rfl, rfl, .same _, hrest, Nat.lt_succ_self _⟩
      | _ => exact .inl ⟨rfl, rfl⟩
    | value h => exact .inr ⟨_, _, _, _, rfl, rfl, h, hrest, Nat.lt_succ_self _⟩
    | _ => exact .inl ⟨rfl, rfl⟩

/-- Arguments behind two dashes are not taken by a flag. -/
lemma ofTokens_values (command : Command) (values : List String) :
    ofTokens command (values.map (·, .value)) = .ok ([], values) := by
  induction values with
  | nil => rw [List.map_nil, ofTokens]
  | cons value rest ih =>
    rw [List.map_cons, ofTokens_other _ _ (by simp), ih]
    rfl

/-- An argument that is no option comes to the same as another one in its place. -/
lemma compared_ofTokens_other (argument other : String) {token : Token}
    (htoken : ∀ spelling, token ≠ .option spelling) {rest rests : List (String × Token)}
    (h : Compared (IgnoredLetters paired command) (SameResult paired command)
      (ofTokens command rest) (ofTokens command rests)) :
    Compared (IgnoredLetters paired command) (SameResult paired command)
      (ofTokens command ((argument, token) :: rest))
      (ofTokens command ((other, token) :: rests)) := by
  rw [ofTokens_other _ _ htoken, ofTokens_other _ _ htoken]
  exact h.bind fun result other hresult =>
    .given ⟨hresult.1, iff_of_false (List.cons_ne_nil _ _) (List.cons_ne_nil _ _)⟩

/-- Options for the same flags come to the same, whether their value is attached or is the argument
behind them. -/
lemma compared_ofTokens_option (argument other : String) {spelling spelling' : Spelling}
    {rest rests : List (String × Token)} (hrest : SameTokens paired command rest rests)
    (ih : ∀ {after after'}, after.length ≤ rest.length → SameTokens paired command after after' →
      Compared (IgnoredLetters paired command) (SameResult paired command)
        (ofTokens command after) (ofTokens command after'))
    (h : Compared (IgnoredLetters paired command) Eq
      ((clusterOf command spelling).mapError (.usage command))
      ((clusterOf command spelling').mapError (.usage command))) :
    Compared (IgnoredLetters paired command) (SameResult paired command)
      (ofTokens command ((argument, .option spelling) :: rest))
      (ofTokens command ((other, .option spelling') :: rests)) := by
  have hrefl (value : Option String) (flag : Flag) :
      SameAssignment paired command ⟨flag, value⟩ ⟨flag, value⟩ := .same _
  rw [ofTokens_option, ofTokens_option]
  refine h.bind fun found _ heq => ?_
  subst heq
  cases found.attached with
  | some value => exact compared_goOn _ (hrefl _) (ih le_rfl hrest)
  | none =>
    dsimp only
    split
    · obtain ⟨htokens, hothers⟩ | ⟨value, other, after, after', htokens, hothers, hvalue, hafter,
        hshorter⟩ := nextValue?_of_same hrest
      · rw [htokens, hothers]
        exact .ended rfl
      · rw [htokens, hothers]
        exact compared_goOn _ (fun flag => .value flag hvalue) (ih hshorter.le hafter)
    · exact compared_goOn _ (hrefl _) (ih le_rfl hrest)

/-- Arguments that stand for the same come to the same. -/
lemma compared_ofTokens {tokens others : List (String × Token)}
    (h : SameTokens paired command tokens others) :
    Compared (IgnoredLetters paired command) (SameResult paired command) (ofTokens command tokens)
      (ofTokens command others) := by
  -- an option may take the next argument with it, so the induction is on the number of arguments
  induction hlength : tokens.length using Nat.strong_induction_on generalizing tokens others with
  | _ n ih =>
  cases h with
  | nil => exact .refl (fun result => ⟨List.forall₂_same.2 fun _ _ => .same _, Iff.rfl⟩) _
  | behind argument values others =>
    rw [ofTokens_other _ _ (by simp), ofTokens_other _ _ (by simp), ofTokens_values,
      ofTokens_values]
    exact .given ⟨.nil, iff_of_false (List.cons_ne_nil _ _) (List.cons_ne_nil _ _)⟩
  | @cons entry _ rest _ h hrest =>
    rw [List.length_cons] at hlength
    have hshorter {after after' : List (String × Token)} (hle : after.length ≤ rest.length)
        (hafter : SameTokens paired command after after') :=
      ih after.length (by omega) hafter rfl
    have htail := hshorter le_rfl hrest
    cases h with
    | same =>
      obtain ⟨argument, token⟩ := entry
      cases token with
      | option spelling =>
        exact compared_ofTokens_option _ _ hrest hshorter (.refl (fun _ => rfl) _)
      | _ => exact compared_ofTokens_other _ _ (by simp) htail
    | option argument other h => exact compared_ofTokens_option _ _ hrest hshorter h
    | unknown => exact compared_ofTokens_other _ _ (by simp) htail
    | value => exact compared_ofTokens_other _ _ (by simp) htail

end Assignment

end Arguments

/-! ### Kinds of respelled arguments -/

namespace Token

/-- A text that starts with a dash and something else than a digit or a point is no number. -/
lemma isNegativeNumber_eq_false {argument : String} {c d : Char} {rest : List Char}
    (h : argument.toList = '-' :: c :: d :: rest) (hpoint : c ≠ '.')
    (hdigit : Text.decimalValue? c = none) : isNegativeNumber argument = false := by
  have hno (tail : List Char) : isDigits (c :: tail) = false := by simp [isDigits, hdigit]
  have hbody : ∃ tail, (if (c :: d :: rest).getLast? = some '\n' then (c :: d :: rest).dropLast
      else c :: d :: rest) = c :: tail := by
    split
    · exact ⟨_, List.dropLast_cons_cons⟩
    · exact ⟨_, rfl⟩
  obtain ⟨tail, htail⟩ := hbody
  simp only [isNegativeNumber, h, htail, hno, List.takeWhile_cons, decide_eq_true hpoint,
    ↓reduceIte, List.isEmpty_cons, Bool.false_or, Bool.false_and]

lemma candidates_short (attached : Option String) :
    candidates .inspect (written "-rule-file" attached) = [] := by
  have hnamed : ∀ entry ∈ Command.inspect.named,
      "-rule-file".toList.isPrefixOf entry.1.toList = false ∧ entry.1.toList ≠ ['-', 'r'] := by
    decide
  obtain ⟨rest, hrest⟩ : ∃ rest, (written "-rule-file" attached).toList =
      "-rule-file".toList ++ rest := by
    cases attached with
    | none => exact ⟨[], (List.append_nil _).symm⟩
    | some text => exact ⟨'=' :: text.toList, by simp [written]⟩
  have htwo : (written "-rule-file" attached).toList.take 2 = ['-', 'r'] := by rw [hrest]; rfl
  have hlong : "--".toList.isPrefixOf (written "-rule-file" attached).toList = false := by
    rw [hrest]; rfl
  rw [candidates, hlong, if_neg Bool.false_ne_true, shortCandidates, List.filterMap_eq_nil_iff]
  intro entry hentry
  obtain ⟨hstart, hletter⟩ := hnamed entry hentry
  obtain ⟨name, flag⟩ := entry
  have hall : (written "-rule-file" attached).toList.isPrefixOf name.toList = false := by
    rw [← Bool.not_eq_true, List.isPrefixOf_iff_prefix, hrest]
    rw [← Bool.not_eq_true, List.isPrefixOf_iff_prefix] at hstart
    exact fun hprefix => hstart ((List.prefix_append _ _).trans hprefix)
  dsimp only
  rw [htwo, if_neg hletter, hall, if_neg Bool.false_ne_true]

lemma candidates_long (attached : Option String) :
    candidates .inspect (written "--rule-file" attached) = [] := by
  have hnamed : ∀ entry ∈ Command.inspect.named,
      "--rule-file".toList.isPrefixOf entry.1.toList = false := by
    decide
  have hlong : "--".toList.isPrefixOf (written "--rule-file" attached).toList = true := by
    cases attached <;> simp [written]
  rw [candidates, hlong, if_pos rfl, longCandidates, splitEquals_written (by decide),
    List.filterMap_eq_nil_iff]
  intro entry hentry
  simp only [hnamed entry hentry, Bool.false_eq_true, ↓reduceIte]

/-- What is written like a flag, but stands for none, is a value if it has a blank. -/
lemma ofArgument_of_candidates {command : Command} {name : String} {attached : Option String}
    (hname : command.flag? name = none) (hequals : '=' ∉ name.toList) (hblank : ' ' ∉ name.toList)
    (hcandidates : candidates command (written name attached) = [])
    {c d : Char} {rest : List Char} (hletters : name.toList = '-' :: c :: d :: rest)
    (hpoint : c ≠ '.') (hdigit : Text.decimalValue? c = none) :
    ofArgument command (written name attached) =
      .ok (if attached.any (·.toList.contains ' ') then .value else .unknown) := by
  have hwritten : ∃ tail, (written name attached).toList = '-' :: c :: d :: tail := by
    cases attached with
    | none => exact ⟨rest, hletters⟩
    | some text => exact ⟨rest ++ '=' :: text.toList, by simp [written, hletters]⟩
  obtain ⟨tail, htail⟩ := hwritten
  have hflag : command.flag? (written name attached) = none := by
    cases attached with
    | none => exact hname
    | some text => exact Command.flag?_eq_none (by simp [written])
  have hcontains : (written name attached).toList.contains ' ' =
      attached.any (·.toList.contains ' ') := by
    cases attached <;> simp [written, hblank]
  have hdash : written name attached ≠ "-" := by
    intro heq
    rw [heq] at htail
    exact absurd htail (by simp)
  have hnone : (attached.bind fun _ => command.flag? name) = none := by
    cases attached with
    | none => rfl
    | some text => exact hname
  -- all ways to be taken for a flag are excluded, so the blank decides
  rw [ofArgument, splitEquals_written hequals]
  simp only [hcontains]
  simp only [htail, List.head?_cons, bne_self_eq_false, Bool.false_eq_true, ↓reduceIte, hflag,
    hdash, hnone, hcandidates, isNegativeNumber_eq_false htail hpoint hdigit, Bool.false_or]
  split <;> rfl

end Token

section Arguments

variable {paired : String → String → Prop} {command : Command}

/-- A flag that is respelled has the same value, or its letters are not taken. -/
lemma compared_clusterOf {flag : Flag} {word : String} (h : flag.word? = some word)
    (attached : Option String)
    (hpaired : paired (written ("-" ++ word) attached) (written ("--" ++ word) attached)) :
    Compared (IgnoredLetters paired command) Eq
      ((Assignment.clusterOf command ⟨flag, "-" ++ word, attached⟩).mapError (.usage command))
      ((Assignment.clusterOf command ⟨flag, "--" ++ word, attached⟩).mapError
        (.usage command)) := by
  rw [Assignment.clusterOf, Assignment.clusterOf]
  cases attached with
  | none => exact .given rfl
  | some text =>
    dsimp only
    split
    · exact .given rfl
    -- of the flags with a word only this one takes no value
    · next hvalue =>
      obtain rfl : flag = .insecure := by
        cases flag <;> first | rfl | exact absurd rfl hvalue | cases h
      obtain rfl : "insecure" = word := Option.some.inj h
      cases htext : text.toList with
      | nil => exact .ended rfl
      | cons letter rest =>
        have hlong : Assignment.cluster command .insecure ("--" ++ "insecure") (letter :: rest) =
            .error (.ignoredValue .insecure text) := by
          rw [Assignment.cluster, if_pos (by decide), ← htext, String.ofList_toList]
        rw [hlong]
        cases hletter : command.flag? (String.ofList ['-', letter]) with
        | none =>
          rw [Assignment.cluster, if_neg (by decide), hletter]
          exact .ended rfl
        | some flag =>
          exact .refused _ (.ignored htext (Command.letter_of_flag? hletter) hpaired)

/-- The only flag that a command lacks is the one for rule files. -/
lemma eq_ruleFile_of_word {flag : Flag} {word : String} (h : flag.word? = some word)
    (hflag : flag ∉ command.flags) : command = .inspect ∧ flag = .ruleFile := by
  cases command <;> cases flag <;> simp_all [Flag.word?, Command.flags]

lemma mem_named {flag : Flag} {name : String} (hflag : flag ∈ command.flags)
    (h : name ∈ flag.names) : (name, flag) ∈ command.named :=
  List.mem_flatMap.2 ⟨flag, hflag, List.mem_map.2 ⟨name, h, rfl⟩⟩

lemma compared_ofArgument {argument other : String} (h : Respelled argument other)
    (hpaired : paired argument other) :
    Compared (IgnoredLetters paired command)
      (fun token token' => SameToken paired command (argument, token) (other, token'))
      ((Token.ofArgument command argument).mapError (.usage command))
      ((Token.ofArgument command other).mapError (.usage command)) := by
  cases h with
  | same => exact .refl (fun _ => .same _) _
  | @doubled flag word h attached =>
    by_cases hflag : flag ∈ command.flags
    · have hnames := Flag.names_of_word h
      have hshort : ("-" ++ word, flag) ∈ command.named := mem_named hflag (by simp [hnames])
      have hlong : ("--" ++ word, flag) ∈ command.named := mem_named hflag (by simp [hnames])
      rw [Token.ofArgument_written hshort, Token.ofArgument_written hlong]
      exact .given (.option _ _ (compared_clusterOf h attached hpaired))
    -- only one flag is not known to both commands, and to the other one both its spellings are
    -- unknown
    · obtain ⟨rfl, rfl⟩ := eq_ruleFile_of_word h hflag
      obtain rfl : "rule-file" = word := Option.some.inj h
      have hshort := Token.ofArgument_of_candidates (by decide) (by decide)
        (by decide)
        (Token.candidates_short attached) (show "-rule-file".toList = _ from rfl) (by decide)
        (by decide)
      have hlong := Token.ofArgument_of_candidates (by decide) (by decide)
        (by decide)
        (Token.candidates_long attached) (show "--rule-file".toList = _ from rfl) (by decide)
        (by decide)
      change Compared _ _ ((Token.ofArgument _ (written "-rule-file" attached)).mapError _)
        ((Token.ofArgument _ (written "--rule-file" attached)).mapError _)
      rw [hshort, hlong]
      cases attached with
      | none => exact .given (.unknown _ _)
      | some text =>
        dsimp only [Option.any_some]
        split
        · next hblank =>
          exact .given (.value (.foreign rfl (List.contains_iff_mem.1 hblank) hpaired))
        · exact .given (.unknown _ _)

lemma mapError_bind {ε ε' α γ : Type} (result : Except ε α) (f : α → Except ε γ) (g : ε → ε') :
    (result >>= f).mapError g = result.mapError g >>= fun x => (f x).mapError g := by
  cases result <;> rfl

/-- Neither spelling of a flag is a request for help, a command or the mark in front of values. -/
lemma Respelled.eq_iff {argument other text : String} (h : Respelled argument other)
    (htext : text ∈ ["--", "-h", "--help", "inspect", "generate"]) :
    argument = text ↔ other = text := by
  cases h with
  | same => rfl
  | @doubled flag word h attached =>
    have hplain : ∀ text ∈ ["--", "-h", "--help", "inspect", "generate"],
        Token.splitEquals text = (text, none) := by decide
    have hother : '=' ∉ ("-" ++ word).toList ∧ '=' ∉ ("--" ++ word).toList ∧
        "-" ++ word ∉ ["--", "-h", "--help", "inspect", "generate"] ∧
        "--" ++ word ∉ ["--", "-h", "--help", "inspect", "generate"] := by
      cases flag <;> simp only [Flag.word?, Option.some.injEq, reduceCtorEq] at h <;> subst h <;>
        decide
    have hne {name : String} (hequals : '=' ∉ name.toList)
        (hname : name ∉ ["--", "-h", "--help", "inspect", "generate"]) :
        written name attached ≠ text := by
      intro heq
      have hsplit := hplain text htext
      rw [← heq, Token.splitEquals_written hequals, heq] at hsplit
      obtain rfl : name = text := congrArg Prod.fst hsplit
      exact hname htext
    exact iff_of_false (hne hother.1 hother.2.2.1) (hne hother.2.1 hother.2.2.2)

lemma Respelled.ofName?_eq {argument other : String} (h : Respelled argument other) :
    Command.ofName? argument = Command.ofName? other := by
  have hname (command : Command) (name : String) :
      Command.ofName? name = some command ↔ name = command.name := by
    refine ⟨fun hfound => ?_, fun heq => ?_⟩
    · simpa [eq_comm] using List.find?_some hfound
    · rw [heq]
      cases command <;> decide
  refine Option.ext fun command => ?_
  rw [hname, hname]
  exact h.eq_iff (by cases command <;> simp [Command.name])

/-- Arguments that are respelled stand for the same. -/
lemma compared_ofArguments {arguments others : List String}
    (h : List.Forall₂ (fun argument other => Respelled argument other ∧ paired argument other)
      arguments others) :
    Compared (IgnoredLetters paired command) (SameTokens paired command)
      ((Token.ofArguments command arguments).mapError (.usage command))
      ((Token.ofArguments command others).mapError (.usage command)) := by
  induction h with
  | nil => exact .given .nil
  | @cons argument other rest rests h hrest ih =>
    rw [Token.ofArguments, Token.ofArguments]
    by_cases hmark : argument = "--"
    · obtain rfl : other = "--" := (h.1.eq_iff (by simp)).1 hmark
      subst hmark
      exact .given (.behind _ _ _)
    · rw [if_neg hmark, if_neg (mt (h.1.eq_iff (by simp)).2 hmark), mapError_bind, mapError_bind]
      refine (compared_ofArgument h.1 h.2).bind fun token token' htoken => ?_
      rw [mapError_bind, mapError_bind]
      exact ih.bind fun tokens others htokens => .given (.cons htoken htokens)

/-- Invocations of a command with the same values. -/
def SameInvocation (paired : String → String → Prop) (command : Command)
    (invocation other : Invocation) : Prop :=
  invocation.command = command ∧ other.command = command ∧
    List.Forall₂ (SameAssignment paired command) invocation.assignments other.assignments

lemma Invocation.compared_readArguments {arguments others : List String}
    (h : List.Forall₂ (fun argument other => Respelled argument other ∧ paired argument other)
      arguments others) :
    Compared (IgnoredLetters paired command) (SameInvocation paired command)
      (readArguments command arguments) (readArguments command others) := by
  refine (compared_ofArguments h).bind fun tokens others htokens => ?_
  refine (Assignment.compared_ofTokens htokens).bind fun result other hresult => ?_
  obtain ⟨assignments, extra⟩ := result
  obtain ⟨assignments', extra'⟩ := other
  obtain ⟨hassignments, hextra⟩ := hresult
  dsimp only at hextra ⊢
  rw [← List.isEmpty_iff, ← List.isEmpty_iff] at hextra
  by_cases hnone : extra.isEmpty = true
  · rw [if_pos hnone, if_pos (hextra.1 hnone)]
    exact .given ⟨rfl, rfl, hassignments⟩
  · rw [if_neg hnone, if_neg (mt hextra.2 hnone)]
    exact .ended rfl

end Arguments

/-! ### Command lines -/

/-- The command that a command line asks for. -/
def Command.asked : List String → Command
  | [] => .inspect
  | first :: _ => (ofName? first).getD .inspect

/-- The arguments stand at the same place of two command lines. -/
def Paired (arguments others : List String) (argument other : String) : Prop :=
  (argument, other) ∈ arguments.zip others

/-- Nothing that is respelled has a meaning of its own behind one dash. -/
structure Plain (command : Command) (paired : String → String → Prop) : Prop where
  /-- No letter of a flag is attached to the flag without a value. -/
  switches : ∀ text, paired (written "-insecure" (some text)) (written "--insecure" (some text)) →
    ∀ letter ∈ text.toList.head?,
      ¬ (letter = 'h' ∨ letter = 'v' ∨ letter = 'o' ∧ command = .generate)
  /-- A flag that the command lacks has no blank in its text. -/
  foreign : command = .inspect → ∀ text,
    paired (written "-rule-file" (some text)) (written "--rule-file" (some text)) →
      ' ' ∉ text.toList

/-- Two command lines give the same command with the same values, or the program ends for both in
the same way: with help, or with an error in the usage. -/
def SameOutcome (result other : Except Exit Invocation) : Prop :=
  (∃ invocation, result = .ok invocation ∧ other = .ok invocation) ∨
    ∃ exit exit', result = .error exit ∧ other = .error exit' ∧ exit.code = exit'.code

lemma SameInvocation.eq_of_plain {command : Command} {paired : String → String → Prop}
    (hplain : Plain command paired) {invocation other : Invocation}
    (h : SameInvocation paired command invocation other) : other = invocation := by
  obtain ⟨hcommand, hother, hassignments⟩ := h
  have hvalue {value other : String} (h : SameValue paired command value other) :
      value = other := by
    cases h with
    | same => rfl
    | foreign hcommand hblank hpaired => exact absurd hblank (hplain.foreign hcommand _ hpaired)
  have heq : List.Forall₂ Eq invocation.assignments other.assignments :=
    hassignments.imp fun assignment assignment' h => by
      cases h with
      | same => rfl
      | value flag h => rw [hvalue h]
  rw [List.forall₂_eq_eq_eq] at heq
  cases invocation
  cases other
  simp_all

namespace Invocation

lemma compared_read {arguments others : List String}
    (h : List.Forall₂ Respelled arguments others) :
    Compared (IgnoredLetters (Paired arguments others) (Command.asked arguments))
      (SameInvocation (Paired arguments others) (Command.asked arguments))
      (read arguments) (read others) := by
  have hpaired {arguments' others' : List String} (h : List.Forall₂ Respelled arguments' others')
      (hzip : ∀ entry ∈ arguments'.zip others', entry ∈ arguments.zip others) :
      List.Forall₂ (fun argument other => Respelled argument other ∧
        Paired arguments others argument other) arguments' others' :=
    List.forall₂_iff_zip.2 ⟨h.length_eq, fun hmem => ⟨List.forall₂_zip h hmem, hzip _ hmem⟩⟩
  have hall := hpaired h fun _ => id
  cases h with
  | nil => exact compared_readArguments hall
  | @cons first other rest rests hfirst hrest =>
    -- neither the word for help nor the name of a command has another spelling
    have hhelp : (decide (first = "-h") || decide (first = "--help")) =
        (decide (other = "-h") || decide (other = "--help")) := by
      rw [decide_eq_decide.2 (hfirst.eq_iff (by simp)),
        decide_eq_decide.2 (hfirst.eq_iff (by simp))]
    rw [read, read, ← hhelp, ← hfirst.ofName?_eq, Command.asked]
    split
    · exact .ended rfl
    · cases Command.ofName? first with
      | none => exact compared_readArguments hall
      | some command =>
        exact compared_readArguments (hpaired hrest fun _ hmem => List.mem_cons_of_mem _ hmem)

/-- **Dashes.** Command lines whose arguments are respelled come to the same, or the second one is
refused for letters that are flags behind one dash, or values that are flags of another command
are respelled; nothing of this is so where the arguments are plain. -/
theorem read_respelled {arguments others : List String}
    (h : List.Forall₂ Respelled arguments others) :
    Compared (IgnoredLetters (Paired arguments others) (Command.asked arguments))
        (SameInvocation (Paired arguments others) (Command.asked arguments))
        (read arguments) (read others) ∧
      (Plain (Command.asked arguments) (Paired arguments others) →
        SameOutcome (read arguments) (read others)) := by
  have hcompared := compared_read h
  refine ⟨hcompared, fun hplain => ?_⟩
  revert hcompared
  generalize read arguments = result, read others = other
  intro hcompared
  cases hcompared with
  | given h =>
    rw [h.eq_of_plain hplain]
    exact .inl ⟨_, rfl, rfl⟩
  | ended h => exact .inr ⟨_, _, rfl, rfl, h⟩
  | refused result h =>
    cases h with
    | ignored htext hletter hpaired =>
      exact absurd hletter (hplain.switches _ hpaired _ (by simp [htext]))

/-- A letter behind the equals sign is a flag for one dash, and refused for two. -/
theorem read_letter_attached :
    List.Forall₂ Respelled ["-insecure=v"] ["--insecure=v"] ∧
      read ["-insecure=v"] = .ok ⟨.inspect, [⟨.insecure, none⟩, ⟨.verbose, none⟩]⟩ ∧
      read ["--insecure=v"] = .error (.usage .inspect (.ignoredValue .insecure "v")) ∧
      ¬ SameOutcome (read ["-insecure=v"]) (read ["--insecure=v"]) := by
  have hshort : read ["-insecure=v"] =
      .ok ⟨.inspect, [⟨.insecure, none⟩, ⟨.verbose, none⟩]⟩ := by decide +kernel
  have hlong : read ["--insecure=v"] =
      .error (.usage .inspect (.ignoredValue .insecure "v")) := by decide +kernel
  refine ⟨.cons (.doubled (show Flag.insecure.word? = _ from rfl) (some "v")) .nil, hshort, hlong,
    ?_⟩
  rw [hshort, hlong]
  rintro (⟨invocation, -, hother⟩ | ⟨exit, exit', hresult, -, -⟩)
  · cases hother
  · cases hresult

/-- The arguments of a run with one dash for each flag, and with two. -/
theorem read_respelled_generate :
    let arguments := ["generate", "-url", "http://p:9090", "-token-file", "/t", "-insecure"]
    let others := ["generate", "--url", "http://p:9090", "--token-file", "/t", "--insecure"]
    List.Forall₂ Respelled arguments others ∧
      Plain (Command.asked arguments) (Paired arguments others) ∧
      SameOutcome (read arguments) (read others) ∧
      read arguments = .ok ⟨.generate,
        [⟨.url, some "http://p:9090"⟩, ⟨.tokenFile, some "/t"⟩, ⟨.insecure, none⟩]⟩ := by
  intro arguments others
  have hrespelled : List.Forall₂ Respelled arguments others :=
    .cons (.same _) (.cons (.doubled (show Flag.url.word? = _ from rfl) none) (.cons (.same _)
      (.cons (.doubled (show Flag.tokenFile.word? = _ from rfl) none) (.cons (.same _)
        (.cons (.doubled (show Flag.insecure.word? = _ from rfl) none) .nil)))))
  have hplain : Plain (Command.asked arguments) (Paired arguments others) := by
    have hnone : ∀ entry ∈ arguments.zip others, '=' ∉ entry.1.toList := by decide +kernel
    refine ⟨fun text hpaired => absurd ?_ (hnone _ hpaired), fun hcommand => ?_⟩
    · simp [written]
    · exact absurd hcommand (by decide +kernel)
  exact ⟨hrespelled, hplain, (read_respelled hrespelled).2 hplain, by decide +kernel⟩

end Invocation

end RuleFixtures.CommandLine
