import RuleFixtures.Proofs.Rules.Filing
import RuleFixtures.Proofs.Traversal

/-!
Rules from a payload to the catalog.

* `Rule.decode_eq_ok_iff`, `RuleGroup.decode_eq_ok_iff` and `RuleGroup.decodeAll_eq_ok_iff` say what
  is decoded, and from what.
* `payloadEntries` lists the entries of a payload with the names of their groups;
  `forall₂_describes`: each of them is decoded into one definition.
* `Gateway.Lists` says that a backend lists the groups of a payload.
* `catalog_of_payload`: the catalog has every entry under its kind and name, and there is none if an
  entry is no rule.
-/

namespace RuleFixtures

/-! ### Members of documents -/

namespace Json

/-- Is the value an object? -/
def IsObject (value : Json) : Prop := ∃ members, value = .object members

lemma isObject_of_member? {value found : Json} {name : String}
    (h : value.member? name = some found) : value.IsObject := by
  cases value with
  | object members => exact ⟨members, rfl⟩
  | _ => cases h

lemma get_eq_ok_iff {value : Json} {name : String} {found : Option Json} :
    value.get name = .ok found ↔ value.IsObject ∧ value.member? name = found := by
  cases value <;> simp [get, IsObject, member?]

lemma need_eq_ok_iff {value found : Json} {name : String} :
    value.need name = .ok found ↔ value.member? name = some found := by
  cases value with
  | object members =>
    simp only [need, member?]
    cases lookupEntry name members <;> simp
  | _ => simp [need, member?]

end Json

/-! ### Decoding rules -/

lemma RuleKind.decode_eq_ok_iff {value : Json} {kind : RuleKind} :
    RuleKind.decode value = .ok kind ↔ value = .text kind.name := by
  unfold RuleKind.decode
  split
  · next h => subst h; cases kind <;> simp [RuleKind.name]
  · split
    · next h => subst h; cases kind <;> simp [RuleKind.name]
    · cases kind <;> simp_all [RuleKind.name]

/-- A rule is an entry with a kind, a name, a query and labels. -/
lemma Rule.decode_eq_ok_iff {raw : Json} {rule : Rule} :
    Rule.decode raw = .ok rule ↔
      raw.member? "type" = some (.text rule.kind.name) ∧ raw.member? "name" = some rule.name ∧
        raw.member? "query" = some rule.query ∧
        Labels.ofJsonOrNone (raw.member? "labels") = .ok rule.labels := by
  have hkind (kind : RuleKind) : (raw.member? "type").getD .null = .text kind.name ↔
      raw.member? "type" = some (.text kind.name) := by
    cases raw.member? "type" <;> simp
  simp only [Rule.decode, bind_eq_ok_iff, Json.get_eq_ok_iff, Json.need_eq_ok_iff,
    RuleKind.decode_eq_ok_iff]
  constructor
  · rintro ⟨_, ⟨_, rfl⟩, kind, htype, name, hname, query, hquery, _, ⟨_, rfl⟩, labels, hlabels, h⟩
    cases h
    exact ⟨(hkind kind).1 htype, hname, hquery, hlabels⟩
  · rintro ⟨htype, hname, hquery, hlabels⟩
    have hobject := Json.isObject_of_member? htype
    exact ⟨_, ⟨hobject, rfl⟩, rule.kind, (hkind rule.kind).2 htype, rule.name, hname, rule.query,
      hquery, _, ⟨hobject, rfl⟩, rule.labels, hlabels, rfl⟩

lemma Rule.decodeAll_eq_mapM (raws : List Json) : Rule.decodeAll raws = raws.mapM Rule.decode := by
  induction raws with
  | nil => rfl
  | cons raw rest ih => rw [Rule.decodeAll, List.mapM_cons, ih]

/-- A group is an object with entries that are rules. -/
lemma RuleGroup.decode_eq_ok_iff {raw : Json} {group : RuleGroup} :
    RuleGroup.decode raw = .ok group ↔
      raw.IsObject ∧ group.name = (raw.member? "name").getD (.text "") ∧
        ∃ entries, Json.elementsOrNone (raw.member? "rules") = .ok entries ∧
          List.Forall₂ (fun entry rule => Rule.decode entry = .ok rule) entries group.rules := by
  simp only [RuleGroup.decode, bind_eq_ok_iff, Json.get_eq_ok_iff, Rule.decodeAll_eq_mapM,
    mapM_eq_ok_iff]
  constructor
  · rintro ⟨_, ⟨hobject, rfl⟩, _, ⟨_, rfl⟩, entries, hentries, rules, hrules, h⟩
    cases h
    exact ⟨hobject, rfl, entries, hentries, hrules⟩
  · rintro ⟨hobject, hname, entries, hentries, hrules⟩
    refine ⟨_, ⟨hobject, rfl⟩, _, ⟨hobject, rfl⟩, entries, hentries, group.rules, hrules, ?_⟩
    rw [← hname]
    rfl

lemma RuleGroup.decodeList_eq_mapM (raws : List Json) :
    RuleGroup.decodeList raws = raws.mapM RuleGroup.decode := by
  induction raws with
  | nil => rfl
  | cons raw rest ih => rw [RuleGroup.decodeList, List.mapM_cons, ih]

/-- A payload is an object with groups. -/
lemma RuleGroup.decodeAll_eq_ok_iff {data : Json} {groups : List RuleGroup} :
    RuleGroup.decodeAll data = .ok groups ↔
      data.IsObject ∧ ∃ raws, Json.elementsOrNone (data.member? "groups") = .ok raws ∧
        List.Forall₂ (fun raw group => RuleGroup.decode raw = .ok group) raws groups := by
  simp only [RuleGroup.decodeAll, bind_eq_ok_iff, Json.get_eq_ok_iff, decodeList_eq_mapM,
    mapM_eq_ok_iff]
  constructor
  · rintro ⟨_, ⟨hobject, rfl⟩, raws, hraws, hgroups⟩
    exact ⟨hobject, raws, hraws, hgroups⟩
  · rintro ⟨hobject, raws, hraws, hgroups⟩
    exact ⟨_, ⟨hobject, rfl⟩, raws, hraws, hgroups⟩

/-! ### The entries of a payload -/

/-- What a loop over a member goes through; nothing if the member is absent or empty. -/
def Json.looped (member : Option Json) : List Json :=
  (Json.elementsOrNone member).toOption.getD []

lemma Json.looped_eq {member : Option Json} {items : List Json}
    (h : Json.elementsOrNone member = .ok items) : Json.looped member = items := by
  rw [looped, h]
  rfl

/-- The entries of a group, each with the name of the group, which is empty if there is none. -/
def groupEntries (group : Json) : List (Json × Json) :=
  (Json.looped (group.member? "rules")).map fun entry =>
    ((group.member? "name").getD (.text ""), entry)

/-- The entries of all groups of a payload. -/
def payloadEntries (data : Json) : List (Json × Json) :=
  (Json.looped (data.member? "groups")).flatMap groupEntries

/-- The definition that a rule makes of its entry. -/
def RuleDefinition.IsDecodedFrom (definition : RuleDefinition) (entry : Json × Json) : Prop :=
  ∃ rule, Rule.decode entry.2 = .ok rule ∧ definition = rule.definition entry.1

/-- Each entry of a payload is decoded into one definition. -/
lemma forall₂_isDecodedFrom {data : Json} {groups : List RuleGroup}
    (h : RuleGroup.decodeAll data = .ok groups) :
    List.Forall₂ RuleDefinition.IsDecodedFrom (RuleGroup.definitions groups)
      (payloadEntries data) := by
  obtain ⟨_, raws, hraws, hgroups⟩ := RuleGroup.decodeAll_eq_ok_iff.1 h
  rw [payloadEntries, Json.looped_eq hraws, RuleGroup.definitions]
  refine List.rel_flatMap hgroups.flip fun group raw hgroup => ?_
  obtain ⟨_, hname, entries, hentries, hrules⟩ := RuleGroup.decode_eq_ok_iff.1 hgroup
  rw [groupEntries, Json.looped_eq hentries, List.forall₂_map_left_iff, List.forall₂_map_right_iff,
    ← hname]
  exact hrules.flip.imp fun rule entry hrule => ⟨rule, hrule, rfl⟩

/-! ### Payloads of rules -/

/-- The labels of a rule are the members of an object. -/
def labelsOf : Option Json → Labels
  | some (.object members) =>
    OrderedMap.ofList (members.map fun (name, value) => (.text name, value))
  | _ => .empty

/-- The definition has what the entry says, and the group of the entry. -/
structure RuleDefinition.Describes (definition : RuleDefinition) (entry : Json × Json) : Prop where
  kind : entry.2.member? "type" = some (.text definition.kind.name)
  name : entry.2.member? "name" = some definition.name
  query : entry.2.member? "query" = some definition.query
  labels : definition.labels = labelsOf (entry.2.member? "labels")
  group : definition.group = entry.1

namespace Json

/-- Has the entry a kind of rules as its type, a name and a query? -/
structure HasRule (entry : Json) : Prop where
  kind : ∃ kind : RuleKind, entry.member? "type" = some (.text kind.name)
  name : ∃ name, entry.member? "name" = some name
  query : ∃ query, entry.member? "query" = some query

/-- Is the entry an alerting or recording rule, with texts as name and query? Labels may be
missing. -/
structure IsRule (entry : Json) : Prop where
  kind : ∃ kind : RuleKind, entry.member? "type" = some (.text kind.name)
  name : ∃ name, entry.member? "name" = some (.text name)
  query : ∃ query, entry.member? "query" = some (.text query)
  labels : ∀ labels, entry.member? "labels" = some labels → labels = .null ∨ labels.IsObject

/-- Is the value an object with groups, and each of these an object with entries? -/
structure IsPayload (data : Json) : Prop where
  object : data.IsObject
  groups : ∃ groups, elementsOrNone (data.member? "groups") = .ok groups
  object_group : ∀ group ∈ looped (data.member? "groups"), group.IsObject
  entries : ∀ group ∈ looped (data.member? "groups"),
    ∃ entries, elementsOrNone (group.member? "rules") = .ok entries

/-- Labels that are missing or an object are decoded. -/
lemma IsRule.decode_labels {entry : Json} (h : entry.IsRule) :
    Labels.ofJsonOrNone (entry.member? "labels") = .ok (labelsOf (entry.member? "labels")) := by
  cases hlabels : entry.member? "labels" with
  | none => rfl
  | some labels =>
    obtain rfl | ⟨members, rfl⟩ := h.labels labels hlabels
    · rfl
    · cases members <;> rfl

/-- A rule is decoded. -/
lemma IsRule.exists_decode {entry : Json} (h : entry.IsRule) :
    ∃ rule, Rule.decode entry = .ok rule := by
  obtain ⟨kind, hkind⟩ := h.kind
  obtain ⟨name, hname⟩ := h.name
  obtain ⟨query, hquery⟩ := h.query
  exact ⟨⟨kind, .text name, .text query, labelsOf (entry.member? "labels")⟩,
    Rule.decode_eq_ok_iff.2 ⟨hkind, hname, hquery, h.decode_labels⟩⟩

/-- A payload of rules is decoded. -/
lemma IsPayload.exists_decodeAll {data : Json} (h : data.IsPayload)
    (hrules : ∀ entry ∈ payloadEntries data, entry.2.IsRule) :
    ∃ groups, RuleGroup.decodeAll data = .ok groups := by
  obtain ⟨raws, hraws⟩ := h.groups
  have hlooped := looped_eq hraws
  have hgroups : ∀ raw ∈ raws, ∃ group, RuleGroup.decode raw = .ok group := by
    intro raw hraw
    obtain ⟨entries, hentries⟩ := h.entries raw (hlooped ▸ hraw)
    have hentry : ∀ entry ∈ entries, ∃ rule, Rule.decode entry = .ok rule := by
      intro entry hentry
      refine IsRule.exists_decode (hrules ((raw.member? "name").getD (.text ""), entry) ?_)
      refine List.mem_flatMap.2 ⟨raw, hlooped ▸ hraw, ?_⟩
      rw [groupEntries, looped_eq hentries]
      exact List.mem_map_of_mem hentry
    obtain ⟨rules, hok⟩ := exists_mapM_eq_ok hentry
    exact ⟨⟨_, rules⟩, RuleGroup.decode_eq_ok_iff.2 ⟨h.object_group raw (hlooped ▸ hraw), rfl,
      entries, hentries, mapM_eq_ok_iff.1 hok⟩⟩
  obtain ⟨groups, hok⟩ := exists_mapM_eq_ok hgroups
  exact ⟨groups, RuleGroup.decodeAll_eq_ok_iff.2 ⟨h.object, raws, hraws, mapM_eq_ok_iff.1 hok⟩⟩

end Json

/-- What is decoded from a rule has what the rule says. -/
lemma RuleDefinition.IsDecodedFrom.describes {definition : RuleDefinition} {entry : Json × Json}
    (h : definition.IsDecodedFrom entry) (hentry : entry.2.IsRule) :
    definition.Describes entry := by
  obtain ⟨rule, hdecode, rfl⟩ := h
  obtain ⟨hkind, hname, hquery, hlabels⟩ := Rule.decode_eq_ok_iff.1 hdecode
  rw [hentry.decode_labels] at hlabels
  exact ⟨hkind, hname, hquery, (Except.ok.inj hlabels).symm, rfl⟩

/-- So the definitions of a payload of rules have what its entries say. -/
lemma forall₂_describes {data : Json} {groups : List RuleGroup}
    (hgroups : RuleGroup.decodeAll data = .ok groups)
    (hrules : ∀ entry ∈ payloadEntries data, entry.2.IsRule) :
    List.Forall₂ RuleDefinition.Describes (RuleGroup.definitions groups) (payloadEntries data) := by
  have hboth := (List.forall₂_and_left _ _).2 ⟨hrules, (forall₂_isDecodedFrom hgroups).flip⟩
  exact hboth.flip.imp fun _ _ h => RuleDefinition.IsDecodedFrom.describes h.2 h.1

/-! ### Loading -/

section Load

variable {σ : Type} {gateway : Gateway σ} {s : σ}

/-- Does the backend list the groups of a payload? It fails if these do not decode. -/
def Gateway.Lists (gateway : Gateway σ) (s : σ) (data : Json) : Prop :=
  (gateway.ruleGroups s).1.toOption = (RuleGroup.decodeAll data).toOption

/-- The groups are listed if they decode, -/
lemma Gateway.Lists.eq_ok {data : Json} (h : gateway.Lists s data) {groups : List RuleGroup}
    (hgroups : RuleGroup.decodeAll data = .ok groups) :
    (gateway.ruleGroups s).1 = .ok groups := by
  rw [Lists, hgroups] at h
  cases hlisted : (gateway.ruleGroups s).1 with
  | error fault =>
    rw [hlisted] at h
    cases h
  | ok listed =>
    rw [hlisted] at h
    exact congrArg Except.ok (Option.some.inj h)

/-- and they decode if they are listed. -/
lemma Gateway.Lists.decodeAll_eq_ok {data : Json} (h : gateway.Lists s data)
    {groups : List RuleGroup} (hgroups : (gateway.ruleGroups s).1 = .ok groups) :
    RuleGroup.decodeAll data = .ok groups := by
  rw [Lists, hgroups] at h
  cases hdecoded : RuleGroup.decodeAll data with
  | error fault =>
    rw [hdecoded] at h
    cases h
  | ok decoded =>
    rw [hdecoded] at h
    exact congrArg Except.ok (Option.some.inj h).symm

/-- A backend that does nothing but list the groups of a payload. -/
def Gateway.ofPayload (data : Json) : Gateway σ where
  ruleGroups := Act.ofExcept ((RuleGroup.decodeAll data).mapError .shape)
  query _ _ := Act.fail .interrupted
  queryRange _ _ _ _ := Act.fail .interrupted

lemma Gateway.ofPayload_lists (data : Json) (s : σ) : (Gateway.ofPayload data).Lists s data := by
  unfold Lists ofPayload Act.ofExcept
  cases RuleGroup.decodeAll data <;> rfl

variable [Log.Journal σ]

/-- The groups that are listed make the catalog. -/
lemma RuleCatalog.load_eq_ok {groups : List RuleGroup} {catalog : RuleCatalog}
    (hgroups : (gateway.ruleGroups s).1 = .ok groups) (hcatalog : ofGroups groups = .ok catalog) :
    (load gateway s).1 = .ok catalog := by
  have hfiled : (Act.ofExcept ((ofGroups groups).mapError Fault.shape)
      (gateway.ruleGroups s).2).1 = .ok catalog := by
    rw [hcatalog]
    rfl
  rw [load, Act.fst_bind_of_ok hgroups, Act.fst_bind_of_ok hfiled]
  rfl

/-- Without groups there is no catalog. -/
lemma RuleCatalog.load_eq_error {fault : Fault} (h : (gateway.ruleGroups s).1 = .error fault) :
    (load gateway s).1 = .error fault :=
  Act.fst_bind_of_error h

/-- A payload of rules is loaded with every rule under its kind and name, in the order of the
payload. If an entry is no rule nothing is loaded. -/
theorem catalog_of_payload {data : Json} (hlists : gateway.Lists s data) :
    (data.IsPayload → (∀ entry ∈ payloadEntries data, entry.2.IsRule) →
      ∃ catalog definitions, (RuleCatalog.load gateway s).1 = .ok catalog ∧
        List.Forall₂ RuleDefinition.Describes definitions (payloadEntries data) ∧
        (∀ kind name known, (catalog.table kind).get? name = some known ↔ known ≠ [] ∧
          known = definitions.filter fun definition =>
            definition.kind = kind ∧ definition.name = name) ∧
        (∀ kind name, name ∈ (catalog.table kind).keys ↔
          ∃ definition ∈ definitions, definition.kind = kind ∧ definition.name = name) ∧
        (∀ metric, catalog.isRecorded metric = true ↔
          ∃ definition ∈ definitions, definition.kind = .recording ∧
            definition.name = .text metric) ∧
        RuleCatalog.count catalog.alerting + RuleCatalog.count catalog.recording =
          (payloadEntries data).length) ∧
      ((∃ entry ∈ payloadEntries data, ¬ entry.2.HasRule) →
        ∃ fault, (RuleCatalog.load gateway s).1 = .error fault) := by
  refine ⟨fun hpayload hrules => ?_, ?_⟩
  · obtain ⟨groups, hgroups⟩ := hpayload.exists_decodeAll hrules
    have hdescribes := forall₂_describes hgroups hrules
    have hnames : ∀ definition ∈ RuleGroup.definitions groups,
        ∃ name, definition.name = .text name := by
      intro definition hdefinition
      obtain ⟨entry, hentry, hdescribe⟩ := exists_of_forall₂ hdescribes hdefinition
      obtain ⟨name, hname⟩ := (hrules entry hentry).name
      rw [hdescribe.name, Option.some.injEq] at hname
      exact ⟨name, hname⟩
    obtain ⟨catalog, hcatalog, hfiles⟩ := RuleCatalog.exists_ofGroups hnames
    refine ⟨catalog, _, RuleCatalog.load_eq_ok (hlists.eq_ok hgroups) hcatalog, hdescribes,
      hfiles.get?_eq_some_iff, hfiles.keys, fun metric => ?_, ?_⟩
    · rw [RuleCatalog.isRecorded_iff]
      exact hfiles.keys .recording (.text metric)
    · rw [hfiles.total, hdescribes.length_eq]
  -- had the groups been decoded, the entry would have been a rule
  · rintro ⟨entry, hentry, hno⟩
    rcases hlisted : (gateway.ruleGroups s).1 with fault | groups
    · exact ⟨fault, RuleCatalog.load_eq_error hlisted⟩
    · obtain ⟨definition, _, rule, hrule, _⟩ :=
        exists_of_forall₂ (forall₂_isDecodedFrom (hlists.decodeAll_eq_ok hlisted)).flip hentry
      obtain ⟨hkind, hname, hquery, _⟩ := Rule.decode_eq_ok_iff.1 hrule
      exact absurd ⟨⟨_, hkind⟩, ⟨_, hname⟩, ⟨_, hquery⟩⟩ hno

end Load

/-! ### Two groups -/

/-- A group with a name and one without, and a third without rules. A recording rule occurs in both,
and an alerting rule shares its name. -/
def twoGroups : Json :=
  .object [("groups", .list
    [.object [("name", .text "one"), ("rules", .list
        [.object [("type", .text "recording"), ("name", .text "job:up"), ("query", .text "sum(up)"),
            ("labels", .object [("env", .text "prod")])],
          .object [("type", .text "alerting"), ("name", .text "job:up"),
            ("query", .text "job:up > 1"), ("labels", .null)]])],
      .object [("rules", .list
        [.object [("query", .text "down"), ("type", .text "recording"),
          ("name", .text "job:up")]])],
      .object [("name", .text "three"), ("rules", .null)]])]

/-- The three rules are loaded, two of them under one name. -/
theorem catalog_of_twoGroups :
    (Gateway.ofPayload twoGroups).Lists ([] : List Log.Event) twoGroups ∧ twoGroups.IsPayload ∧
      (∀ entry ∈ payloadEntries twoGroups, entry.2.IsRule) ∧
      ∃ catalog, (RuleCatalog.load (Gateway.ofPayload twoGroups) ([] : List Log.Event)).1 =
          .ok catalog ∧
        catalog.recording.get? (.text "job:up") = some
          [⟨.text "job:up", .text "sum(up)", .recording, ⟨[(.text "env", .text "prod")], by decide⟩,
              .text "one"⟩,
            ⟨.text "job:up", .text "down", .recording, .empty, .text ""⟩] ∧
        RuleCatalog.count catalog.alerting + RuleCatalog.count catalog.recording = 3 := by
  have hlists := Gateway.ofPayload_lists twoGroups ([] : List Log.Event)
  have hgroup : ∀ group ∈ Json.looped (twoGroups.member? "groups"), group.IsObject ∧
      ∃ entries, Json.elementsOrNone (group.member? "rules") = .ok entries := by
    intro group hgroup
    fin_cases hgroup <;> exact ⟨⟨_, rfl⟩, _, rfl⟩
  -- the document has the shape of one, and its entries that of rules
  have hpayload : twoGroups.IsPayload :=
    ⟨⟨_, rfl⟩, ⟨_, rfl⟩, fun group h => (hgroup group h).1, fun group h => (hgroup group h).2⟩
  have hrules : ∀ entry ∈ payloadEntries twoGroups, entry.2.IsRule := by
    intro entry hentry
    fin_cases hentry
    · exact ⟨⟨.recording, rfl⟩, ⟨_, rfl⟩, ⟨_, rfl⟩,
        fun labels h => .inr ⟨_, (Option.some.inj h).symm⟩⟩
    · exact ⟨⟨.alerting, rfl⟩, ⟨_, rfl⟩, ⟨_, rfl⟩, fun labels h => .inl (Option.some.inj h).symm⟩
    · exact ⟨⟨.recording, rfl⟩, ⟨_, rfl⟩, ⟨_, rfl⟩, nofun⟩
  obtain ⟨catalog, definitions, hload, _, _, _, _, htotal⟩ :=
    (catalog_of_payload hlists).1 hpayload hrules
  refine ⟨hlists, hpayload, hrules, catalog, hload, ?_, htotal⟩
  have hfound :
      (RuleCatalog.load (Gateway.ofPayload twoGroups) ([] : List Log.Event)).1.toOption.bind
        (fun loaded => loaded.recording.get? (.text "job:up")) = some
          [⟨.text "job:up", .text "sum(up)", .recording, ⟨[(.text "env", .text "prod")], by decide⟩,
              .text "one"⟩,
            ⟨.text "job:up", .text "down", .recording, .empty, .text ""⟩] := by
    decide +kernel
  rw [hload] at hfound
  exact hfound

end RuleFixtures
