import RuleFixtures.Proofs.CommandLine.Steps
import RuleFixtures.Proofs.Fixtures.SameAnswers

/-!
The commands with further names that pick no rule.

* `Interleave` puts two lists together, each in its order; `RuleSelection.Grows` says that a
  selection is given further names that are not among some keys.
* `Note.Widened` relates notes to the same notes with further warnings, `Session.Widened` sessions
  that differ in this only.
* `Run.agree_warnOfMissing` and `Run.agree_warnOfIgnored`: steps that tell more lead to such
  sessions.
* `Run.outcomesAgree_generate` and `Run.outcomesAgree_inspect`: and so do the commands.
-/

namespace RuleFixtures

/-! ### Lists with further elements -/

/-- The third list holds the elements of the first two, each in their order. -/
inductive Interleave {α : Type} : List α → List α → List α → Prop where
  | nil : Interleave [] [] []
  | left (x : α) {xs ys zs : List α} (h : Interleave xs ys zs) : Interleave (x :: xs) ys (x :: zs)
  | right (y : α) {xs ys zs : List α} (h : Interleave xs ys zs) : Interleave xs (y :: ys) (y :: zs)

namespace Interleave

variable {α : Type} {xs ys zs : List α}

lemma mem_iff (h : Interleave xs ys zs) {a : α} : a ∈ zs ↔ a ∈ xs ∨ a ∈ ys := by
  induction h with
  | nil => simp
  | left x _ ih => rw [List.mem_cons, List.mem_cons, ih, or_assoc]
  | right y _ ih => rw [List.mem_cons, List.mem_cons, ih, or_left_comm]

lemma filter (h : Interleave xs ys zs) (keep : α → Bool) :
    Interleave (xs.filter keep) (ys.filter keep) (zs.filter keep) := by
  induction h with
  | nil => exact .nil
  | left x _ ih =>
    rw [List.filter_cons, List.filter_cons]
    split
    · exact ih.left x
    · exact ih
  | right y _ ih =>
    rw [List.filter_cons, List.filter_cons]
    split
    · exact ih.right y
    · exact ih

lemma eq_of_nil (h : Interleave xs [] zs) : zs = xs := by
  generalize hys : ([] : List α) = ys at h
  induction h with
  | nil => rfl
  | left x _ ih => rw [ih hys]
  | right y _ _ => cases hys

end Interleave

/-- A selection of some names is given further ones that are not among some keys. -/
structure RuleSelection.Grows (selection other : RuleSelection) (further : List String)
    (keys : List Json) : Prop where
  names : Interleave selection.names further other.names
  isSome : further ≠ [] → selection.names ≠ []
  absent : ∀ name ∈ further, .text name ∉ keys

/-- Of the keys the same are picked. -/
lemma RuleSelection.Grows.selects_eq {selection other : RuleSelection} {further : List String}
    {keys : List Json} (h : selection.Grows other further keys) :
    ∀ key ∈ keys, selection.selects key = other.selects key := by
  intro key hkey
  -- no name picks all keys; a further name comes only to others
  have hall : selection.names.isEmpty = other.names.isEmpty := by
    by_cases hfurther : further = []
    · have hnames := h.names
      rw [hfurther] at hnames
      rw [hnames.eq_of_nil]
    · obtain ⟨name, hname⟩ := List.exists_mem_of_ne_nil _ (h.isSome hfurther)
      have hother := List.ne_nil_of_mem (h.names.mem_iff.2 (.inl hname))
      rw [List.isEmpty_eq_false_iff.2 (h.isSome hfurther), List.isEmpty_eq_false_iff.2 hother]
  have hany : (selection.names.any fun picked => key = .text picked) =
      other.names.any fun picked => key = .text picked := by
    rw [Bool.eq_iff_iff, List.any_eq_true, List.any_eq_true]
    refine exists_congr fun picked => and_congr_left fun hpicked => ?_
    rw [h.names.mem_iff, iff_self_or]
    intro hfurther
    rw [of_decide_eq_true hpicked] at hkey
    exact absurd hkey (h.absent picked hfurther)
  rw [selects, selects, selectsAll, selectsAll, hall, hany]

/-- The further names are missing. -/
lemma RuleSelection.Grows.mem_missingFrom {selection other : RuleSelection}
    {further : List String} {keys : List Json} (h : selection.Grows other further keys) :
    ∀ name ∈ further, name ∈ other.missingFrom keys := by
  intro name hname
  refine List.mem_filter.2 ⟨h.names.mem_iff.2 (.inr hname), ?_⟩
  simpa using h.absent name hname

/-! ### Notes with further warnings -/

section Widened

variable [Platform] (width : ℕ)

/-- The text can be shown as a warning on a console of a width. -/
def Tells (text : String) : Prop := ∃ told, Console.Message.warning width text = .ok told

/-- The second list of notes holds further warnings, or warnings of further names. -/
inductive Note.Widened : List Note → List Note → Prop where
  | nil : Widened [] []
  | same (note : Note) {notes others : List Note} (h : Widened notes others) :
    Widened (note :: notes) (note :: others)
  /-- A further warning. -/
  | more {text told : String} (htold : Console.Message.warning width text = .ok told)
    {notes others : List Note} (h : Widened notes others) : Widened notes (.told told :: others)
  /-- The warning of alerting rules names further ones. -/
  | longer {names further picked : List String} (hpicked : Interleave names further picked)
    {told other : String}
    (htold : Console.Message.warning width (CommandLine.Run.ignoringText names) = .ok told)
    (hother : Console.Message.warning width (CommandLine.Run.ignoringText picked) = .ok other)
    {notes others : List Note} (h : Widened notes others) :
    Widened (.told told :: notes) (.told other :: others)

variable {width}

namespace Note.Widened

lemma refl (notes : List Note) : Widened width notes notes := by
  induction notes with
  | nil => exact .nil
  | cons note rest ih => exact .same note ih

lemma append {notes others later laters : List Note} (h : Widened width notes others)
    (hlater : Widened width later laters) : Widened width (notes ++ later) (others ++ laters) := by
  induction h with
  | nil => exact hlater
  | same note _ ih => exact .same note ih
  | more htold _ ih => exact .more htold ih
  | longer hpicked htold hother _ ih => exact .longer hpicked htold hother ih

end Note.Widened

/-- The second session differs from the first one by further warnings only. -/
structure Session.Widened {β : Type} (width : ℕ) (s t : Session β) : Prop where
  files : t.files = s.files
  backend : t.backend = s.backend
  printed : t.printed = s.printed
  threshold : t.threshold = s.threshold
  notes : Note.Widened width s.notes t.notes

namespace Session.Widened

variable {β : Type}

lemma refl (s : Session β) : Widened width s s := ⟨rfl, rfl, rfl, rfl, .refl _⟩

/-- Both sessions take a note. -/
lemma note {s t : Session β} (h : Widened width s t) {notes others : List Note}
    (hnotes : Note.Widened width notes others) :
    Widened width { s with notes := s.notes ++ notes } { t with notes := t.notes ++ others } :=
  ⟨h.files, h.backend, h.printed, h.threshold, h.notes.append hnotes⟩

lemma indistinct : Session.Indistinct (Widened width : Session β → Session β → Prop) where
  files _ _ h := h.files.symm
  backend _ _ h := h.backend.symm
  record event s t h := by
    have hthreshold := h.threshold
    by_cases hnoted : s.threshold ≤ event.level.rank
    · have hnoted' : t.threshold ≤ event.level.rank := hthreshold.trans_le hnoted
      simp only [Log.Journal.record, if_pos hnoted, if_pos hnoted']
      exact h.note (.refl _)
    · have hnoted' : ¬ t.threshold ≤ event.level.rank := fun hle =>
        hnoted (hthreshold.symm.trans_le hle)
      simp only [Log.Journal.record, if_neg hnoted, if_neg hnoted']
      exact h
  goOn _ _ _ h := ⟨h.files, rfl, h.printed, h.threshold, h.notes⟩

end Session.Widened

end Widened

namespace CommandLine.Run

variable {β : Type} [Platform] {width : ℕ}

/-! ### Steps that tell more -/

/-- What the warning of a name without a rule says. -/
def missingText (kind name : String) : String := kind ++ " rule not found: " ++ name

lemma agree_tellMessage (message : Except MarkupFault String) :
    Act.Agree (Session.Widened width) Eq Eq (Session.tellMessage message : Act (Session β) Unit)
      (Session.tellMessage message) := by
  refine (Act.Agree.ofExcept (.refl (fun _ => rfl) _)).bind fun text _ hsame => ?_
  subst hsame
  exact fun s t h => ⟨.values rfl, h.note (.refl _)⟩

/-- Further warnings that can be shown are all that is added. -/
lemma agree_warnOfMissing (kind : String) {names further others : List String}
    (h : Interleave names further others)
    (htells : ∀ name ∈ further, Tells width (missingText kind name)) :
    Act.Agree (Session.Widened width) Eq Eq (warnOfMissing width kind names : Act (Session β) Unit)
      (warnOfMissing width kind others) := by
  induction h with
  | nil => exact .pure rfl
  | left name _ ih => exact (agree_tellMessage _).bind fun _ _ _ => ih htells
  | @right name _ _ others _ ih =>
    rw [List.forall_mem_cons] at htells
    obtain ⟨⟨told, htold⟩, hrest⟩ := htells
    intro s t hstates
    have htell : warnOfMissing width kind (name :: others) t =
        warnOfMissing width kind others { t with notes := t.notes ++ [.told told] } := by
      rw [missingText] at htold
      rw [warnOfMissing, Act.bind_apply, htold]
      rfl
    rw [htell]
    refine ih hrest s _ ?_
    have hnote := hstates.note (.more htold .nil)
    rwa [List.append_nil] at hnote

lemma agree_warnOfSelection (kind : String) {selection other : RuleSelection}
    {further : List String} {table : RuleTable} (h : selection.Grows other further table.keys)
    (htells : ∀ name ∈ further, Tells width (missingText kind name)) :
    Act.Agree (Session.Widened width) Eq Eq
      (warnOfSelection width kind selection table : Act (Session β) Unit)
      (warnOfSelection width kind other table) :=
  agree_warnOfMissing kind (h.names.filter _) fun name hname =>
    htells name (List.mem_of_mem_filter hname)

/-- When the warning of alerting rules gets longer, it can be shown as before. -/
lemma agree_warnOfIgnored {selection other : RuleSelection} {further : List String}
    (h : Interleave selection.names further other.names)
    (htells : further ≠ [] → Tells width (ignoringText other.names) ∧
      (selection.names ≠ [] → Tells width (ignoringText selection.names))) :
    Act.Agree (Session.Widened width) Eq Eq (warnOfIgnored width selection : Act (Session β) Unit)
      (warnOfIgnored width other) := by
  by_cases hfurther : further = []
  · subst hfurther
    have hnames : other.names = selection.names := h.eq_of_nil
    rw [warnOfIgnored, warnOfIgnored, RuleSelection.selectsAll, RuleSelection.selectsAll, hnames]
    split
    · exact .pure rfl
    · exact agree_tellMessage _
  obtain ⟨⟨other', hother⟩, hfirst⟩ := htells hfurther
  have hsome : other.selectsAll = false := by
    obtain ⟨name, hname⟩ := List.exists_mem_of_ne_nil _ hfurther
    exact List.isEmpty_eq_false_iff.2 (List.ne_nil_of_mem (h.mem_iff.2 (.inr hname)))
  intro s t hstates
  have htell : warnOfIgnored width other t =
      (.ok (), { t with notes := t.notes ++ [.told other'] }) := by
    rw [warnOfIgnored, hsome, hother]
    rfl
  rw [htell, warnOfIgnored]
  -- the first run warns of less, or not at all
  by_cases hnone : selection.names = []
  · have hall : selection.selectsAll = true := List.isEmpty_iff.2 hnone
    rw [if_pos hall]
    refine ⟨.values rfl, ?_⟩
    have hnote := hstates.note (.more hother .nil)
    rwa [List.append_nil] at hnote
  · have hpicked : selection.selectsAll = false := List.isEmpty_eq_false_iff.2 hnone
    obtain ⟨told, htold⟩ := hfirst hnone
    rw [hpicked, htold]
    exact ⟨.values rfl, hstates.note (.longer h htold hother .nil)⟩

/-! ### Steps that are the same -/

lemma agree_print (text : String) :
    Act.Agree (Session.Widened width) Eq Eq (Session.print text : Act (Session β) Unit)
      (Session.print text) := by
  intro s t h
  refine ⟨.values rfl, h.files, h.backend, ?_, h.threshold, h.notes⟩
  change t.printed ++ text = s.printed ++ text
  rw [h.printed]

lemma agree_changeFiles (change : Files → Except FileFault Files) :
    Act.Agree (Session.Widened width) Eq Eq (Session.changeFiles change : Act (Session β) Unit)
      (Session.changeFiles change) := by
  intro s t h
  rw [Session.changeFiles, Session.changeFiles, h.files]
  cases change s.files with
  | error fault => exact ⟨.faults rfl, h⟩
  | ok files => exact ⟨.values rfl, rfl, h.backend, h.printed, h.threshold, h.notes⟩

lemma agree_deliver (config : RunConfig) (output : Option String) (fixtures : List Fixture) :
    Act.Agree (Session.Widened width) Eq Eq
      (deliver config width output fixtures : Act (Session β) ℕ)
      (deliver config width output fixtures) := by
  rw [deliver]
  cases output.filter (· ≠ "") with
  | none => exact (agree_print _).bind fun _ _ _ => .pure rfl
  | some path =>
    have hsave : Act.Agree (Session.Widened width) Eq Eq
        (save path (document config fixtures) : Act (Session β) Unit)
        (save path (document config fixtures)) :=
      (agree_changeFiles _).bind fun _ _ _ => agree_changeFiles _
    exact hsave.bind fun _ _ _ => (agree_tellMessage _).bind fun _ _ _ => .pure rfl

lemma agree_showReport (asDocument : Bool) (report : InspectionReport) :
    Act.Agree (Session.Widened width) Eq Eq (showReport width asDocument report : Act (Session β) ℕ)
      (showReport width asDocument report) := by
  rw [showReport]
  cases asDocument with
  | true => exact (agree_print _).bind fun _ _ _ => .pure rfl
  | false =>
    have hreport : Act.Agree (Session.Widened width) Eq Eq
        (printReport width report : Act (Session β) Unit)
        (printReport width report) :=
      (agree_print _).bind fun _ _ _ => .ofExcept (.refl (fun _ => rfl) _)
    exact hreport.bind fun _ _ _ => .pure rfl

variable (run : Run β)

lemma agree_listing_of_widened (config : RunConfig) (recording alerting : RuleSelection) :
    Act.Agree (Session.Widened width) Eq Eq (run.listing config)
      (run.listing (config.picking recording alerting)) :=
  run.agree_listing config Session.Widened.indistinct (fun _ => rfl) recording alerting

variable [PromQL.Language]

/-- The fixtures of all selected rules are made alike. -/
lemma agree_all_of_widened (client : Client) (g : Generator) (select : Json → Bool) :
    Act.Agree (Session.Widened width) Eq Eq (g.all (client.gateway run.transport) select run.now)
      (g.all (client.gateway run.transport) select run.now) :=
  g.agree_all_of_same (fun _ => rfl)
    (client.agree_gateway Session.Widened.indistinct (fun _ => rfl) run.transport) select run.now

/-! ### The commands -/

variable {config : RunConfig} {recording alerting : RuleSelection}
  {moreRecording moreAlerting : List String} {s t : Session β}

/-- Making fixtures with further names that have no recording rule, and any alerting rules. -/
lemma outcomesAgree_generate (output : Option String) (h : Session.Widened run.width s t)
    (hrecording : ∀ gateway catalog, (run.listing config s).1 = .ok (gateway, catalog) →
      config.recordingRules.Grows recording moreRecording catalog.recording.keys)
    (htells : ∀ name ∈ moreRecording, Tells run.width (missingText "Recording" name))
    (halerting : Interleave config.alertingRules.names moreAlerting alerting.names)
    (hignored : moreAlerting ≠ [] → Tells run.width (ignoringText alerting.names) ∧
      (config.alertingRules.names ≠ [] →
        Tells run.width (ignoringText config.alertingRules.names))) :
    OutcomesAgree (Session.Widened run.width) Eq Eq (run.generate config output s)
      (run.generate (config.picking recording alerting) output t) := by
  have hquiet : s.SameOutside (warnOfIgnored run.width config.alertingRules s).2 :=
    quiet_warnOfIgnored run.width _ s
  have hwarned := agree_warnOfIgnored halerting hignored s t h
  have hlisting := run.agree_listing_of_widened config recording alerting _ _ hwarned.2
  rw [generate_eq, generate_eq]
  refine OutcomesAgree.bind hwarned fun _ _ _ _ => ?_
  refine OutcomesAgree.bind hlisting fun ⟨gateway, catalog⟩ _ hlisted hsame => ?_
  subst hsame
  -- The rules are those that are loaded before the warning, too.
  have hcatalog : (run.listing config s).1 = .ok (gateway, catalog) :=
    (run.fst_listing_picking config hquiet config.recordingRules config.alertingRules).symm.trans
      hlisted
  have hgrows := hrecording gateway catalog hcatalog
  obtain ⟨client, rfl⟩ := run.gateway_of_listing config hcatalog
  -- a name that has no rule selects none
  have hselect : Generator.all { catalog } (client.gateway run.transport)
      config.recordingRules.selects run.now =
        Generator.all { catalog } (client.gateway run.transport) recording.selects run.now :=
    Generator.all_congr _ hgrows.selects_eq run.now
  refine (Act.Agree.bind (agree_warnOfSelection "Recording" hgrows htells) fun _ _ _ => ?_) _ _
    hlisting.2
  dsimp only
  rw [hselect]
  refine (run.agree_all_of_widened client { catalog } recording.selects).bind
    fun fixtures _ hsame => ?_
  subst hsame
  exact agree_deliver config output fixtures

/-- Reporting on rules, with further names that have no rule of their kind. -/
lemma outcomesAgree_inspect (asDocument : Bool) (h : Session.Widened run.width s t)
    (hrecording : ∀ gateway catalog, (run.listing config s).1 = .ok (gateway, catalog) →
      config.recordingRules.Grows recording moreRecording catalog.recording.keys)
    (halerting : ∀ gateway catalog, (run.listing config s).1 = .ok (gateway, catalog) →
      config.alertingRules.Grows alerting moreAlerting catalog.alerting.keys)
    (htellsRecording : ∀ name ∈ moreRecording, Tells run.width (missingText "Recording" name))
    (htellsAlerting : ∀ name ∈ moreAlerting, Tells run.width (missingText "Alerting" name)) :
    OutcomesAgree (Session.Widened run.width) Eq Eq (run.inspect config asDocument s)
      (run.inspect (config.picking recording alerting) asDocument t) := by
  rw [inspect_eq, inspect_eq]
  have hlisting := run.agree_listing_of_widened config recording alerting s t h
  refine OutcomesAgree.bind hlisting fun ⟨gateway, catalog⟩ _ hlisted hsame => ?_
  subst hsame
  have hgrows := hrecording gateway catalog hlisted
  have hgrows' := halerting gateway catalog hlisted
  refine (Act.Agree.bind (agree_warnOfSelection "Recording" hgrows htellsRecording) fun _ _ _ => ?_)
    _ _ hlisting.2
  refine (agree_warnOfSelection "Alerting" hgrows' htellsAlerting).bind fun _ _ _ => ?_
  -- further names without a rule select nothing, so the reports are the same
  have hselect : (InspectionReport.ofCatalog catalog config.recordingRules.selects
      config.alertingRules.selects : Act (Session β) InspectionReport) =
        InspectionReport.ofCatalog catalog recording.selects alerting.selects := by
    rw [InspectionReport.ofCatalog, InspectionReport.ofCatalog,
      RuleReport.ofTable_congr catalog _ hgrows.selects_eq,
      RuleReport.ofTable_congr catalog _ hgrows'.selects_eq]
  rw [hselect]
  refine (InspectionReport.agree_ofCatalog (fun _ => rfl) Session.Widened.indistinct.record catalog
    _ _).bind fun report _ hsame => ?_
  subst hsame
  exact agree_showReport asDocument report

end CommandLine.Run

end RuleFixtures
