import RuleFixtures.Proofs.CommandLine.Steps
import RuleFixtures.Proofs.Fixtures.SameAnswers

/-!
What lasts through the steps of a run.

A property of sessions that neither events nor calls of the backend end is kept by the long steps of
a run: loading the rules, reporting on them and making fixtures.

* `Session.Lasting` holds of such properties, `Act.Keeps` of steps that keep a property.
* `Act.keeps_of_agree` takes a step that does not tell sessions apart for one that keeps what lasts.
* `Run.keeps_listing`, `Run.keeps_all` and `Run.keeps_ofCatalog` are the long steps.
-/

namespace RuleFixtures

variable {β : Type} {P : Session β → Prop}

/-- The property stays when an event is noted, and when the backend goes on. -/
structure Session.Lasting (P : Session β → Prop) : Prop where
  record : ∀ event s, P s → P (Log.Journal.record event s)
  goOn : ∀ backend s, P s → P { s with backend }

/-- What lasts is not seen by calls. -/
lemma Session.Lasting.indistinct (h : Session.Lasting P) :
    Session.Indistinct fun s t => P s ∧ s.files = t.files ∧ s.backend = t.backend where
  files _ _ hst := hst.2.1
  backend _ _ hst := hst.2.2
  record event s t hst := by
    have hs := Act.Quiet.log event s
    have ht := Act.Quiet.log event t
    exact ⟨h.record event s hst.1, (hs.files.trans hst.2.1).trans ht.files.symm,
      (hs.backend.trans hst.2.2).trans ht.backend.symm⟩
  goOn backend s _ hst := ⟨h.goOn backend s hst.1, hst.2.1, rfl⟩

namespace Act

variable {α γ : Type}

/-- The step keeps a property, whether it comes to a value or to a fault. -/
def Keeps (P : Session β → Prop) (m : Act (Session β) α) : Prop := ∀ s, P s → P (m s).2

lemma keeps_log (h : Session.Lasting P) (event : Log.Event) : (log event).Keeps P :=
  h.record event

lemma keeps_ofExcept (result : Except Fault α) : (ofExcept result).Keeps P := fun _ h => h

lemma Keeps.bind {m : Act (Session β) α} {f : α → Act (Session β) γ} (hm : m.Keeps P)
    (hf : ∀ a, (f a).Keeps P) : (m >>= f).Keeps P := by
  intro s hs
  obtain ⟨fault, -, hrun⟩ | ⟨a, -, hrun⟩ := bind_cases m f s
  · rw [hrun]
    exact hm s hs
  · rw [hrun]
    exact hf a _ (hm s hs)

/-- The step keeps a property if it comes to a fault. -/
def KeepsFailing (P : Session β → Prop) (m : Act (Session β) α) : Prop :=
  ∀ s fault next, P s → m s = (.error fault, next) → P next

lemma Keeps.failing {m : Act (Session β) α} (hm : m.Keeps P) : m.KeepsFailing P := by
  intro s fault next hs h
  have hkept := hm s hs
  rwa [h] at hkept

lemma Keeps.bind_failing {m : Act (Session β) α} {f : α → Act (Session β) γ} (hm : m.Keeps P)
    (hf : ∀ a, (∃ s, (m s).1 = .ok a) → (f a).KeepsFailing P) : (m >>= f).KeepsFailing P := by
  intro s fault next hs h
  obtain ⟨_, -, hrun⟩ | ⟨a, ha, hrun⟩ := bind_cases m f s
  · rw [hrun] at h
    cases h
    exact hm s hs
  · rw [hrun] at h
    exact hf a ⟨s, ha⟩ _ fault next (hm s hs) h

/-- A step that does not tell sessions apart keeps what lasts. -/
lemma keeps_of_agree {m : Act (Session β) α} {Q : α → α → Prop}
    (h : Agree (fun s t => P s ∧ s.files = t.files ∧ s.backend = t.backend) Eq Q m m) :
    m.Keeps P := fun s hs => (h s s ⟨hs, rfl, rfl⟩).2.1

end Act

namespace CommandLine.Run

variable [Platform] (run : Run β) (h : Session.Lasting P)

include h

lemma keeps_listing (config : RunConfig) : (run.listing config).Keeps P :=
  Act.keeps_of_agree <| run.agree_listing config h.indistinct (fun _ => rfl) config.recordingRules
    config.alertingRules

variable [PromQL.Language]

lemma keeps_all (client : Client) (g : Generator) (select : Json → Bool) :
    (g.all (client.gateway run.transport) select run.now).Keeps P :=
  Act.keeps_of_agree <| g.agree_all_of_same (fun _ => rfl)
    (client.agree_gateway h.indistinct (fun _ => rfl) run.transport) select run.now

omit [Platform] run

lemma keeps_ofCatalog (catalog : RuleCatalog) (selectRecording selectAlerting : Json → Bool) :
    (InspectionReport.ofCatalog catalog selectRecording selectAlerting :
      Act (Session β) InspectionReport).Keeps P :=
  Act.keeps_of_agree <| InspectionReport.agree_ofCatalog (fun _ => rfl) h.indistinct.record catalog
    selectRecording selectAlerting

end CommandLine.Run

end RuleFixtures
