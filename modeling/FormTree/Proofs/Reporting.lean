import FormTree.Proofs.Layout.Interventions
import FormTree.Proofs.Layout.Run

set_option autoImplicit false

/-!
# Reporting is only told

Whether events are reported does not matter to anything else: a layout with reporting turned off
and one with reporting turned on answer alike and stay the same, but for the reports. Nor do the
reports that there are matter to what happens later.

## Main definitions

* `FormTree.Environment.reporting` — the settings with reporting turned on or off.
* `FormTree.Layout.silenced` — a layout without its reports, with reporting turned off.

## Main results

* `FormTree.Layout.play_reports` — what is reported is added to the reports that there are, and does
  not depend on them.
* `FormTree.Layout.activate_silenced` — activation with reporting turned off.
* `FormTree.Layout.silent_play` — everything that can happen to a layout happens alike with
  reporting turned off, where nothing is reported.
-/

namespace FormTree

/-- The settings with reporting turned on or off. -/
def Environment.reporting (environment : Environment) (isEnabled : Bool) : Environment :=
  { environment with config := { environment.config with reporting := { isEnabled } } }

namespace Alteration

/-- There were other reports before. -/
def preceded (earlier : List Report) : Alteration where
  reports reports := earlier ++ reports

/-- Nothing has been reported, and reporting is turned off. -/
def silence : Alteration where
  environment environment := environment.reporting false
  reports _ := []

lemma isUnnoticed_preceded (earlier : List Report) : (preceded earlier).IsUnnoticed where
  alike tree := .refl tree
  isRecording _ := rfl
  report layout report := by
    have hsettings : (layout.alter (preceded earlier)).environment = layout.environment := rfl
    have hadded := List.append_assoc earlier layout.reports [report]
    rw [Layout.report, hsettings, Layout.report]
    split
    · exact congrArg (fun reports => { layout with reports }) hadded
    · rfl

lemma isUnnoticed_silence : silence.IsUnnoticed where
  alike tree := .refl tree
  isRecording _ := rfl
  report layout report := by
    have hoff : (layout.alter silence).environment.config.reporting.isEnabled = false := rfl
    rw [Layout.report, if_neg (by simp [hoff]), Layout.report]
    split <;> rfl

end Alteration

namespace Layout

/-- The layout without its reports, and with reporting turned off. -/
def silenced (layout : Layout) : Layout :=
  { layout with environment := layout.environment.reporting false, reports := [] }

/-! ## Reports that there are -/

/-- **Reports do not matter to what happens later**: the same comes back, the layout is the same,
and the same is reported in addition. -/
theorem play_reports (layout : Layout) (interventions : List Intervention) :
    ∃ more, ∀ reports, ({ layout with reports } : Layout).play interventions =
      ((layout.play interventions).1,
        { (layout.play interventions).2 with reports := reports ++ more }) := by
  -- the layout with nothing reported yet, to which earlier reports are added
  let fresh : Layout := { layout with reports := [] }
  have hafter : ∀ reports, ({ layout with reports } : Layout).play interventions =
      ((fresh.play interventions).1, { (fresh.play interventions).2 with
        reports := reports ++ (fresh.play interventions).2.reports }) := by
    intro reports
    have hpreceded : fresh.alter (.preceded reports) = { layout with reports } := by
      show { layout with reports := reports ++ [] } = { layout with reports }
      rw [List.append_nil]
    rw [← hpreceded, play_alter (Alteration.isUnnoticed_preceded reports) fun _ => rfl]
    rfl
  have hitself := hafter layout.reports
  refine ⟨(fresh.play interventions).2.reports, fun reports => ?_⟩
  rw [hafter reports]
  rw [show layout.play interventions = _ from hitself]

/-! ## No reports -/

/-- **Activation does not depend on whether events are reported.** -/
theorem activate_silenced (environment : Environment) (spec : Spec) :
    activate (environment.reporting false) spec =
      (activate (environment.reporting true) spec).map silenced :=
  activate_alter Alteration.isUnnoticed_silence (fun _ => rfl) rfl (environment.reporting true) rfl

/-- Nothing is ever reported where reporting is turned off. -/
lemma play_silenced (layout : Layout) (interventions : List Intervention) :
    layout.silenced.play interventions =
      ((layout.play interventions).1, (layout.play interventions).2.silenced) :=
  play_alter Alteration.isUnnoticed_silence (fun _ => rfl) interventions layout

/-- Both layouts are taken down in the same way. -/
lemma teardown_silenced (layout : Layout) :
    layout.silenced.teardown = layout.teardown.silenced := by
  have hteardown : (layout.alter .silence).teardown = layout.teardown.alter .silence :=
    teardown_alter layout
  exact hteardown

/-- **Reporting is only told.** With reporting turned off, a declaration is refused for the same
reason, or is brought to life as the same layout but for the reports. From then on the same comes
back from all that is done to the two layouts, and after each intervention, and after they are taken
down, they are still the same but for the reports, of which the one with reporting turned off has
none. What the other one has reported has no influence on what happens later.

**Proof sketch.** Reports are written and never read. So each operation leads from a layout without
its reports and with reporting turned off to what it leads to from the layout itself, again without
the reports, and this goes on through deliveries, routing, calls and runs. -/
theorem silent_play (environment : Environment) (spec : Spec) :
    activate (environment.reporting false) spec =
        (activate (environment.reporting true) spec).map silenced ∧
      ∀ on off, activate (environment.reporting true) spec = .ok on →
        activate (environment.reporting false) spec = .ok off →
        ∀ interventions : List Intervention,
          (off.play interventions).1 = (on.play interventions).1 ∧
          (off.play interventions).2 = (on.play interventions).2.silenced ∧
          (off.play interventions).2.teardown = (on.play interventions).2.teardown.silenced ∧
          (off.play interventions).2.reports = [] ∧
          ∃ more, ∀ reports, ({ on with reports } : Layout).play interventions =
            ((on.play interventions).1,
              { (on.play interventions).2 with reports := reports ++ more }) := by
  refine ⟨activate_silenced environment spec, fun on off hon hoff interventions => ?_⟩
  have hsilenced : off = on.silenced := by
    rw [activate_silenced, hon] at hoff
    exact (Except.ok.inj hoff).symm
  have hplay := play_silenced on interventions
  rw [hsilenced, hplay]
  exact ⟨rfl, rfl, teardown_silenced _, rfl, play_reports on interventions⟩

/-- A form with an input, and with a button that submits and dismisses. -/
def poll : Spec :=
  ⟨.form { id := "poll" }, [], [
    ⟨.input { id := "opinion", kind := .score }, [], []⟩,
    ⟨.button { id := "send", behaviors := [.formSubmit, .dismiss] }, [], []⟩]⟩

/-- The input is shown and answered, its form is turned off and on through the handle, and the
button is tapped, as well as one that does not exist. -/
def pollInterventions : List Intervention :=
  [.call (.attach 1), .call (.setAnswer 1 (.score (some 4))),
    .reviseForm 0 ({ · with isEnabled := false }), .reviseForm 0 ({ · with isEnabled := true }),
    .push (.bubble 1 (.viewAttached "opinion" false)), .call (.click 2), .call (.click 7)]

/-- Both layouts are dismissed with the form submitted, and one of them reports it. -/
theorem silent_play_poll :
    ∃ on off : Layout, activate (Environment.reporting {} true) poll = .ok on ∧
      activate (Environment.reporting {} false) poll = .ok off ∧
      ((on.play pollInterventions).2.reports.map (·.event.kind) =
        [.formDisplay, .formResult, .dismiss] ∧
        ((on.play pollInterventions).2.form 0).value.isSubmitted = true ∧
        (on.play pollInterventions).2.dismissal = some ⟨some "send", false⟩) ∧
      (off.play pollInterventions).1 = (on.play pollInterventions).1 ∧
      (off.play pollInterventions).2 = (on.play pollInterventions).2.silenced ∧
      (off.play pollInterventions).2.reports = [] := by
  have hon : activate (Environment.reporting {} true) poll =
      .ok (build (Environment.reporting {} true) (Tree.ofSpec poll)).settle :=
    activate_eq_ok.mpr ⟨by decide, rfl⟩
  have hoff : activate (Environment.reporting {} false) poll =
      .ok (build (Environment.reporting {} false) (Tree.ofSpec poll)).settle :=
    activate_eq_ok.mpr ⟨by decide, rfl⟩
  obtain ⟨hreplies, hplay, -, hreports, -⟩ :=
    (silent_play {} poll).2 _ _ hon hoff pollInterventions
  exact ⟨_, _, hon, hoff, by decide +kernel, hreplies, hplay, hreports⟩

end Layout

end FormTree
