import CollectionPlan.Command.Run
import CollectionPlan.Proofs.Command.Write
import CollectionPlan.Proofs.Planning.Directory

namespace CollectionPlan.FileTree

variable {t : FileTree} {colors : Bool} {r : PlanRequest} {c : Config} {path : FilePath} {place : Place}
  {text : String} {trouble : Option Trouble} {report : Report}

-- Delivering.

theorem deliver_of_error (h : t.target path = .error e) :
    t.deliver (some path) text trouble = { tree := t, trouble := some { message := e.message } } := by
  simp [deliver, write, h, bind, Except.bind]

theorem deliver_of_target (h : t.target path = .ok place) : t.deliver (some path) text trouble =
    { tree := t.put place (.file text.toUTF8), trouble } := by
  simp [deliver, write, h, bind, Except.bind, pure, Except.pure]

-- Only a refusal adds a reason to fail.
theorem isSome_trouble_deliver {output : Option FilePath} : (t.deliver output text trouble).trouble.isSome ↔
    trouble.isSome ∨ ∃ path e, output = some path ∧ t.target path = .error e := by
  cases output
  case none      => simp [deliver]
  case some path =>
    cases ht : t.target path
    case error => simp [deliver_of_error ht, ht]
    case ok    => simp [deliver_of_target ht, ht]

theorem isSome_strictTrouble? {strict : Bool} :
    (strictTrouble? strict report).isSome ↔ strict = true ∧ report.diagnostics ≠ [] := by
  unfold strictTrouble?
  split <;> simp_all

-- Planning.

section PlanProject

variable (hc : (Config.load t).override r = c)
include hc

theorem planProject_of_error (h : t.planDirectory r.path c = .error f) : t.planProject colors r =
    { tree := t, trouble := some (.inContext s!"Failed to plan {r.path}" f.chain) } := by
  unfold planProject
  rw [hc]
  dsimp only
  rw [h]

theorem planProject_of_ok (h : t.planDirectory r.path c = .ok report) : t.planProject colors r =
    t.deliver r.output (c.format.report colors report) (strictTrouble? r.strict report) := by
  unfold planProject
  rw [hc]
  dsimp only
  rw [h]

theorem isSome_trouble_planProject : (t.planProject colors r).trouble.isSome ↔
    (∃ f, t.planDirectory r.path c = .error f) ∨
    (∃ path e, r.output = some path ∧ t.target path = .error e) ∨
    (r.strict = true ∧ ∃ report, t.planDirectory r.path c = .ok report ∧ report.diagnostics ≠ []) := by
  cases hp : t.planDirectory r.path c
  case error => simp [planProject_of_error hc hp]
  case ok    =>
    rw [planProject_of_ok hc hp, isSome_trouble_deliver, isSome_strictTrouble?]
    simp [or_comm]

end PlanProject

-- A run that fails before all is written, or that has no output, changes nothing. Any other run puts the
-- whole report on the tree as it was before into the output, and changes nothing else. Only then findings
-- can make it fail.
theorem planProject_effect (hc : (Config.load t).override r = c) (colors : Bool) :
    (∀ f, t.planDirectory r.path c = .error f → (t.planProject colors r).tree = t) ∧
    (r.output = none → (t.planProject colors r).tree = t) ∧
    (∀ path e, r.output = some path → t.target path = .error e → (t.planProject colors r).tree = t) ∧
    (∀ report path place, t.planDirectory r.path c = .ok report → r.output = some path →
      t.target path = .ok place →
      t.Writes place (c.format.report colors report) (t.planProject colors r).tree ∧
      (t.planProject colors r).tree.readText path = .ok (c.format.report colors report)) ∧
    ((t.planProject colors r).trouble.isSome ↔
      (∃ f, t.planDirectory r.path c = .error f) ∨
      (∃ path e, r.output = some path ∧ t.target path = .error e) ∨
      (r.strict = true ∧ ∃ report, t.planDirectory r.path c = .ok report ∧ report.diagnostics ≠ [])) := by
  have he (f : Failure) (hp : t.planDirectory r.path c = .error f) :
      (t.planProject colors r).tree = t := by
    rw [planProject_of_error hc hp]
  refine ⟨he, fun ho => ?_, fun path e ho ht => ?_, fun report path place hp ho ht => ?_,
    isSome_trouble_planProject hc⟩
  case refine_1 =>
    cases hp : t.planDirectory r.path c
    case error => exact he _ hp
    case ok    => rw [planProject_of_ok hc hp, ho, deliver]
  case refine_2 =>
    cases hp : t.planDirectory r.path c
    case error => exact he _ hp
    case ok    => rw [planProject_of_ok hc hp, ho, deliver_of_error ht]
  case refine_3 =>
    rw [planProject_of_ok hc hp, ho, deliver_of_target ht]
    exact ⟨writes_put ht, readText_put ht⟩

-- One of the sources that are planned, and that does not parse, is the output itself.
def replaceCrane : PlanRequest where
  path   := "src"
  format := some .json
  output := some "src/crane.rs"
  strict := true

theorem planProject_effect_harbor : ∃ report,
    harbor.planDirectory "src" { format := .json } = .ok report ∧
    harbor.Writes ["src", "crane.rs"] (OutputFormat.json.report false report)
      (harbor.planProject false replaceCrane).tree ∧
    (harbor.planProject false replaceCrane).trouble.isSome := by
  have hc : (Config.load harbor).override replaceCrane = { format := .json } := by decide +kernel
  have hd : harbor.find "src" = .ok .directory := by rfl
  have ht : harbor.target "src/crane.rs" = .ok ["src", "crane.rs"] := by rfl
  have ⟨report, entries, _, _, hp, hl, hr⟩ :=
    planDirectory_of_directory (c := { format := .json }) rfl hd
  have ⟨_, _, _, hw, hf⟩ := planProject_effect hc false
  have hpier : (⟨"src/pier.rs", .locked .denied⟩ : SourceEntry) ∈ entries := by
    refine (hl.mem_iff _).mpr ⟨?_, ["src"], "pier.rs", ?_, ?_, ?_⟩
    all_goals rfl
  have ⟨_, hx⟩ : ∃ x, (⟨"src/pier.rs", .locked .denied⟩ : SourceEntry).readFinding? = some x := ⟨_, rfl⟩
  have hn : report.diagnostics ≠ [] := by
    rw [hr.diagnostics_eq, List.append_assoc]
    exact List.ne_nil_of_mem (List.mem_append_left _ (List.mem_filterMap.mpr ⟨_, hpier, hx⟩))
  exact ⟨report, hp, (hw report _ _ hp rfl ht).left, hf.mpr <| .inr <| .inr ⟨rfl, report, hp, hn⟩⟩

end CollectionPlan.FileTree
