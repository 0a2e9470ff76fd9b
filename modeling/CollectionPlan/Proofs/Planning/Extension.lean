import CollectionPlan.Proofs.Planning.TypePlan
import CollectionPlan.Proofs.Resolution.Extension
import Mathlib.Data.List.Flatten

namespace CollectionPlan

-- The second traits have all that the first ones have.
structure Traits.AtMost (t t' : Traits) : Prop where
  numeric    : t.numeric = true → t'.numeric = true
  comparable : t.comparable = true → t'.comparable = true
  ordered    : t.ordered = true → t'.ordered = true

theorem Template.isSatisfiedBy_mono {t : Template} (h : traits.AtMost traits')
    (hs : t.isSatisfiedBy traits = true) : t.isSatisfiedBy traits' = true := by
  have ⟨hn, hc, ho⟩ := isSatisfiedBy_iff.mp hs
  exact isSatisfiedBy_iff.mpr ⟨h.numeric ∘ hn, h.comparable ∘ hc, h.ordered ∘ ho⟩

theorem Catalog.approves_mono {c : Catalog} (h : traits.AtMost traits')
    (ha : c.approves traits method = true) : c.approves traits' method = true := by
  unfold approves at ha ⊢
  cases ht : c.template? method
  case none   => simp [ht] at ha
  case some t =>
    simp only [ht, Option.any_some] at ha ⊢
    exact t.isSatisfiedBy_mono h ha

namespace TypeModel.ExtendedBy

open TypePlan

variable {m m' : TypeModel} {d : Directive} {methods targets : List String} (h : m.ExtendedBy m')
include h

-- A resolved name keeps its handle and loses none of its traits.
theorem resolve_ok (hr : m.resolve n = .ok handle) :
    m'.resolve n = .ok handle ∧ (m.traits handle).AtMost (m'.traits handle) := by
  have ⟨hn, ho⟩ := h.traits_eq (isUnderlying_of_resolve hr)
  refine ⟨h.resolve_eq hr (by simp), ?_⟩
  exact { numeric := by simp [hn], comparable := h.comparable, ordered := by simp [ho] }

theorem approvedStandard_sublist (hr : m.resolve d.name = .ok handle) :
    (approvedStandard m.toUniverse d methods).Sublist (approvedStandard m'.toUniverse d methods) := by
  have ⟨hr', ht⟩ := h.resolve_ok hr
  simp only [approvedStandard, toUniverse, hr, hr']
  exact List.monotone_filter_right _ fun _ ha => Catalog.approves_mono ht ha

theorem approvedFor_sublist (hr : m.resolve target = .ok handle) :
    (approvedFor m.toUniverse methods target).Sublist (approvedFor m'.toUniverse methods target) := by
  have ⟨hr', ht⟩ := h.resolve_ok hr
  simp only [approvedFor, traitsOf, toUniverse, hr, hr']
  exact (List.monotone_filter_right _ fun _ ha => Catalog.approves_mono ht ha).map _

omit h in
-- What resolves leaves no finding.
theorem findings_eq (hs : m.resolve d.name = .ok handle)
    (ht : ∀ target ∈ targetsOf d, ∃ handle, m.resolve target = .ok handle) :
    findings m.toUniverse d = Candidates.findings d := by
  have hf : subjectFindings m.toUniverse d = [] := by simp [subjectFindings, toUniverse, hs]
  have hf' : (targetsOf d).flatMap (targetFindings m.toUniverse d) = [] := by
    rw [List.flatMap_eq_nil_iff]
    intro target hm
    have ⟨_, hr⟩ := ht target hm
    simp [targetFindings, toUniverse, hr]
  rw [findings, hf, hf', List.append_nil, List.append_nil]

end TypeModel.ExtendedBy

namespace TypeModel

open Collecting TypePlan

-- Further declarations take nothing back. A name that resolves keeps what it resolves to and its
-- fields, and it can only become comparable; a malformed name and an alias cycle stay what they are.
-- So a directive whose names all resolve is planned with the same findings and no method less.
theorem established_declareAll (m : TypeModel) (ds : List Declaration) :
    (∀ n handle, m.resolve n = .ok handle →
      (m.declareAll ds).resolve n = .ok handle ∧
      (m.declareAll ds).fieldTags handle = m.fieldTags handle ∧
      ((m.declareAll ds).traits handle).numeric = (m.traits handle).numeric ∧
      ((m.declareAll ds).traits handle).ordered = (m.traits handle).ordered ∧
      ((m.traits handle).comparable = true → ((m.declareAll ds).traits handle).comparable = true)) ∧
    (∀ n text, m.resolve n = .error (.malformed text) →
      (m.declareAll ds).resolve n = .error (.malformed text)) ∧
    (∀ n x, m.resolve n = .error (.aliasCycle x) →
      (m.declareAll ds).resolve n = .error (.aliasCycle x)) ∧
    ∀ package d, (∃ handle, m.resolve d.name = .ok handle) →
      (∀ target ∈ targetsOf d, ∃ handle, m.resolve target = .ok handle) →
      ∃ plan plan' found,
        (ofDirective package d m.toUniverse).Yields plan found ∧
        (ofDirective package d (m.declareAll ds).toUniverse).Yields plan' found ∧
        plan.standardMethods.Sublist plan'.standardMethods ∧
        plan.projections.Sublist plan'.projections := by
  have h : m.ExtendedBy (m.declareAll ds) := .declareAll
  refine ⟨fun n handle hr => ?_, fun n text hr => ?_, fun n x hr => ?_, fun package d hs ht => ?_⟩
  case refine_1 =>
    have hu := isUnderlying_of_resolve hr
    have ⟨hn, ho⟩ := h.traits_eq hu
    exact ⟨h.resolve_eq hr (by simp), h.fieldTags_eq hu, hn, ho, h.comparable⟩
  case refine_2 => exact h.resolve_eq hr (by simp)
  case refine_3 => exact h.resolve_eq hr (by simp)
  case refine_4 =>
    obtain ⟨handle, hs⟩ := hs
    have hs' := (h.resolve_ok hs).left
    have ht' : ∀ target ∈ targetsOf d, ∃ handle, (m.declareAll ds).resolve target = .ok handle := by
      intro target hm
      have ⟨handle, hr⟩ := ht target hm
      exact ⟨handle, (h.resolve_ok hr).left⟩
    have hf : findings (m.declareAll ds).toUniverse d = findings m.toUniverse d := by
      rw [ExtendedBy.findings_eq hs ht, ExtendedBy.findings_eq hs' ht']
    refine ⟨_, _, _, yields_ofDirective, hf ▸ yields_ofDirective, ?_, ?_⟩
    case refine_1 => exact h.approvedStandard_sublist hs
    case refine_2 =>
      refine List.Sublist.flatMap_right _ fun target hm => ?_
      have ⟨_, hr⟩ := ht target hm
      exact h.approvedFor_sublist hr

-- A struct with a member that is not declared, beside an alias of a number and two aliases that stand
-- for each other.
def orders : TypeModel where
  decls := [
    ⟨"Total", .alias (.primitive .int)⟩,
    ⟨"Order", .struct [⟨"region", .named "Region", ""⟩]⟩,
    ⟨"Loop", .alias (.named "Pool")⟩,
    ⟨"Pool", .alias (.named "Loop")⟩]
  nodup := by decide

-- The member, and a name that is declared already.
def later : List Declaration :=
  [⟨"Region", .enum []⟩, ⟨"Loop", .struct []⟩]

def orderDirective : Directive where
  name        := "Order"
  projections := some ⟨["Total"]⟩

theorem established_declareAll_orders :
    (orders.resolve "Total" = .ok ⟨"Total", .primitive .int⟩ ∧
      (orders.traits ⟨"Total", .primitive .int⟩).comparable = true ∧
      (orders.declareAll later).resolve "Total" = .ok ⟨"Total", .primitive .int⟩ ∧
      ((orders.declareAll later).traits ⟨"Total", .primitive .int⟩).comparable = true) ∧
    (orders.resolve "(" = .error (.malformed "(") ∧
      (orders.declareAll later).resolve "(" = .error (.malformed "(")) ∧
    (orders.resolve "Loop" = .error (.aliasCycle "Loop") ∧
      (orders.declareAll later).resolve "Loop" = .error (.aliasCycle "Loop")) ∧
    (orders.resolve orderDirective.name = .ok ⟨"Order", .named "Order"⟩ ∧
      targetsOf orderDirective = ["Total"] ∧
      ∃ plan plan' found,
        (ofDirective "shop" orderDirective orders.toUniverse).Yields plan found ∧
        (ofDirective "shop" orderDirective (orders.declareAll later).toUniverse).Yields plan' found ∧
        plan.standardMethods.Sublist plan'.standardMethods ∧
        plan.projections.Sublist plan'.projections) := by
  have ht : orders.resolve "Total" = .ok ⟨"Total", .primitive .int⟩ := by rfl
  have hc : (orders.traits ⟨"Total", .primitive .int⟩).comparable = true := by decide
  have hm : orders.resolve "(" = .error (.malformed "(") := by rfl
  have hl : orders.resolve "Loop" = .error (.aliasCycle "Loop") := by rfl
  have ho : orders.resolve orderDirective.name = .ok ⟨"Order", .named "Order"⟩ := by rfl
  have ⟨hok, hmal, hcyc, hplan⟩ := established_declareAll orders later
  have ⟨ht', _, _, _, hc'⟩ := hok _ _ ht
  refine ⟨⟨ht, hc, ht', hc' hc⟩, ⟨hm, hmal _ _ hm⟩, ⟨hl, hcyc _ _ hl⟩, ho, rfl, ?_⟩
  refine hplan "shop" orderDirective ⟨_, ho⟩ fun target h => ?_
  have he : target = "Total" := by simpa [targetsOf, orderDirective] using h
  exact ⟨_, he ▸ ht⟩

end TypeModel
end CollectionPlan
