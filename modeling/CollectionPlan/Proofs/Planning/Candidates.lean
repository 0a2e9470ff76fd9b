import CollectionPlan.Plan.Candidates
import Mathlib.Data.List.Basic

namespace CollectionPlan

-- A computation gives a result and leaves findings, whatever was found before.
def Collecting.Yields (x : Collecting α) (a : α) (found : List Diagnostic) : Prop :=
  ∀ ds, x.run ds = (a, ds.extend ⟨found⟩)

namespace Collecting.Yields

theorem pure (a : α) : Yields (pure a) a [] := by
  intro ds
  have h : ds.extend ⟨[]⟩ = ds := by simp [Diagnostics.extend]
  rw [h]
  rfl

theorem bind {f : α → Collecting β} (hx : Yields x a found) (hf : Yields (f a) b found') :
    Yields (x >>= f) b (found ++ found') := by
  intro ds
  have hb : (x >>= f).run ds = (f (x.run ds).fst).run (x.run ds).snd := rfl
  rw [hb, hx ds, hf]
  simp [Diagnostics.extend]

theorem of_eq (h : Yields x a found) (hf : found = found') : Yields x a found' :=
  hf ▸ h

theorem report : Yields (report kind typeName message) () [⟨kind, typeName, message⟩] :=
  fun _ => rfl

-- What is done under a condition, before all that follows.
theorem runIf {c : Prop} [Decidable c] {x : Collecting Unit} {f : Unit → Collecting α}
    (hx : Yields x () found) (hf : Yields (f ()) a found') :
    Yields (if c then x >>= f else f ()) a ((if c then found else []) ++ found') := by
  split
  case isTrue  => exact hx.bind hf
  case isFalse => exact hf

-- On its own, with nothing found before, a computation does what it does anywhere.
theorem run_alone (h : Yields x a found) : x.run {} = (a, ⟨found⟩) := by
  rw [h]
  simp [Diagnostics.extend]

-- The findings of a loop are those of its steps in order.
theorem foldlM {xs : List α} {f : β → α → Collecting β} {g : β → α → β} {found : α → List Diagnostic}
    (h : ∀ b, ∀ x ∈ xs, Yields (f b x) (g b x) (found x)) :
    Yields (xs.foldlM f b) (xs.foldl g b) (xs.flatMap found) := by
  induction xs generalizing b
  case nil => exact pure b
  case cons x xs ih =>
    have hx := h b x (List.mem_cons_self ..)
    exact hx.bind <| ih fun b y hy => h b y (List.mem_cons_of_mem _ hy)

theorem forM {xs : List α} {f : α → Collecting PUnit} {found : α → List Diagnostic}
    (h : ∀ x, Yields (f x) () (found x)) : Yields (xs.forM f) () (xs.flatMap found) := by
  induction xs
  case nil          => exact pure _
  case cons x xs ih => exact (h x).bind ih

end Collecting.Yields

namespace Candidates

open Collecting

-- A listed method that is of neither kind.
def isUnknown (d : Directive) (method : String) : Bool :=
  !Catalog.standard.has method && !isProjection d method

def unknownMethod (d : Directive) (method : String) : Diagnostic where
  kind     := .unknownMethod
  typeName := d.name
  message  := s!"method {method} is unknown (type {d.name})"

def targetsWithoutMethods (d : Directive) : Diagnostic where
  kind     := .inconsistentConfiguration
  typeName := d.name
  message  := s!"you've included projection types without specifying projection methods on type {d.name}"

-- Listed methods by their kind.
def ofList (d : Directive) (methods : List String) : Candidates where
  standard   := methods.filter Catalog.standard.has
  projection := methods.filter (isProjection d)

def selected (d : Directive) : Candidates :=
  match d.methods with
  | none         => all d
  | some methods => ofList d methods.items

-- What is wrong with the list of methods, if there is one.
def findings (d : Directive) : List Diagnostic :=
  match d.methods with
  | none         => []
  | some methods =>
    (methods.items.filter (isUnknown d)).map (unknownMethod d) ++
      if hasTargets d && (ofList d methods.items).projection.isEmpty then [targetsWithoutMethods d] else []

theorem ofList_cons : ofList d (method :: methods) = (ofList d methods).add d method := by
  simp only [ofList, add, List.filter_cons]

theorem yields_ofNames {methods : List String} :
    (ofNames d methods).Yields (ofList d methods) ((methods.filter (isUnknown d)).map (unknownMethod d)) := by
  induction methods
  case nil => exact .pure _
  case cons method methods ih =>
    have h : ((method :: methods).filter (isUnknown d)).map (unknownMethod d) =
        (if isUnknown d method then [unknownMethod d method] else []) ++
          ((methods.filter (isUnknown d)).map (unknownMethod d) ++ []) := by
      cases hu : isUnknown d method <;> simp [hu]
    have hr : Yields (do return (← ofNames d methods).add d method) ((ofList d methods).add d method) _ :=
      ih.bind (.pure _)
    rw [ofNames, ofList_cons, h]
    exact .runIf .report hr

theorem isSome_of_mem_projection (h : method ∈ (ofList d methods).projection) : d.projections.isSome := by
  simp_all [ofList, isProjection]

-- Projection methods are only found beside targets, so that the second check never fails.
theorem yields_check : (check d (ofList d methods)).Yields ()
    (if hasTargets d && (ofList d methods).projection.isEmpty then [targetsWithoutMethods d] else []) := by
  have hn : (!(ofList d methods).projection.isEmpty && d.projections.isNone) = false := by
    cases hp : (ofList d methods).projection
    case nil => rfl
    case cons method _ =>
      have := isSome_of_mem_projection (hp ▸ List.mem_cons_self ..)
      simp_all
  have hc : Yields (Pure.pure ()) () [] := .pure ()
  unfold check
  simp only [hn, Bool.false_eq_true, if_false]
  exact .of_eq (.runIf .report hc) (List.append_nil _)

theorem yields_ofDirective : (ofDirective d).Yields (selected d) (findings d) := by
  unfold ofDirective selected findings
  cases d.methods
  case none         => exact .pure _
  case some methods =>
    exact .of_eq (yields_ofNames.bind <| yields_check.bind <| .pure _) (by rw [List.append_nil])

-- What is found is about a listed method, or about targets that no method is for.
theorem eq_of_mem_findings (h : x ∈ findings d) :
    (∃ method, x = unknownMethod d method) ∨ x = targetsWithoutMethods d := by
  unfold findings at h
  cases hm : d.methods
  case none => simp [hm] at h
  case some methods =>
    simp only [hm, List.mem_append, List.mem_map] at h
    cases h
    case inl h =>
      have ⟨method, _, hx⟩ := h
      exact .inl ⟨method, hx.symm⟩
    case inr h => split at h <;> simp_all

-- A candidate is a method of the catalog of its kind.
theorem has_of_mem_standard (h : method ∈ (selected d).standard) : Catalog.standard.has method := by
  unfold selected at h
  cases hm : d.methods
  case none => simpa [hm, all, Catalog.has_iff] using h
  case some => simp_all [ofList]

theorem has_of_mem_projection (h : method ∈ (selected d).projection) : Catalog.projection.has method := by
  unfold selected at h
  cases hm : d.methods
  case none => simp_all [all, Catalog.has_iff]
  case some => simp_all [ofList, isProjection]

end Candidates
end CollectionPlan
